import FenceLint.Failure

/-!
# Ignore files of a tree

The ignore file at the root of a search applies to everything below it, after two patterns that
are always there.  An ignore file in a directory below applies to that directory, unless the root
patterns ignore the ignore file itself.  How patterns are read and matched is left open.
-/

namespace FenceLint

/-- What a search leaves out. -/
structure Filter (P : Type := Ignore.Patterns) where
  /-- The directory where the search starts. -/
  root : Path
  /-- The patterns for all paths. -/
  rootPatterns : P
  /-- Directories below the root, by their names from it, with the patterns for what lies in them.
  -/
  nested : List (List String × P)
deriving Repr, Inhabited

namespace Filter

variable {P : Type} [Ignore.Matcher P]

/-- The name of an ignore file. -/
def fileName : String := ".gitignore"

/-- The patterns that are always there. -/
def alwaysIgnored : List String := ["node_modules/", ".git/"]

/-- Reads patterns. -/
def parsePatterns (lines : List String) : Except Failure P :=
  (Ignore.Matcher.read lines).mapError .pattern

/-- The patterns of the root. -/
def loadRoot (t : Tree) (root : Path) : Except Failure P :=
  let path := root.child fileName
  (t.isFile path).bind fun isFile =>
    if isFile then
      (t.readText path).bind fun text => parsePatterns (alwaysIgnored ++ Text.linesOf text)
    else parsePatterns alwaysIgnored

/-- The patterns of the ignore file that an entry is, with its directory.  Other entries give
nothing, nor does an ignore file that the root patterns select. -/
def loadNested (t : Tree) (root : Path) (patterns : P) (parts : List String) :
    Except Failure (Option (List String × P)) :=
  if parts.getLast? != some fileName || parts.length ≤ 1 ||
    Ignore.Matcher.selects patterns (Path.matchText parts)
  then .ok none
  else
    (t.readText { root with parts := root.parts ++ parts }).bind fun text =>
      (parsePatterns (Text.linesOf text)).map fun ps => some (parts.dropLast, ps)

/-- Reads the ignore files among the listed entries, which are given by their names from the root.
-/
def load (t : Tree) (root : Path) (listing : List (List String)) : Except Failure (Filter P) := do
  let rootPatterns ← loadRoot t root
  let nested ← listing.mapM (loadNested t root rootPatterns)
  return ⟨root, rootPatterns, nested.filterMap id⟩

/-- The filter leaves out what the names lead to from the root. -/
def ignoresParts (f : Filter P) (parts : List String) : Bool :=
  Ignore.Matcher.selects f.rootPatterns (Path.matchText parts) ||
    f.nested.any fun (directory, patterns) =>
      directory.isPrefixOf parts &&
        Ignore.Matcher.selects patterns (Path.matchText (parts.drop directory.length))

/-- The filter leaves out a path; a relative one is taken from the root, an absolute one has to lie
below it. -/
def ignores (f : Filter P) (t : Tree) (p : Path) : Except Failure Bool :=
  if p.isAbsolute then
    match p.relativeTo? f.root with
    | some parts => .ok (f.ignoresParts parts)
    | none => .error (.outside (t.pathText p) (t.pathText f.root))
  else .ok (f.ignoresParts p.parts)

/-- The paths that the filter keeps. -/
def keep (f : Filter P) (t : Tree) (paths : List Path) : Except Failure (List Path) :=
  paths.filterM fun p => (f.ignores t p).map (!·)

end Filter

end FenceLint
