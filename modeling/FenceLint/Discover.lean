import FenceLint.Ignore.Filter
import FenceLint.Trace

/-!
# Finding files

The files below a directory that the include patterns select and the ignore files leave in.  Names
that start with a dot are passed over.  The result does not depend on the order in which the
directory is listed, except where two names differ only in a slash or backslash.
-/

namespace FenceLint

variable {P : Type} [Ignore.Matcher P]

namespace Discover

/-- The include patterns when none are given. -/
def defaultPatterns : List String := ["**/*.md"]

/-- A name on the way is hidden. -/
def isHidden (parts : List String) : Bool := parts.any fun p => p.toList.head? == some '.'

/-- Sorted by the text of the path. -/
def sortPaths (paths : List (List String)) : List (List String) :=
  paths.mergeSort fun a b =>
    !decide (String.ofList (Path.matchText b) < String.ofList (Path.matchText a))

/-- An entry is to be linted. -/
def wanted (includes : P) (filter : Filter P) (e : Entry) : Bool :=
  e.node != .directory && !isHidden e.parts &&
    Ignore.Matcher.selects includes (Path.matchText e.parts) && !filter.ignoresParts e.parts

/-- The files to lint among the listed entries, sorted. -/
def select (includes : P) (filter : Filter P) (listing : List Entry) : List (List String) :=
  sortPaths ((listing.filter (wanted includes filter)).map (·.parts))

/-- Everything below a directory, by the names from it.  What is no directory has nothing below. -/
def listing (t : Tree) (root : Path) : List Entry :=
  if t.isDirectory root then
    (t.below root.parts).map fun e => { e with parts := e.parts.drop root.parts.length }
  else []

/-- The include patterns; none given means the default ones. -/
def includesOf (patterns : List String) : Except Failure P :=
  Filter.parsePatterns (if patterns.isEmpty then defaultPatterns else patterns)

/-- The files to lint below `root`, which is resolved, when its entries are listed as `entries`. -/
def filesIn (t : Tree) (root : Path) (patterns : List String) (filter? : Option (Filter P))
    (entries : List Entry) : Except Failure (List (List String)) := do
  let includes ← includesOf patterns
  let filter ← match filter? with
    | some f => .ok f
    | none => Filter.load t root (entries.map (·.parts))
  return select includes filter entries

end Discover

/-- The files to lint below a directory, by their names from it.  Without a filter the ignore
files of the tree are read. -/
def discover (t : Tree) (root : Path) (patterns : List String) (filter? : Option (Filter P)) :
    Traced (List (List String)) := do
  let root ← Traced.ofExcept (Tree.resolve root)
  let files ← Traced.ofExcept (Discover.filesIn t root patterns filter? (Discover.listing t root))
  Traced.log .debug
    ("Discovered " ++ toString files.length ++ " markdown file(s) under " ++ t.pathText root)
  return files

end FenceLint
