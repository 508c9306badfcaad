import FenceLint.Text.Lines

/-!
# Paths

Paths of a file tree.  A path is relative to the top of the tree, which is the working directory, or
absolute: at the top, or elsewhere.
-/

namespace FenceLint

/-- Where a path starts. -/
inductive Anchor where
  /-- The working directory. -/
  | relative
  /-- The top of the tree, as an absolute path. -/
  | top
  /-- The root of the file system. -/
  | slash
  /-- The root that is written with two slashes. -/
  | slashes
deriving Repr, DecidableEq, Inhabited

/-- A path: its start and the names that follow. -/
structure Path where
  /-- Where the path starts. -/
  anchor : Anchor
  /-- The names, from the start on. -/
  parts : List String
deriving Repr, DecidableEq, Inhabited

namespace Path

/-- The top of the tree. -/
def top : Path := ⟨.top, []⟩

/-- The names of a written path; empty ones and single dots are left out. -/
def partsOf (s : String) : List String :=
  (Text.pieces '/' s).filter fun p => p != "" && p != "."

/-- Reads a path as it is written.  Exactly two leading slashes are kept apart from one. -/
def parse (s : String) : Path :=
  let slashes := (s.toList.takeWhile (· == '/')).length
  let anchor :=
    if slashes == 0 then .relative else if slashes == 2 then .slashes else .slash
  ⟨anchor, partsOf s⟩

/-- The path does not depend on the working directory. -/
def isAbsolute (p : Path) : Bool := p.anchor != .relative

/-- A name of the path holds a null character. -/
def hasNull (p : Path) : Bool := p.parts.any fun name => name.toList.contains '\x00'

/-- The path `p` below `base`, unless `p` is absolute. -/
def under (base p : Path) : Path :=
  if p.isAbsolute then p else { base with parts := base.parts ++ p.parts }

/-- The entry with this name in the directory `p`. -/
def child (p : Path) (name : String) : Path := { p with parts := p.parts ++ [name] }

/-- The names that lead from `base` to `p`, if `p` starts with `base`. -/
def relativeTo? (p base : Path) : Option (List String) :=
  if p.anchor == base.anchor && base.parts.isPrefixOf p.parts then
    some (p.parts.drop base.parts.length)
  else none

/-- The names joined by slashes; a dot if there are none. -/
def partsText (parts : List String) : String :=
  if parts.isEmpty then "." else String.intercalate "/" parts

/-- The written form of a path in a tree whose top directory is called `top`. -/
def text (top : String) (p : Path) : String :=
  let rest := String.intercalate "/" p.parts
  match p.anchor with
  | .relative => partsText p.parts
  | .top => if p.parts.isEmpty then top else top ++ "/" ++ rest
  | .slash => "/" ++ rest
  | .slashes => "//" ++ rest

/-- Resolves names that go up: each takes away the name before it. -/
def resolveParts (parts : List String) : List String :=
  (parts.foldl (fun done p => if p == ".." then done.tail else p :: done) []).reverse

/-- The absolute path without names that go up. -/
def resolve (p : Path) : Path :=
  let anchor := if p.anchor == .relative then .top else p.anchor
  ⟨anchor, resolveParts p.parts⟩

/-- The text of relative names that patterns match and files are sorted by: backslashes count as
slashes. -/
def matchText (parts : List String) : List Char :=
  (partsText parts).toList.map fun c => if c == '\\' then '/' else c

end Path

end FenceLint
