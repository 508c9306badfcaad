import FenceLint.Text.Utf8
import FenceLint.Tree.Path

/-!
# File trees

A directory with everything below it, as a list of entries.  Whoever reads a file gets its text,
or the reason why there is none.

An entry is a regular file or a directory.  Symbolic links and permissions are left out: an entry
stands at one place only, and nobody is kept from opening it.  Names are texts; one whose bytes are
no UTF-8 has no place in a tree.
-/

namespace FenceLint

/-- What a name stands for. -/
inductive Node where
  /-- A regular file with its bytes. -/
  | file (bytes : List UInt8)
  /-- A directory. -/
  | directory
deriving Repr, DecidableEq, Inhabited

/-- An entry: the names that lead to it from the top, and what it is. -/
structure Entry where
  /-- The names from the top on. -/
  parts : List String
  /-- What stands there. -/
  node : Node
deriving Repr, DecidableEq, Inhabited

/-- A file tree. -/
structure Tree where
  /-- The path of the top directory, for messages. -/
  name : String
  /-- Everything below the top; the directories of an entry are entries too. -/
  entries : List Entry
deriving Repr, Inhabited

/-- Why a file cannot be opened. -/
inductive OpenFault where
  /-- Nothing stands there. -/
  | missing
  /-- A file stands where a directory should. -/
  | notDirectory
  /-- A directory stands there. -/
  | isDirectory
  /-- A name on the way, or the whole path, is longer than any can be. -/
  | tooLong
  /-- The path holds a null character. -/
  | nullCharacter
deriving Repr, DecidableEq, Inhabited

namespace OpenFault

/-- A fault with its number in the system. -/
def numbered (number : Nat) (wording path : String) : String :=
  "[Errno " ++ toString number ++ "] " ++ wording ++ ": " ++ Text.quote path

/-- The fault as it is reported for a path. -/
def message (f : OpenFault) (path : String) : String :=
  match f with
  | missing => numbered 2 "No such file or directory" path
  | notDirectory => numbered 20 "Not a directory" path
  | isDirectory => numbered 21 "Is a directory" path
  | tooLong => numbered 36 "File name too long" path
  | nullCharacter => "embedded null byte"

end OpenFault

namespace Tree

/-- What stands at the names `parts`, all of which go down. -/
def at? (t : Tree) (parts : List String) : Option Node :=
  if parts.isEmpty then some .directory
  else (t.entries.find? fun e => e.parts == parts).map (·.node)

/-- Adds an entry, or replaces it. -/
def set (t : Tree) (parts : List String) (node : Node) : Tree :=
  if (t.at? parts).isSome then
    { t with entries := t.entries.map fun e => if e.parts == parts then ⟨parts, node⟩ else e }
  else { t with entries := t.entries ++ [⟨parts, node⟩] }

/-- Adds an entry and the directories above it that are missing. -/
def insert (t : Tree) (parts : List String) (node : Node) : Tree :=
  let above := (List.range' 1 (parts.length - 1)).map parts.take
  let t := above.foldl (fun t d => if (t.at? d).isSome then t else t.set d .directory) t
  t.set parts node

/-- The most bytes that a name may have. -/
def maxName : Nat := 255

/-- The most bytes that a path may have. -/
def maxPath : Nat := 4095

/-- The name is longer than any can be. -/
def isLongName (name : String) : Bool := maxName < name.utf8ByteSize

/-- Follows names, up and down, from the directory `here`, or from somewhere above the top if there
is none: all that is known of the directories above the top is that they exist. -/
def follow (t : Tree) : Option (List String) → List String → Except OpenFault Node
  | none, [] => .ok .directory
  | none, p :: ps =>
    if p == ".." then t.follow none ps
    else .error (if isLongName p then .tooLong else .missing)
  | some here, [] => match t.at? here with
    | some n => .ok n
    | none => .error .missing
  | some here, p :: ps =>
    match t.at? here with
    | none => .error .missing
    | some (.file _) => .error .notDirectory
    | some .directory =>
      if p == ".." then t.follow (if here.isEmpty then none else some here.dropLast) ps
      else if isLongName p then .error .tooLong
      else t.follow (some (here ++ [p])) ps

/-- The written form of a path. -/
def pathText (t : Tree) (p : Path) : String := p.text t.name

/-- What a path leads to. -/
def lookup (t : Tree) (p : Path) : Except OpenFault Node :=
  if p.hasNull then .error .nullCharacter
  else if maxPath < (t.pathText p).utf8ByteSize then .error .tooLong
  else
    match p.anchor with
    | .relative | .top => t.follow (some []) p.parts
    | .slash | .slashes => t.follow none p.parts

/-- What stands at a path, if anything does.  Only a path that is too long is not looked up at all.
-/
def node? (t : Tree) (p : Path) : Except OpenFault (Option Node) :=
  match t.lookup p with
  | .ok n => .ok (some n)
  | .error .tooLong => .error .tooLong
  | .error _ => .ok none

/-- A directory stands at the path. -/
def isDirectory (t : Tree) (p : Path) : Bool :=
  match t.lookup p with
  | .ok .directory => true
  | _ => false

/-- Everything below the directory at `parts`, entries near to it first. -/
def below (t : Tree) (parts : List String) : List Entry :=
  let inside := t.entries.filter fun e => parts.isPrefixOf e.parts && e.parts != parts
  inside.mergeSort fun a b => a.parts.length ≤ b.parts.length

end Tree

end FenceLint
