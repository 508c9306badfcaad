import FenceLint.Ignore.Glob
import FenceLint.Text.Blank
import FenceLint.Text.Lines
import FenceLint.Text.Quoted

/-!
# Ignore patterns

One line of an ignore file.  A line is no pattern at all, a pattern that ignores what it matches,
or a negated pattern that includes it again.

What a search does with patterns does not depend on their form: it reads lines and asks which paths
they select (`Matcher`).
-/

namespace FenceLint.Ignore

/-- Why a line is no valid pattern. -/
inductive PatternError where
  /-- The line names nothing, or ends in a backslash that escapes nothing. -/
  | invalid (line : String)
  /-- A range of characters runs backwards; `compiled` is the compiled pattern and `offset` the
  place of the range in it. -/
  | badRange (first last : List Char) (compiled : List Char) (offset : Nat)
deriving Repr, DecidableEq, Inhabited

namespace PatternError

/-- The line and column of an offset, for a pattern of several lines. -/
def lineText (compiled : List Char) (offset : Nat) : String :=
  let before := compiled.take offset
  if compiled.contains '\n' then
    " (line " ++ toString (before.count '\n' + 1) ++ ", column " ++
      toString ((before.reverse.takeWhile (· != '\n')).length + 1) ++ ")"
  else ""

/-- The wording of an error. -/
def message : PatternError → String
  | invalid line => "Invalid git pattern: " ++ Text.quote line
  | badRange first last compiled offset =>
    "bad character range " ++ String.ofList (first ++ '-' :: last) ++ " at position " ++
      toString offset ++ lineText compiled offset

end PatternError

/-- A pattern. -/
structure Pattern where
  /-- What it matches is included again. -/
  negated : Bool
  /-- What it matches. -/
  atoms : List Atom
deriving Repr, DecidableEq, Inhabited

namespace Pattern

/-! ## Segments -/

/-- Why the name between two slashes cannot be used. -/
inductive SegmentFault where
  /-- A bracket does not close; the whole line is then no pattern. -/
  | unclosed
  /-- The name ends in a backslash. -/
  | loneBackslash
deriving Repr, DecidableEq

/-- The members of a set from the text between its brackets. -/
def itemsOf : List Char → List SetItem
  | a :: '-' :: b :: cs => .range a b :: itemsOf cs
  | a :: cs => .single a :: itemsOf cs
  | [] => []

/-- The text of a set up to its closing bracket, and what follows; a bracket at the start belongs
to the set. -/
def setText? (cs : List Char) : Option (List Char × List Char) :=
  let (head, tail) := match cs with
    | ']' :: cs => ([']'], cs)
    | cs => ([], cs)
  match tail.dropWhile (· != ']') with
  | ']' :: rest => some (head ++ tail.takeWhile (· != ']'), rest)
  | _ => none

/-- The set at the start of `cs`, after its opening bracket. -/
def set? (cs : List Char) : Option (Atom × List Char) :=
  let (negated, cs) := match cs with
    | '!' :: cs => (true, cs)
    | '^' :: cs => (true, cs)
    | cs => (false, cs)
  (setText? cs).map fun (text, rest) => (.set negated (itemsOf text), rest)

/-- The atoms of a name, `n` characters of it at most. -/
def nameAtoms : Nat → List Char → Except SegmentFault (List Atom)
  | _, [] => .ok []
  | 0, _ => .ok []
  | n + 1, c :: cs =>
    match c, cs with
    | '\\', [] => .error .loneBackslash
    | '\\', d :: cs => (nameAtoms n cs).map (.char d :: ·)
    | '*', cs => (nameAtoms n cs).map (.run 0 :: ·)
    | '?', cs => (nameAtoms n cs).map (.one :: ·)
    | '[', cs =>
      match set? cs with
      | none => .error .unclosed
      | some (a, rest) => (nameAtoms n rest).map (a :: ·)
    | c, cs => (nameAtoms n cs).map (.char c :: ·)

/-- The part of a pattern between two slashes. -/
inductive Segment where
  /-- Any number of names. -/
  | stars
  /-- One name. -/
  | name (text : List Char)
deriving Repr, DecidableEq

/-- A segment as it is written. -/
def Segment.ofChars (cs : List Char) : Segment := if cs == ['*', '*'] then .stars else .name cs

/-- Leaves one of neighbouring double stars. -/
def collapse : List Segment → List Segment
  | .stars :: .stars :: ss => collapse (.stars :: ss)
  | s :: ss => s :: collapse ss
  | [] => []

/-- The segments of a written pattern.  A single name, with or without a slash after it, is looked
for at every depth; any other pattern starts at the directory of its file.  A slash at the end
stands for everything below. -/
def segments (cs : List Char) : List Segment :=
  let pieces := (Text.cutAt '/' cs).map Segment.ofChars
  let pieces := match pieces with
    | .name [] :: rest => rest
    | [.stars] | [.stars, .name []] => pieces
    | [s] => [.stars, s]
    | [s, .name []] => [.stars, s, .name []]
    | pieces => pieces
  match pieces.getLast? with
  | some (.name []) => collapse (pieces.dropLast ++ [.stars])
  | _ => collapse pieces

/-- The atoms of segments, the first of which stands at the start if `first`; `slash` tells
whether a slash has to come before a name. -/
def segmentAtoms : Bool → Bool → List Segment → Except SegmentFault (List Atom)
  | _, _, [] => .ok []
  | true, _, .stars :: ss => (segmentAtoms false false ss).map (.directories :: ·)
  | false, _, [.stars] => .ok [.char '/']
  | false, _, .stars :: ss => (segmentAtoms false true ss).map (.inner :: ·)
  | _, slash, .name text :: ss =>
    let lead := if slash then [Atom.char '/'] else []
    let own := if text == ['*'] then .ok [Atom.run 1] else nameAtoms text.length text
    own.bind fun atoms =>
      let tail := if ss.isEmpty then [Atom.nameEnd] else []
      (segmentAtoms false true ss).map (lead ++ atoms ++ tail ++ ·)

/-- The atoms of all segments. -/
def atomsOf (cs : List Char) : Except SegmentFault (List Atom) :=
  match segments cs with
  | [.stars] => .ok [if cs.getLast? == some '/' then .someSlash else .something]
  | [.stars, .name ['*']] => .ok [.something]
  | [.stars, .name ['*'], .stars] => .ok [.someSlash]
  | ss => segmentAtoms true false ss

/-! ## Backward ranges

A range that runs backwards is reported with its place in the compiled pattern, in which every
atom has a written form: `^` at the start, `(?:.+/)?` for leading directories, `[^/]*` for a run,
and so on.
-/

/-- Characters that are written with a backslash in a compiled pattern. -/
def isSpecial (c : Char) : Bool := "()[]\x7b\x7d?*+-|^$\\.&~# \t\n\r\x0b\x0c".toList.contains c

/-- A member of a set as it is written: only the backslash is escaped. -/
def setChar (c : Char) : List Char := if c == '\\' then ['\\', '\\'] else [c]

/-- A member or range of a set as it is written. -/
def compiledItem : SetItem → List Char
  | .single c => setChar c
  | .range a b => setChar a ++ '-' :: setChar b

/-- The opening of a set as it is written. -/
def compiledOpening (negated : Bool) : List Char := if negated then ['[', '^'] else ['[']

/-- An atom as it is written. -/
def compiledAtom : Atom → List Char
  | .char c => if isSpecial c then ['\\', c] else [c]
  | .one => "[^/]".toList
  | .run least => "[^/]".toList ++ [if least == 0 then '*' else '+']
  | .set negated items => compiledOpening negated ++ items.flatMap compiledItem ++ [']']
  | .directories => "(?:.+/)?".toList
  | .inner => "(?:/.+)?".toList
  | .nameEnd => "(?:/|$)".toList
  | .someSlash | .something => []

/-- The compiled pattern. -/
def compiled (atoms : List Atom) : List Char := '^' :: atoms.flatMap compiledAtom

/-- The first range that runs backwards, with its place if the items are written from an offset on.
-/
def backwardItem? : Nat → List SetItem → Option (Char × Char × Nat)
  | _, [] => none
  | offset, .range a b :: items =>
    if b < a then some (a, b, offset)
    else backwardItem? (offset + (compiledItem (.range a b)).length) items
  | offset, item :: items => backwardItem? (offset + (compiledItem item).length) items

/-- The first range that runs backwards, with its place if the atoms are written from an offset on.
-/
def backward? : Nat → List Atom → Option (Char × Char × Nat)
  | _, [] => none
  | offset, a :: as =>
    let own := match a with
      | .set negated items => backwardItem? (offset + (compiledOpening negated).length) items
      | _ => none
    own <|> backward? (offset + (compiledAtom a).length) as

/-! ## Lines -/

/-- A line without the blanks at its end, which a backslash before the last space keeps. -/
def trimLine (cs : List Char) : List Char :=
  if ['\\', ' '].isSuffixOf cs then cs else Text.trimEnd cs

/-- Reads a line: a pattern, or none on a blank line, a comment, a slash alone or a name with a
bracket that does not close. -/
def parse (line : String) : Except PatternError (Option Pattern) :=
  let cs := trimLine line.toList
  if cs.isEmpty || cs.head? == some '#' || cs == ['/'] then .ok none
  else
    let (negated, cs) := match cs with
      | '!' :: cs => (true, cs)
      | cs => (false, cs)
    if (segments cs).isEmpty then .error (.invalid line)
    else
      match atomsOf cs with
      | .error .unclosed => .ok none
      | .error .loneBackslash => .error (.invalid line)
      | .ok atoms =>
        match backward? 1 atoms with
        | some (a, b, offset) =>
          .error (.badRange (setChar a) (setChar b) (compiled atoms) offset)
        | none => .ok (some ⟨negated, atoms⟩)

/-- The pattern matches a path. -/
def isMatch (p : Pattern) (path : List Char) : Bool := matchesStart p.atoms path

end Pattern

/-! ## Lists of patterns -/

/-- The patterns of an ignore file, in order. -/
abbrev Patterns := List Pattern

namespace Patterns

/-- Reads the lines of an ignore file; the first line that is wrong decides. -/
def parse (lines : List String) : Except PatternError Patterns :=
  (lines.mapM Pattern.parse).map fun ps => ps.filterMap id

/-- A path without a slash, or a dot and a slash, in front. -/
def normalize (path : List Char) : List Char :=
  match path with
  | '/' :: rest => rest
  | '.' :: '/' :: rest => rest
  | path => path

/-- Whether the patterns select a path: the last one that matches decides, and a negated one selects
nothing. -/
def selects (ps : Patterns) (path : List Char) : Bool :=
  match ps.reverse.find? fun p => p.isMatch (normalize path) with
  | some p => !p.negated
  | none => false

end Patterns

/-! ## Matching in general -/

/-- How patterns are read and matched: what the lines of an ignore file are read as, and which paths
that selects.  A search needs to know nothing else of patterns. -/
class Matcher (P : Type) where
  /-- Reads the lines of an ignore file. -/
  read : List String → Except PatternError P
  /-- Whether the patterns select a path. -/
  selects : P → List Char → Bool

/-- The patterns of ignore files; a search uses these if no others are named. -/
@[default_instance]
instance : Matcher Patterns := ⟨Patterns.parse, Patterns.selects⟩

/-- The patterns of ignore files are read line by line. -/
@[simp]
theorem Matcher.read_patterns (lines : List String) : read lines = Patterns.parse lines := rfl

/-- The patterns of ignore files select what the last one that matches decides. -/
@[simp]
theorem Matcher.selects_patterns (ps : Patterns) (path : List Char) :
    selects ps path = ps.selects path := rfl

end FenceLint.Ignore
