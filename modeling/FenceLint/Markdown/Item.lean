import FenceLint.Markdown.Region

/-!
# List markers

A bullet, or a number of at most nine digits with a full stop or parenthesis; a space or the end of
the line follows.
-/

namespace FenceLint.Markdown

/-- The marker of a list item. -/
structure Marker where
  /-- The number of an ordered item. -/
  value : Option Nat
  /-- The bullet, or the character after the number. -/
  mark : Char
  /-- How many characters the marker takes. -/
  length : Nat
deriving Repr, DecidableEq

namespace Marker

/-- Two markers belong to one list. -/
def sameList (a b : Marker) : Bool := a.value.isSome == b.value.isSome && a.mark == b.mark

/-- A space, a tab or the end of the line. -/
def endsMarker : List Char → Bool
  | [] => true
  | c :: _ => isSpace c

/-- The value of decimal digits. -/
def valueOf (digits : List Char) : Nat :=
  digits.foldl (fun n c => 10 * n + (c.toNat - '0'.toNat)) 0

/-- The marker at the start of `cs`, and what follows it. -/
def read? (cs : List Char) : Option (Marker × List Char) :=
  let digits := cs.takeWhile Char.isDigit
  match digits, cs.dropWhile Char.isDigit with
  | [], m :: rest =>
    if (m == '-' || m == '+' || m == '*') && endsMarker rest then some (⟨none, m, 1⟩, rest)
    else none
  | _ :: _, m :: rest =>
    if digits.length ≤ 9 && (m == '.' || m == ')') && endsMarker rest then
      some (⟨some (valueOf digits), m, digits.length + 1⟩, rest)
    else none
  | _, [] => none

end Marker

namespace Region

/-- The list marker that opens an item on line `i`. -/
def marker? (r : Region) (i : Nat) : Option (Marker × List Char) :=
  if r.isIndented i then none
  else
    match r.listMargin with
    | some m =>
      if !(r.line i).lazy && m + 4 ≤ (r.line i).width && (r.line i).width < r.margin then none
      else Marker.read? (r.body i)
    | none => Marker.read? (r.body i)

/-- Line `i` opens a list item. -/
def startsItem (r : Region) (i : Nat) : Bool := (r.marker? i).isSome

/-- Line `i` opens a list item that may interrupt a paragraph: at or right of the margin only a
list that starts at one, with text on its first line, does. -/
def interruptsAsItem (r : Region) (i : Nat) : Bool :=
  match r.marker? i with
  | none => false
  | some (m, rest) => r.isOutdented i || (m.value.all (· == 1) && !rest.all isSpace)

end Region

end FenceLint.Markdown
