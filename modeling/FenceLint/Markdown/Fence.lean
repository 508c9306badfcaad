import FenceLint.Markdown.Region

/-!
# Fenced code

A fence opens with at least three backticks or tildes and closes with at least as many of the same
mark; without a closing line it runs to the end of its container.
-/

namespace FenceLint.Markdown

/-- A fenced code block of a document. -/
structure Fence where
  /-- The opening line, counted from 0. -/
  start : Nat
  /-- The line after the block. -/
  stop : Nat
  /-- What follows the opening marks. -/
  info : String
  /-- The lines between the fences, without the indentation of the opening line. -/
  content : String
deriving Repr, DecidableEq, Inhabited

namespace Region

/-- The mark, the number of marks and the info text of an opening line. -/
def openingText? : List Char → Option (Char × Nat × List Char)
  | [] => none
  | m :: cs =>
    let count := (cs.takeWhile (· == m)).length + 1
    let info := cs.dropWhile (· == m)
    if (m == '`' || m == '~') && 3 ≤ count && !(m == '`' && info.contains m) then
      some (m, count, info)
    else none

/-- The opening of a fence on line `i`. -/
def opening? (r : Region) (i : Nat) : Option (Char × Nat × List Char) :=
  if r.isIndented i then none else openingText? (r.body i)

/-- Line `i` opens a fence. -/
def startsFence (r : Region) (i : Nat) : Bool := (r.opening? i).isSome

/-- At least `count` marks, then only spaces. -/
def isClosingText (mark : Char) (count : Nat) (cs : List Char) : Bool :=
  count ≤ (cs.takeWhile (· == mark)).length && (cs.dropWhile (· == mark)).all isSpace

/-- Line `i` closes a fence of `count` marks. -/
def isClosing (r : Region) (mark : Char) (count i : Nat) : Bool :=
  !r.isIndented i && isClosingText mark count (r.body i)

/-- The first line from `i` on that ends a fence, and whether it is a closing line.  The fence also
ends before a line of text to the left of the margin, and where the document ends in a line without
text. -/
def fenceEnd (r : Region) (mark : Char) (count i : Nat) : Nat × Bool := go (r.stop - i) i
where
  go : Nat → Nat → Nat × Bool
    | 0, i => (i, false)
    | n + 1, i =>
      if !r.isBlank i && r.isOutdented i then (i, false)
      else if r.isBlank i && !(r.line i).newline then (i, false)
      else if r.isClosing mark count i then (i, true)
      else go n (i + 1)

/-- The verbatim text of the `n` lines from `i` on, under an opening line indented by `indent`. -/
def verbatim (r : Region) (indent i n : Nat) : List Char :=
  (List.range' i n).flatMap fun j => (r.line j).verbatim indent

/-- The fence that opens on line `i`. -/
def fence? (r : Region) (i : Nat) : Option Fence :=
  (r.opening? i).map fun (mark, count, info) =>
    let (last, closed) := r.fenceEnd mark count (i + 1)
    { start := i
      stop := if closed then last + 1 else last
      info := String.ofList info
      content := String.ofList (r.verbatim (r.line i).width (i + 1) (last - (i + 1))) }

end Region

end FenceLint.Markdown
