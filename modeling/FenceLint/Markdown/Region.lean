import FenceLint.Markdown.Line

/-!
# Regions of a document

A container parses the lines of a *region*: the lines as it sees them, the bounds up to which it may
read, and the column at which its content starts.
-/

namespace FenceLint.Markdown

/-- The lines that one container parses. -/
structure Region where
  /-- All lines of the document, with the markers of enclosing containers consumed. -/
  lines : Array Line
  /-- Paragraphs may run up to this line. -/
  limit : Nat
  /-- Blocks of the container start before this line. -/
  stop : Nat
  /-- The column at which the content of the container starts. -/
  margin : Nat
  /-- The margin around the innermost list, inside its items. -/
  listMargin : Option Nat

namespace Region

/-- The whole document. -/
def ofLines (lines : Array Line) : Region := ⟨lines, lines.size, lines.size, 0, none⟩

/-- Line `i`, which is empty beyond the end of the document. -/
def line (r : Region) (i : Nat) : Line := r.lines.getD i .afterEnd

/-- What is left to parse of line `i`. -/
def body (r : Region) (i : Nat) : List Char := (r.line i).body

/-- Line `i` holds no text. -/
def isBlank (r : Region) (i : Nat) : Bool := (r.line i).isBlank

/-- Line `i` is indented far enough for an indented code block. -/
def isIndented (r : Region) (i : Nat) : Bool :=
  !(r.line i).lazy && r.margin + 4 ≤ (r.line i).width

/-- Line `i` starts to the left of the content. -/
def isOutdented (r : Region) (i : Nat) : Bool :=
  (r.line i).lazy || (r.line i).width < r.margin

/-- The first line from `i` on that holds text, or `limit`. -/
def skipBlank (r : Region) (i : Nat) : Nat := go (r.limit - i) i
where
  go : Nat → Nat → Nat
    | 0, i => i
    | n + 1, i => if r.isBlank i then go n (i + 1) else i

end Region

end FenceLint.Markdown
