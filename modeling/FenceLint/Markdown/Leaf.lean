import FenceLint.Markdown.Region

/-!
# Blocks of one kind of line

Thematic breaks and headings, which take one line, and indented code.
-/

namespace FenceLint.Markdown.Region

/-- At least three of one mark, among spaces. -/
def isBreakText : List Char → Bool
  | [] => false
  | m :: cs =>
    (m == '*' || m == '-' || m == '_') && cs.all (fun c => c == m || isSpace c) &&
      2 ≤ cs.countP (· == m)

/-- Line `i` is a thematic break. -/
def isBreak (r : Region) (i : Nat) : Bool := !r.isIndented i && isBreakText (r.body i)

/-- One to six number signs, then a space or the end of the line. -/
def isHeadingText (cs : List Char) : Bool :=
  let marks := (cs.takeWhile (· == '#')).length
  1 ≤ marks && marks ≤ 6 &&
    match cs.dropWhile (· == '#') with
    | [] => true
    | c :: _ => isSpace c

/-- Line `i` is a heading. -/
def isHeading (r : Region) (i : Nat) : Bool := !r.isIndented i && isHeadingText (r.body i)

/-- The line after the indented code that starts before `i`: blank lines belong to it when code
follows them. -/
def codeEnd (r : Region) (i : Nat) : Nat := go (r.stop - i) i i
where
  go : Nat → Nat → Nat → Nat
    | 0, _, last => last
    | n + 1, i, last =>
      if r.isBlank i then go n (i + 1) last
      else if r.isIndented i then go n (i + 1) (i + 1)
      else last

/-- Indented code at line `i`: the line after it. -/
def code? (r : Region) (i : Nat) : Option Nat :=
  if r.isIndented i then some (r.codeEnd (i + 1)) else none

end FenceLint.Markdown.Region
