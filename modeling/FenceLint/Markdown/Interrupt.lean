import FenceLint.Markdown.Leaf
import FenceLint.Markdown.Fence
import FenceLint.Markdown.Item
import FenceLint.Markdown.Table

/-!
# Interruptions

Which lines end a block that has no end of its own: a paragraph, a link reference definition, a
block quote, the rows of a table, a list.
-/

namespace FenceLint.Markdown.Region

/-- Line `i` starts a block quote. -/
def startsQuote (r : Region) (i : Nat) : Bool :=
  !r.isIndented i && (r.body i).head? == some '>'

/-- Line `i` ends a list. -/
def endsList (r : Region) (i : Nat) : Bool := r.startsFence i || r.startsQuote i || r.isBreak i

/-- Line `i` ends a block quote or the rows of a table. -/
def endsQuote (r : Region) (i : Nat) : Bool := r.endsList i || r.startsItem i || r.isHeading i

/-- Line `i` ends a link reference definition. -/
def endsReference (r : Region) (i : Nat) : Bool := r.startsTable r.limit i || r.endsQuote i

/-- Line `i` ends a paragraph, when a table may use the lines before `stop`. -/
def endsParagraph (r : Region) (stop i : Nat) : Bool :=
  r.startsTable stop i || r.endsList i || r.interruptsAsItem i || r.isHeading i

/-- The table on line `i`: the line after it. -/
def tableEnd? (r : Region) (i : Nat) : Option Nat :=
  (r.table? r.stop i).map fun columns => r.rowsEnd r.endsQuote columns (i + 2)

/-! ## Paragraphs -/

/-- Line `i` belongs to a paragraph that started before it, when it holds text. -/
def continuesParagraph (r : Region) (stop i : Nat) : Bool :=
  r.isIndented i || (r.line i).lazy || !r.endsParagraph stop i

/-- The line after the paragraph on line `i`. -/
def paragraphEnd (r : Region) (i : Nat) : Nat := go (r.limit - (i + 1)) (i + 1)
where
  go : Nat → Nat → Nat
    | 0, i => i
    | n + 1, i => if !r.isBlank i && r.continuesParagraph r.limit i then go n (i + 1) else i

/-- Only equals signs or only dashes, then spaces. -/
def isUnderlineText : List Char → Bool
  | [] => false
  | m :: cs => (m == '=' || m == '-') && (cs.dropWhile (· == m)).all isSpace

/-- Line `i` underlines the paragraph above it. -/
def isUnderline (r : Region) (i : Nat) : Bool :=
  !r.isIndented i && !r.isOutdented i && isUnderlineText (r.body i)

/-- The underlined heading on line `i`: the line after its underline. -/
def underlinedEnd? (r : Region) (i : Nat) : Option Nat := go (r.stop - (i + 1)) (i + 1)
where
  go : Nat → Nat → Option Nat
    | 0, _ => none
    | n + 1, i =>
      if r.isBlank i then none
      else if r.isUnderline i then some (i + 1)
      else if r.continuesParagraph r.stop i then go n (i + 1)
      else none

end FenceLint.Markdown.Region
