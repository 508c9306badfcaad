import FenceLint.Text.Blank
import FenceLint.Text.WidthTable

/-!
# Widths on a console

How many columns a text takes.  A zero width joiner glues the character after it to the one before,
and the emoji variation selector widens the character before it.  A text falls into clusters:
characters that are shown together and never cut apart.
-/

namespace FenceLint.Text

/-- The columns of a character alone.  Control characters take none. -/
def charWidth (c : Char) : Nat :=
  let n := c.toNat
  if n < 0x20 || (0x7f ≤ n && n < 0xa0) then 0
  else if n < 0x300 then 1
  else if inRanges zeroWidthRanges n then 0
  else if inRanges wideRanges n then 2
  else 1

/-- The zero width joiner. -/
def joiner : Char := '\u200d'

/-- The selector that asks for an emoji. -/
def emojiSelector : Char := '\ufe0f'

/-- The columns that the emoji selector adds to the character before it. -/
def widening (last : Option Char) : Nat :=
  match last with
  | some c => if inRanges widenedRanges c.toNat then 1 else 0
  | none => 0

/-- The columns of the rest of a text.  `last` is the character that a selector would widen. -/
def widthAfter : Option Char → List Char → Nat
  | _, [] => 0
  | last, c :: cs =>
    if c == joiner then
      match cs with
      | [] => 0
      | _ :: cs => widthAfter last cs
    else if c == emojiSelector then widening last + widthAfter none cs
    else charWidth c + widthAfter (if charWidth c = 0 then last else some c) cs

/-- The columns of a text. -/
def width (cs : List Char) : Nat := widthAfter none cs

/-! ## Clusters -/

/-- Characters that are shown together. -/
structure Cluster where
  /-- How many characters they are. -/
  size : Nat
  /-- How many columns they take. -/
  width : Nat
deriving Repr, DecidableEq, Inhabited

/-- The clusters of the rest of a text, the first of which has begun. -/
def clustersAfter : Cluster → Option Char → List Char → List Cluster
  | k, _, [] => [k]
  | k, last, c :: cs =>
    if c == joiner then
      match cs with
      | [] => [{ k with size := k.size + 1 }]
      | _ :: cs => clustersAfter { k with size := k.size + 2 } last cs
    else if c == emojiSelector then
      clustersAfter ⟨k.size + 1, k.width + widening last⟩ (if widening last = 0 then last else none)
        cs
    else if charWidth c = 0 then clustersAfter { k with size := k.size + 1 } last cs
    else k :: clustersAfter ⟨1, charWidth c⟩ (some c) cs

/-- The clusters of a text, in order.  Only the first can be without width. -/
def clusters : List Char → List Cluster
  | [] => []
  | c :: cs => clustersAfter ⟨1, charWidth c⟩ (if charWidth c = 0 then none else some c) cs

end FenceLint.Text
