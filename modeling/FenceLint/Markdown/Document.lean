import FenceLint.Markdown.Interrupt
import FenceLint.Markdown.Quote
import FenceLint.Markdown.Reference

/-!
# Documents

The fenced code blocks of a document, in order, inside and outside of quotes and lists.

Every parser of this module gives the fences that it finds and the line at which it stops.
Containers nest at most `maxNesting` levels deep; what is nested deeper holds no blocks.
-/

namespace FenceLint.Markdown

/-- How many containers may be open at once; a list and its item count as two. -/
def maxNesting : Nat := 100

/-- A parser of the blocks of a region from a line on. -/
abbrev BlockParser := Region → Nat → List Fence × Nat

/-! ## Lists -/

/-- The line behind the list marker `m` that `rest` follows, and the margin of the item's content.
-/
def Line.unlist (l : Line) (m : Marker) (rest : List Char) : Line × Nat :=
  let start := l.width + m.length
  let (reached, body) := skipIndent l.base start rest
  let space := if body.isEmpty || start + 4 < reached then 1 else reached - start
  ({ l with body, width := reached }, start + space)

namespace Region

/-- The content of the item on line `i`, whose marker is `m`.  An item without text whose next
line is blank ends with that line. -/
def item (inner : BlockParser) (r : Region) (i : Nat) (m : Marker) (rest : List Char) :
    List Fence × Nat :=
  let (line, margin) := (r.line i).unlist m rest
  if line.isBlank && r.isBlank (i + 1) then ([], min (i + 2) r.stop)
  else
    inner { r with
      lines := r.lines.setIfInBounds i line
      margin
      listMargin := some r.margin } i

/-- The marker of the item on line `i`, when it belongs to the list whose first marker is `first`.
-/
def nextMarker? (r : Region) (first : Marker) (i : Nat) : Option (Marker × List Char) :=
  if r.stop ≤ i || r.isOutdented i || r.isIndented i || r.endsList i then none
  else (Marker.read? (r.body i)).filter fun p => p.1.sameList first

/-- The items from line `i` on of the list whose first marker is `first`. -/
def items (inner : BlockParser) (r : Region) (first : Marker) :
    Nat → Nat → Marker → List Char → List Fence × Nat
  | 0, i, _, _ => ([], i)
  | n + 1, i, m, rest =>
    let (fences, j) := r.item inner i m rest
    match r.nextMarker? first j with
    | none => (fences, j)
    | some (m, rest) =>
      let (more, k) := r.items inner first n j m rest
      (fences ++ more, k)

/-- The list on line `i`. -/
def list? (inner : BlockParser) (r : Region) (i : Nat) : Option (List Fence × Nat) :=
  (r.marker? i).map fun (m, rest) => r.items inner m (r.stop - i) i m rest

/-! ## Blocks -/

/-- A block without fences that ends at the given line. -/
def plain (stop? : Option Nat) : Option (List Fence × Nat) := stop?.map fun j => ([], j)

/-- The block on line `i`: the first kind that fits. -/
def block (inQuote inList : BlockParser) (r : Region) (i : Nat) : List Fence × Nat :=
  (plain (r.tableEnd? i)
    <|> plain (r.code? i)
    <|> (r.fence? i).map (fun f => ([f], f.stop))
    <|> (if r.startsQuote i then some (inQuote (r.insideQuote i) i) else none)
    <|> plain (if r.isBreak i then some (i + 1) else none)
    <|> r.list? inList i
    <|> plain (r.referenceEnd? i)
    <|> plain (if r.isHeading i then some (i + 1) else none)
    <|> plain (r.underlinedEnd? i)).getD ([], r.paragraphEnd i)

/-- The blocks from line `i` on, at most `n` of them.  They end where the region does, or at text
left of the margin. -/
def blocks (block : Region → Nat → List Fence × Nat) (r : Region) : Nat → Nat → List Fence × Nat
  | 0, i => ([], i)
  | n + 1, i =>
    let i := r.skipBlank i
    if r.stop ≤ i || r.isOutdented i then ([], i)
    else
      let (fences, j) := block r i
      let j := if j < r.stop && r.isBlank j then j + 1 else j
      if j < r.stop then
        let (more, k) := r.blocks block n j
        (fences ++ more, k)
      else (fences, j)

/-- The blocks of a region when `levels` more containers may be opened. -/
def parse : Nat → BlockParser
  | 0, r, i => r.blocks (fun r _ => ([], r.stop)) (r.stop - i) i
  | 1, r, i => r.blocks (block (parse 0) (parse 0)) (r.stop - i) i
  | levels + 2, r, i => r.blocks (block (parse (levels + 1)) (parse levels)) (r.stop - i) i

end Region

/-- The fenced code blocks of a document, in order. -/
def fences (text : String) : List Fence :=
  let r := Region.ofLines (linesOf text)
  (r.parse maxNesting 0).1

end FenceLint.Markdown
