import FenceLint.Markup.Styled
import FenceLint.Text.Blank
import FenceLint.Text.Width

/-!
# Wrapping

A styled text is cut into lines at its line feeds, tabs are filled up to columns of eight, and
lines that are too long are cut between words.  A word longer than a line is cut where the line is
full.
-/

namespace FenceLint.Markup

/-- Cuts at line feeds. -/
def cutLines (cells : List Cell) : List (List Cell) := go [] cells
where
  go (line : List Cell) : List Cell → List (List Cell)
    | [] => [line.reverse]
    | c :: cs => if c.char == '\n' then line.reverse :: go [] cs else go (c :: line) cs

/-- The columns of cells. -/
def columns (cells : List Cell) : Nat := Text.width (cells.map (·.char))

/-- The clusters of cells. -/
def clusters (cells : List Cell) : List Text.Cluster := Text.clusters (cells.map (·.char))

/-- The width of a tab stop. -/
def tabSize : Nat := 8

/-- Cuts after every tab. -/
def cutTabs (cells : List Cell) : List (List Cell) := go [] cells
where
  go (part : List Cell) : List Cell → List (List Cell)
    | [] => [part.reverse]
    | c :: cs => if c.char == '\t' then (c :: part).reverse :: go [] cs else go (c :: part) cs

/-- Fills the tab at the end of a part that starts at a column: it becomes a space, and more of them
up to the next tab stop. -/
def fillTab (column : Nat) (part : List Cell) : List Cell :=
  match part.getLast? with
  | some c =>
    if c.char == '\t' then
      let space := { c with char := ' ' }
      let part := part.dropLast ++ [space]
      let reached := column + columns part
      part ++ List.replicate ((tabSize - reached % tabSize) % tabSize) space
    else part
  | none => []

/-- Fills the tabs of parts from a column on; what follows a tab is written apart from it. -/
def fillTabs : Nat → Nat → List (List Cell) → List Cell
  | _, _, [] => []
  | tabs, column, part :: parts =>
    let part := fillTab column (part.map fun c => { c with run := c.run + tabs })
    part ++ fillTabs (tabs + 1) (column + columns part) parts

/-- Fills the tabs of a line. -/
def expandTabs (line : List Cell) : List Cell := fillTabs 0 0 (cutTabs line)

/-- The cell holds a blank. -/
def Cell.isBlank (c : Cell) : Bool := Text.isBlank c.char

/-- The words of a line, each with the blanks after it, and the first one with those before it; at
most `n` words.  Blanks alone are no word. -/
def wordsWithin : Nat → List Cell → List (List Cell)
  | 0, _ => []
  | n + 1, cells =>
    let lead := cells.takeWhile Cell.isBlank
    let rest := cells.dropWhile Cell.isBlank
    let body := rest.takeWhile (!Cell.isBlank ·)
    let rest := rest.dropWhile (!Cell.isBlank ·)
    let trail := rest.takeWhile Cell.isBlank
    if body.isEmpty then []
    else (lead ++ body ++ trail) :: wordsWithin n (rest.dropWhile Cell.isBlank)

/-- The words of a line. -/
def words (cells : List Cell) : List (List Cell) := wordsWithin cells.length cells

/-- The columns of a word without the blanks after it. -/
def wordColumns (word : List Cell) : Nat := columns (word.reverse.dropWhile Cell.isBlank).reverse

/-- The sizes of the pieces into which clusters are cut so that none has more than `width` columns;
the piece that has begun has `size` characters in `used` columns. -/
def pieceSizes (width : Nat) : Nat → Nat → List Text.Cluster → List Nat
  | used, size, [] => if used = 0 then [] else [size]
  | used, size, k :: ks =>
    if width < used + k.width then size :: pieceSizes width k.width k.size ks
    else pieceSizes width (used + k.width) (size + k.size) ks

/-- The offsets at which pieces start, the first of them at `start`. -/
def pieceStarts : Nat → List Nat → List Nat
  | _, [] => []
  | start, size :: sizes => start :: pieceStarts (start + size) sizes

/-- The offsets at which a line is cut; the next word stands at offset `start` of it and at column
`column` of its own line. -/
def breaks (width : Nat) : Nat → Nat → List (List Cell) → List Nat
  | _, _, [] => []
  | start, column, word :: rest =>
    let length := wordColumns word
    let next := start + word.length
    if length + column ≤ width then breaks width next (column + columns word) rest
    else if width < length then
      let sizes := pieceSizes width 0 0 (clusters word)
      let lastPiece := word.drop (sizes.dropLast.foldl (· + ·) 0)
      (pieceStarts start sizes).filter (0 < ·) ++ breaks width next (columns lastPiece) rest
    else if 0 < start && 0 < column then start :: breaks width next (columns word) rest
    else breaks width next column rest

/-- Cuts a line at increasing offsets, counted from `start`. -/
def cutAtOffsets : Nat → List Nat → List Cell → List (List Cell)
  | _, [], cells => [cells]
  | start, offset :: rest, cells =>
    cells.take (offset - start) :: cutAtOffsets offset rest (cells.drop (offset - start))

/-- Drops blanks at the end as far as the line has more characters than columns are there. -/
def cropBlanks (width : Nat) (line : List Cell) : List Cell :=
  let blanks := (line.reverse.takeWhile Cell.isBlank).length
  line.take (line.length - min blanks (line.length - width))

/-- The clusters that fit into some columns; half of a wide one becomes a space. -/
def takeColumns : Nat → List Text.Cluster → List Cell → List Cell
  | _, [], _ => []
  | width, k :: ks, cells =>
    if k.width ≤ width then
      cells.take k.size ++ takeColumns (width - k.width) ks (cells.drop k.size)
    else if width = 0 then []
    else (cells.take 1).map fun c => { c with char := ' ' }

/-- A line without what is too much at its end. -/
def crop (width : Nat) (line : List Cell) : List Cell :=
  let line := cropBlanks width line
  if columns line ≤ width then line else takeColumns width (clusters line) line

/-- The lines of one line of text. -/
def wrapLine (width : Nat) (line : List Cell) : List (List Cell) :=
  let line := expandTabs line
  (cutAtOffsets 0 (breaks width 0 0 (words line)) line).map (crop width)

/-- The lines of a styled text. -/
def wrap (width : Nat) (cells : List Cell) : List (List Cell) :=
  (cutLines cells).flatMap (wrapLine width)

end FenceLint.Markup
