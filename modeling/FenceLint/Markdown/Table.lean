import FenceLint.Markdown.Region

/-!
# Tables

A table is a header line, a line of column rules under it, and rows.  The cells of header and rows
are divided by bars that no backslash precedes.
-/

namespace FenceLint.Markdown.Region

/-- Cuts at the bars; a bar after a backslash belongs to its cell. -/
def cutCells (cs : List Char) : List (List Char) := go false [] cs
where
  go (escaped : Bool) (cell : List Char) : List Char → List (List Char)
    | [] => [cell.reverse]
    | c :: cs =>
      if c == '|' && !escaped then cell.reverse :: go false [] cs
      else go (c == '\\') (c :: cell) cs

/-- Drops one empty cell at the front and one at the back. -/
def dropOuterCells (cells : List (List Char)) : List (List Char) :=
  let cells := match cells with
    | [] :: rest => rest
    | cells => cells
  if cells.getLast? == some [] then cells.dropLast else cells

/-- The cells of a header or row. -/
def cellsOf (cs : List Char) : List (List Char) := dropOuterCells (cutCells (trim cs))

/-- Cuts at every bar. -/
def cutBars (cs : List Char) : List (List Char) := go [] cs
where
  go (cell : List Char) : List Char → List (List Char)
    | [] => [cell.reverse]
    | c :: cs => if c == '|' then cell.reverse :: go [] cs else go (c :: cell) cs

/-- One or more dashes, with a colon allowed at each end. -/
def isColumnRule (cs : List Char) : Bool :=
  let cs := if cs.head? == some ':' then cs.tail else cs
  let cs := if cs.getLast? == some ':' then cs.dropLast else cs
  !cs.isEmpty && cs.all (· == '-')

/-- The characters of a line of column rules, spaces aside. -/
def isRuleMark (c : Char) : Bool := c == '|' || c == '-' || c == ':'

/-- The number of columns that a line of column rules declares.  A line of one character is none,
and a dash before a space is left to lists. -/
def columnCount? (cs : List Char) : Option Nat :=
  match cs with
  | a :: b :: _ =>
    if isRuleMark a && !(a == '-' && isSpace b) && cs.all (fun c => isRuleMark c || isSpace c) then
      let cells := (cutBars cs).map trim
      let inner := (cells.drop 1).dropLast
      let rules := cells.filter (!·.isEmpty)
      if inner.all (!·.isEmpty) && rules.all isColumnRule then some rules.length else none
    else none
  | _ => none

/-- The number of columns of the table whose header is line `i`, when lines up to `stop` count. -/
def table? (r : Region) (stop i : Nat) : Option Nat :=
  if stop < i + 2 || r.isOutdented (i + 1) || r.isIndented (i + 1) || r.isIndented i then none
  else
    match columnCount? (r.body (i + 1)) with
    | none => none
    | some n =>
      let header := trim (r.body i)
      if header.contains '|' && n != 0 && (cellsOf header).length == n then some n else none

/-- A table starts on line `i`. -/
def startsTable (r : Region) (stop i : Nat) : Bool := (r.table? stop i).isSome

/-- A table ends where filling up short rows would take more cells than this. -/
def maxFilledCells : Int := 0x10000

/-- The line after the rows from `i` on, of a table of `columns` columns that another block
interrupts at the lines in `ends`. -/
def rowsEnd (r : Region) (ends : Nat → Bool) (columns i : Nat) : Nat := go (r.stop - i) i 0
where
  go : Nat → Nat → Int → Nat
    | 0, i, _ => i
    | n + 1, i, filled =>
      let row := trim (r.body i)
      if r.isOutdented i || ends i || row.isEmpty || r.isIndented i then i
      else
        let filled := filled + columns - (cellsOf row).length
        if maxFilledCells < filled then i else go n (i + 1) filled

end FenceLint.Markdown.Region
