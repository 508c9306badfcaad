/-!
# Line ends

Files are read with all three line ends taken as line feeds.  The lines of an ignore file end at
every character that the Unicode standard lists as a line boundary.
-/

namespace FenceLint.Text

/-- Carriage returns, alone or before a line feed, become line feeds. -/
def unifyNewlines : List Char → List Char
  | [] => []
  | '\r' :: '\n' :: cs => '\n' :: unifyNewlines cs
  | c :: cs => (if c == '\r' then '\n' else c) :: unifyNewlines cs

/-- The characters that end a line, beside the carriage return and the line feed. -/
def isLineBoundary (c : Char) : Bool :=
  c == '\n' || c == '\r' || c == '\x0b' || c == '\x0c' || c == '\x1c' || c == '\x1d' ||
    c == '\x1e' || c == '\x85' || c == '\u2028' || c == '\u2029'

/-- Cuts at line boundaries; a boundary at the end starts no further line. -/
def cutBoundaries (cs : List Char) : List (List Char) := go [] cs
where
  go (line : List Char) : List Char → List (List Char)
    | [] => if line.isEmpty then [] else [line.reverse]
    | '\r' :: '\n' :: cs => line.reverse :: go [] cs
    | c :: cs => if isLineBoundary c then line.reverse :: go [] cs else go (c :: line) cs

/-- The lines of a text, without their boundaries. -/
def linesOf (s : String) : List String := (cutBoundaries s.toList).map String.ofList

/-- Cuts at every occurrence of a character; the pieces between are kept, empty ones too. -/
def cutAt (sep : Char) (cs : List Char) : List (List Char) := go [] cs
where
  go (piece : List Char) : List Char → List (List Char)
    | [] => [piece.reverse]
    | c :: cs => if c == sep then piece.reverse :: go [] cs else go (c :: piece) cs

/-- The pieces of a text between occurrences of a character. -/
def pieces (sep : Char) (s : String) : List String := (cutAt sep s.toList).map String.ofList

end FenceLint.Text
