import FenceLint.Text.Blank

/-!
# Lines of a document

A document is cut into lines, and each line is kept as the part of it that still has to be parsed:
container markers to its left have been consumed.  Widths count columns, with tab stops of four.
-/

namespace FenceLint.Markdown

/-- The two characters that indent a line. -/
def isSpace (c : Char) : Bool := c == ' ' || c == '\t'

/-- The characters that do not count at the ends of a table cell or a link label: white space other
than the control character for a next line. -/
def isTrimmed (c : Char) : Bool := Text.isWhiteSpace c && c != '\u0085'

/-- The text of a table cell, row or label without what does not count at its ends. -/
def trim (cs : List Char) : List Char := Text.trimWhere isTrimmed cs

/-- The column after a space or tab at column `col`, when tab stops are shifted by `shift`. -/
def stepColumn (shift col : Nat) (c : Char) : Nat :=
  if c == '\t' then col + (4 - (col + shift) % 4) else col + 1

/-- Skips leading spaces and tabs from column `col`; gives the column reached and what is left. -/
def skipIndent (shift : Nat) : Nat → List Char → Nat × List Char
  | col, [] => (col, [])
  | col, c :: cs =>
    if isSpace c then skipIndent shift (stepColumn shift col c) cs else (col, c :: cs)

/-- Skipping indentation leaves a suffix. -/
theorem skipIndent_suffix (shift col : Nat) (cs : List Char) :
    (skipIndent shift col cs).2 <:+ cs := by
  induction cs generalizing col with
  | nil => exact List.suffix_refl _
  | cons c cs ih =>
    rw [skipIndent]
    split
    · exact (ih _).trans (List.suffix_cons c cs)
    · exact List.suffix_refl _

/-- A line as one container sees it. -/
structure Line where
  /-- What follows the markers of the enclosing quotes. -/
  text : List Char
  /-- What follows the indentation of `text`, or the list marker on it. -/
  body : List Char
  /-- The column at which `body` starts. -/
  width : Nat
  /-- The column of the document at which `text` starts, for the tab stops. -/
  base : Nat
  /-- The line continues a paragraph of the quote around it without the quote's marker. -/
  lazy : Bool
  /-- Whether the line ends in a line feed; only the last line of a document may not. -/
  newline : Bool
deriving Repr, DecidableEq, Inhabited

namespace Line

/-- The line that stands after the end of a document. -/
def afterEnd : Line := ⟨[], [], 0, 0, false, false⟩

/-- A line of a document, outside all containers. -/
def ofChars (text : List Char) (newline : Bool) : Line :=
  let (width, body) := skipIndent 0 0 text
  ⟨text, body, width, 0, false, newline⟩

/-- Nothing but indentation is left on the line. -/
def isBlank (l : Line) : Bool := l.body.isEmpty

/-- Removes up to `indent` columns of spaces and tabs; a tab that reaches beyond is replaced by the
spaces that stick out. -/
def dedent (shift indent : Nat) : Nat → List Char → List Char
  | col, [] => List.replicate (col - indent) ' '
  | col, c :: cs =>
    if indent ≤ col then List.replicate (col - indent) ' ' ++ c :: cs
    else if isSpace c then dedent shift indent (stepColumn shift col c) cs
    else c :: cs

/-- What is left after removing indentation is spaces and a suffix of the text. -/
theorem dedent_eq_spaces_append (shift indent col : Nat) (cs : List Char) :
    ∃ n rest, rest <:+ cs ∧ dedent shift indent col cs = List.replicate n ' ' ++ rest := by
  induction cs generalizing col with
  | nil => exact ⟨col - indent, [], List.suffix_refl _, by simp [dedent]⟩
  | cons c cs ih =>
    rw [dedent]
    split
    · exact ⟨col - indent, c :: cs, List.suffix_refl _, rfl⟩
    · split
      · obtain ⟨n, rest, hrest, heq⟩ := ih (stepColumn shift col c)
        exact ⟨n, rest, hrest.trans (List.suffix_cons c cs), heq⟩
      · exact ⟨0, c :: cs, List.suffix_refl _, rfl⟩

/-- The characters of a line of verbatim text under an opening line indented by `indent`. -/
def verbatim (indent : Nat) (l : Line) : List Char :=
  dedent l.base indent 0 l.text ++ if l.newline then ['\n'] else []

end Line

/-! ## From text to lines -/

/-- Line ends become line feeds, and the null character the replacement character. -/
def normalize : List Char → List Char
  | [] => []
  | '\r' :: '\n' :: cs => '\n' :: normalize cs
  | c :: cs =>
    (if c == '\r' then '\n' else if c == '\x00' then '\uFFFD' else c) :: normalize cs

/-- Cuts a text after its line feeds; each piece comes with the fact whether a line feed ended it.
A last piece without one that holds only indentation is no line. -/
def cutLines : List Char → List (List Char × Bool)
  | cs => go [] cs
where
  go (line : List Char) : List Char → List (List Char × Bool)
    | [] => if line.all isSpace then [] else [(line.reverse, false)]
    | c :: cs => if c == '\n' then (line.reverse, true) :: go [] cs else go (c :: line) cs

/-- The lines of a document. -/
def linesOf (text : String) : Array Line :=
  ((cutLines (normalize text.toList)).map fun p => Line.ofChars p.1 p.2).toArray

end FenceLint.Markdown
