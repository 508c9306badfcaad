import FenceLint.Markdown.Interrupt
import FenceLint.Markdown.Link

/-!
# Link reference definitions

`[label]: destination "title"`, possibly over several lines.  A definition takes lines away from
what would otherwise be a paragraph, so its exact extent decides where the blocks after it start.

A definition is read from the rest of the current line, line feed included, and the list of lines
that may still be joined to it.
-/

namespace FenceLint.Markdown

namespace Reference

/-- Outcome of reading one line of a part that may span lines. -/
inductive Step where
  /-- The part ended, and this is left of the line. -/
  | closed (rest : List Char)
  /-- A character stood where it may not. -/
  | failed
  /-- The line ended first. -/
  | open
deriving Repr, DecidableEq

/-- Reads a label up to its closing bracket; a backslash hides the character after it. -/
def labelLine : List Char → Step
  | [] => .open
  | '\\' :: _ :: cs => labelLine cs
  | c :: cs => if c == '[' then .failed else if c == ']' then .closed cs else labelLine cs

/-- Reads a title up to its closing mark; a backslash hides the character after it. -/
def titleLine (close : Char) : List Char → Step
  | [] => .open
  | '\\' :: _ :: cs => titleLine close cs
  | c :: cs =>
    if c == close then .closed cs
    else if c == '(' && close == ')' then .failed
    else titleLine close cs

/-- Continues `step` over the following lines: what is left of the line on which the part closes,
the lines after it, and the text of the part. -/
def overLines (step : List Char → Step) :
    List Char → List (List Char) → Option (List Char × List (List Char) × List Char)
  | line, more =>
    match step line, more with
    | .closed rest, more => some (rest, more, line.take (line.length - rest.length - 1))
    | .failed, _ => none
    | .open, [] => none
    | .open, next :: more => (overLines step next more).map fun (rest, more, text) =>
        (rest, more, line ++ text)

/-- Skips spaces, going on to the next line at a line feed. -/
def skipGap : List Char → List (List Char) → List Char × List (List Char)
  | line, [] => (line.dropWhile fun c => isSpace c || c == '\n', [])
  | line, next :: more =>
    match line.dropWhile isSpace with
    | '\n' :: _ => skipGap next more
    | rest => (rest, next :: more)

/-- Nothing but spaces is left of the line. -/
def isLineEnd (line : List Char) : Bool :=
  match line.dropWhile isSpace with
  | [] => true
  | c :: _ => c == '\n'

/-- The mark that closes a title opened by `c`. -/
def closing? (c : Char) : Option Char :=
  if c == '"' || c == '\'' then some c else if c == '(' then some ')' else none

/-- A title after the destination, separated from it: what is left after it, the lines after that,
and whether the title is empty.  A title that spans lines need not be separated. -/
def title? (line : List Char) (more : List (List Char)) :
    Option (List Char × List (List Char) × Bool) :=
  match skipGap line more with
  | ([], _) => none
  | (c :: cs, later) =>
    (closing? c).bind fun close =>
      (overLines (titleLine close) cs later).bind fun (rest, after, text) =>
        let separated := (c :: cs).length < line.length || later.length < more.length
        if separated || after.length < later.length then some (rest, after, text.isEmpty) else none

/-- What follows a destination: the lines that stay unused, if the definition is complete.  A title
with more text behind it is no title, and the definition may then end at the destination. -/
def afterDestination? (line : List Char) (more : List (List Char)) : Option (List (List Char)) :=
  let bare := if isLineEnd line then some more else none
  match title? line more with
  | none => bare
  | some (rest, after, empty) =>
    if isLineEnd rest then some after else if empty then none else bare

/-- Reads a definition after its opening bracket: the lines that stay unused. -/
def read? (line : List Char) (more : List (List Char)) : Option (List (List Char)) :=
  (overLines labelLine line more).bind fun (rest, more, label) =>
    match rest with
    | ':' :: rest =>
      let (line, more) := skipGap rest more
      (Link.destination? line).bind fun (destination, rest) =>
        if Link.isAllowed destination && !label.all isTrimmed then afterDestination? rest more
        else none
    | _ => none

end Reference

namespace Region

/-- Line `i` may be joined to a link reference definition. -/
def continuesReference (r : Region) (i : Nat) : Bool :=
  !r.isBlank i && (r.isIndented i || (r.line i).lazy || !r.endsReference i)

/-- The text of line `i` with its line feed. -/
def fullBody (r : Region) (i : Nat) : List Char :=
  r.body i ++ if (r.line i).newline then ['\n'] else []

/-- The lines from `i` on that may be joined to a link reference definition. -/
def referenceLines (r : Region) (i : Nat) : List (List Char) :=
  ((List.range' i (r.limit - i)).takeWhile r.continuesReference).map r.fullBody

/-- The link reference definition on line `i`: the line after it. -/
def referenceEnd? (r : Region) (i : Nat) : Option Nat :=
  match r.fullBody i with
  | '[' :: cs =>
    if r.isIndented i then none
    else
      let more := r.referenceLines (i + 1)
      (Reference.read? cs more).map fun unused => i + 1 + (more.length - unused.length)
  | _ => none

end Region

end FenceLint.Markdown
