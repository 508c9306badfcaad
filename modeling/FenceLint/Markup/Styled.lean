import FenceLint.Markup.Emoji
import FenceLint.Markup.Literal
import FenceLint.Markup.StyleName
import FenceLint.Markup.Tag

/-!
# Styled text

Markup becomes a list of cells, each a character with its style.  Tags that are still open at the
end reach to the end.  A closing tag has to close something: the innermost tag of its name, or the
innermost tag of all if it has no name.
-/

namespace FenceLint.Markup

/-- A style, with what reports are written in.  What other styles, named by a tag that stands in a
text, add to coloured output is left out; they change no character. -/
structure Style where
  /-- Bold letters. -/
  bold : Bool := false
  /-- Faint letters. -/
  dim : Bool := false
  /-- The number of a colour. -/
  color : Option Nat := none
deriving Repr, DecidableEq, Inhabited

namespace Style

/-- The numbers of the colours. -/
def colors : List (String × Nat) :=
  [("black", 30), ("red", 31), ("green", 32), ("yellow", 33), ("blue", 34), ("magenta", 35),
   ("cyan", 36), ("white", 37)]

/-- The style with what one more word says; a word that means nothing gives nothing. -/
def addWord (s : Style) (word : String) : Option Style :=
  if word == "bold" then some { s with bold := true }
  else if word == "dim" then some { s with dim := true }
  else (colors.lookup word).map fun n => { s with color := some n }

/-- The style that a tag names; a tag with a word that means nothing names no style. -/
def ofName (name : String) : Style :=
  ((StyleName.wordsOf name).foldlM addWord {}).getD {}

/-- Both styles, the second one deciding where they differ. -/
def overlay (a b : Style) : Style := ⟨a.bold || b.bold, a.dim || b.dim, b.color <|> a.color⟩

/-- The codes of a style, with or without its colour. -/
def codes (s : Style) (color : Bool) : List Nat :=
  (if s.bold then [1] else []) ++ (if s.dim then [2] else []) ++
    if color then s.color.toList else []

end Style

/-- A character of a styled text.  Cells with different `run` numbers are written apart even when
their style is the same. -/
structure Cell where
  /-- The character. -/
  char : Char
  /-- Its style. -/
  style : Style
  /-- The number of tags before it. -/
  run : Nat
deriving Repr, DecidableEq, Inhabited

/-- Characters that a console does not show. -/
def isControl (c : Char) : Bool :=
  c == '\x07' || c == '\x08' || c == '\x0b' || c == '\x0c' || c == '\r'

/-- A backslash before an opening bracket is dropped. -/
def unescapeBrackets : List Char → List Char
  | '\\' :: '[' :: cs => '[' :: unescapeBrackets cs
  | c :: cs => c :: unescapeBrackets cs
  | [] => []

/-- What a piece of text shows. -/
def shown (cs : List Char) : List Char :=
  (replaceEmoji (unescapeBrackets cs)).filter fun c => !isControl c

/-- A tag that is open. -/
structure OpenTag where
  /-- Its name, in normal form. -/
  name : String
  /-- What follows an equals sign after the name. -/
  parameters : Option String
deriving Repr, DecidableEq, Inhabited

/-- The name of a style that an open tag asks for. -/
def OpenTag.styleName (t : OpenTag) : String :=
  match t.parameters with
  | some p => t.name ++ " " ++ p
  | none => t.name

/-- What a tag that starts with an at sign gives to its handler is checked when it is closed. -/
def OpenTag.close (t : OpenTag) : Except Fault Unit :=
  match t.parameters with
  | some p =>
    if t.name.toList.head? == some '@' && !p.isEmpty && !Literal.isUsable p then
      .error (.notLiteral p)
    else .ok ()
  | none => .ok ()

/-- Takes out the innermost open tag with a property; the other tags stay open. -/
def takeOut? (p : OpenTag → Bool) : List OpenTag → Option (OpenTag × List OpenTag)
  | [] => none
  | t :: opened =>
    if p t then some (t, opened) else (takeOut? p opened).map fun (u, rest) => (u, t :: rest)

/-- The open tags after a closing tag with the inside `body` at an offset of the text. -/
def closeTag (body : List Char) (offset : Nat) (opened : List OpenTag) :
    Except Fault (List OpenTag) := do
  let name := Text.strip (String.ofList ((body.drop 1).takeWhile (· != '=')))
  let found ←
    if name.isEmpty then
      match takeOut? (fun _ => true) opened with
      | some r => .ok r
      | none => .error (.nothingOpen offset)
    else
      let name ← StyleName.normalize name
      match takeOut? (·.name == name) opened with
      | some r => .ok r
      | none => .error (.unmatched (String.ofList ('[' :: body ++ [']'])) offset)
  found.1.close
  return found.2

/-- The open tags after an opening tag with the inside `body`. -/
def openTag (body : List Char) (opened : List OpenTag) : Except Fault (List OpenTag) := do
  let name ← StyleName.normalize (String.ofList (body.takeWhile (· != '=')))
  let parameters :=
    if body.contains '=' then some (String.ofList (body.dropWhile (· != '=')).tail) else none
  return ⟨name, parameters⟩ :: opened

/-- The open tags after one more tag. -/
def applyTag (body : List Char) (offset : Nat) (opened : List OpenTag) :
    Except Fault (List OpenTag) :=
  if body.head? == some '/' then closeTag body offset opened else openTag body opened

/-- The style under open tags, innermost first. -/
def styleOf (opened : List OpenTag) : Style :=
  opened.foldr (fun t s => s.overlay (Style.ofName t.styleName)) {}

/-- Cells of one style. -/
def cellsOf (opened : List OpenTag) (run : Nat) (cs : List Char) : List Cell :=
  (shown cs).map fun c => ⟨c, styleOf opened, run⟩

/-- Renders pieces from an offset of the text on, after `run` tags, with tags open, innermost first.
-/
def renderFrom : List OpenTag → Nat → Nat → List Piece → Except Fault (List Cell)
  | _, _, _, [] => .ok []
  | opened, run, offset, .text cs :: ps =>
    (renderFrom opened run (offset + cs.length) ps).map (cellsOf opened run cs ++ ·)
  | opened, run, offset, .bracket slashes body :: ps =>
    let next := offset + slashes + body.length + 2
    let before := cellsOf opened run (List.replicate (slashes / 2) '\\')
    if slashes % 2 == 1 then
      (renderFrom opened run next ps).map fun cells =>
        before ++ cellsOf opened run ('[' :: body ++ [']']) ++ cells
    else
      (applyTag body (offset + slashes) opened).bind fun opened =>
        (renderFrom opened (run + 1) next ps).map (before ++ ·)

/-- The styled text of a markup text. -/
def render (markup : String) : Except Fault (List Cell) := renderFrom [] 0 0 (pieces markup.toList)

end FenceLint.Markup
