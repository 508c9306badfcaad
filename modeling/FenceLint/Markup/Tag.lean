/-!
# Style tags

Console markup: text with tags such as `[bold]` and `[/bold]` in it.  A tag is an opening bracket,
a lower case letter or one of `#`, `/`, `@`, and everything up to the next closing bracket,
without a further opening bracket between them.  Backslashes in front of a tag escape it: two
stand for one of them, and one that is left over makes the tag plain text.
-/

namespace FenceLint.Markup

/-- A part of a markup text. -/
inductive Piece where
  /-- Text between tags. -/
  | text (cs : List Char)
  /-- Something in brackets that has the form of a tag, after a number of backslashes. -/
  | bracket (slashes : Nat) (body : List Char)
deriving Repr, DecidableEq

/-- A tag may start with this character. -/
def startsTag (c : Char) : Bool := ('a' ≤ c && c ≤ 'z') || c == '#' || c == '/' || c == '@'

/-- The inside of a tag, from the text after its opening bracket. -/
def tagBody? (cs : List Char) : Option (List Char) :=
  match cs with
  | [] => none
  | c :: rest =>
    let inside := rest.takeWhile fun d => d != ']' && d != '['
    match rest.drop inside.length with
    | ']' :: _ => if startsTag c then some (c :: inside) else none
    | _ => none

/-- The text that was read before a tag, if there is any; `before` is in reverse. -/
def flush (before : List Char) : List Piece :=
  if before.isEmpty then [] else [.text before.reverse]

/-- Cuts a text into pieces.  `before` is text read so far, in reverse; `slashes` backslashes
follow it; `skip` characters belong to the tag before. -/
def piecesFrom : List Char → Nat → Nat → List Char → List Piece
  | before, slashes, _, [] => flush (List.replicate slashes '\\' ++ before)
  | before, slashes, skip + 1, _ :: cs => piecesFrom before slashes skip cs
  | before, slashes, 0, c :: cs =>
    if c == '\\' then piecesFrom before (slashes + 1) 0 cs
    else
      let plain := fun () => piecesFrom (c :: (List.replicate slashes '\\' ++ before)) 0 0 cs
      if c == '[' then
        match tagBody? cs with
        | some body =>
          flush before ++ .bracket slashes body :: piecesFrom [] 0 (body.length + 1) cs
        | none => plain ()
      else plain ()

/-- The pieces of a markup text. -/
def pieces (cs : List Char) : List Piece := piecesFrom [] 0 0 cs

/-- A piece as it is written when the tags in it are to be plain text. -/
def escapePiece : Piece → List Char
  | .text cs => cs
  | .bracket slashes body => List.replicate (2 * slashes + 1) '\\' ++ '[' :: body ++ [']']

/-- Keeps a single backslash at the end from escaping a tag that follows the text. -/
def guardEnd (cs : List Char) : List Char :=
  match cs.reverse with
  | '\\' :: '\\' :: _ => cs
  | '\\' :: _ => cs ++ ['\\']
  | _ => cs

/-- The markup that shows a text as it is. -/
def escape (s : String) : String :=
  String.ofList (guardEnd ((pieces s.toList).flatMap escapePiece))

end FenceLint.Markup
