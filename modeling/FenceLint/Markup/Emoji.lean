import FenceLint.Markup.EmojiTable
import FenceLint.Text.Blank
import FenceLint.Text.Case

/-!
# Emoji codes

A name between colons, such as `:bug:`, stands for an emoji.  The endings `-text` and `-emoji`
choose how it is shown.  A name that is not known stays as it is, with both of its colons.  The
names that are known stand in a table of their own.
-/

namespace FenceLint.Markup

/-- The ending of a name that chooses how its emoji is shown, with the character that does it. -/
def variants : List (String × Char) := [("-emoji", '\ufe0f'), ("-text", '\ufe0e')]

/-- What a name stands for. -/
def emojiFor? (name : List Char) : Option (List Char) :=
  match variants.find? fun v => v.1.toList.isSuffixOf name with
  | some (ending, mark) =>
    let stem := name.take (name.length - ending.length)
    (emojiNames.lookup (Text.lower (String.ofList stem))).map (· ++ [mark])
  | none => emojiNames.lookup (Text.lower (String.ofList name))

/-- The name after an opening colon: no blanks, up to the next colon. -/
def emojiName? (cs : List Char) : Option (List Char) :=
  let name := cs.takeWhile fun c => c != ':' && !Text.isBlank c
  match cs.drop name.length with
  | ':' :: _ => some name
  | _ => none

/-- Replaces the codes in a text; `skip` characters belong to the code before. -/
def replaceEmojiFrom : Nat → List Char → List Char
  | _, [] => []
  | skip + 1, _ :: cs => replaceEmojiFrom skip cs
  | 0, c :: cs =>
    match if c == ':' then emojiName? cs else none with
    | some name =>
      (emojiFor? name).getD (':' :: name ++ [':']) ++ replaceEmojiFrom (name.length + 1) cs
    | none => c :: replaceEmojiFrom 0 cs

/-- Replaces the emoji codes in a text. -/
def replaceEmoji (cs : List Char) : List Char := replaceEmojiFrom 0 cs

end FenceLint.Markup
