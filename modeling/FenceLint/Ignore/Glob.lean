/-!
# Globs

A pattern for paths is a list of atoms that are matched one after the other from the start of a
path.  What follows the last atom may be anything, so a pattern that ends with the name of a
directory matches everything below it.
-/

namespace FenceLint.Ignore

/-- A member of a set of characters. -/
inductive SetItem where
  /-- One character. -/
  | single (c : Char)
  /-- All characters from `first` to `last`. -/
  | range (first last : Char)
deriving Repr, DecidableEq

/-- An atom of a pattern. -/
inductive Atom where
  /-- This character. -/
  | char (c : Char)
  /-- A character other than the slash. -/
  | one
  /-- Any number of characters other than the slash, at least `least`. -/
  | run (least : Nat)
  /-- A character that one of the items holds, or none of them if `negated`. -/
  | set (negated : Bool) (items : List SetItem)
  /-- Nothing, or directories with the slash after them. -/
  | directories
  /-- Nothing, or a slash with directories after it. -/
  | inner
  /-- The end of a name: a slash or the end of the path. -/
  | nameEnd
  /-- A slash somewhere ahead. -/
  | someSlash
  /-- A character other than the line feed somewhere ahead. -/
  | something
deriving Repr, DecidableEq

/-- What is left of `cs` after one or more characters that satisfy `p`. -/
def restsAfter (p : Char → Bool) : List Char → List (List Char)
  | [] => []
  | c :: cs => if p c then cs :: restsAfter p cs else []

/-- What is left of `cs` after any number of characters that satisfy `p`, at least `least`. -/
def restsAfterRun (p : Char → Bool) (least : Nat) (cs : List Char) : List (List Char) :=
  if least = 0 then cs :: restsAfter p cs else restsAfter p cs

/-- The item holds the character. -/
def SetItem.holds (c : Char) : SetItem → Bool
  | .single d => c == d
  | .range first last => first ≤ c && c ≤ last

/-- What may be left of `cs` after an atom. -/
def Atom.rests (a : Atom) (cs : List Char) : List (List Char) :=
  match a, cs with
  | .char c, d :: ds => if c == d then [ds] else []
  | .one, d :: ds => if d != '/' then [ds] else []
  | .set negated items, d :: ds => if items.any (·.holds d) != negated then [ds] else []
  | .run least, cs => restsAfterRun (· != '/') least cs
  | .directories, cs =>
    cs :: (restsAfter (· != '\n') cs).filterMap fun
      | '/' :: rest => some rest
      | _ => none
  | .inner, cs =>
    cs :: match cs with
      | '/' :: rest => restsAfter (· != '\n') rest
      | _ => []
  | .nameEnd, cs =>
    match cs with
    | [] => [[]]
    | '/' :: rest => [rest]
    | ['\n'] => [cs]
    | _ => []
  | .someSlash, cs => if cs.contains '/' then [cs] else []
  | .something, cs => if cs.any (· != '\n') then [cs] else []
  | _, [] => []

/-- The atoms match the start of `cs`. -/
def matchesStart : List Atom → List Char → Bool
  | [], _ => true
  | a :: as, cs => (a.rests cs).any (matchesStart as)

end FenceLint.Ignore
