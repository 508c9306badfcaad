import FenceLint.Text.Integer
import FenceLint.Text.Quoted

/-!
# Faults of printing

Why a text cannot be printed: its markup is wrong, or a number in it is too long.
-/

namespace FenceLint.Markup

/-- What is wrong with a text that is to be printed. -/
inductive Fault where
  /-- A closing tag names no tag that is open; `offset` is its place in the text. -/
  | unmatched (tag : String) (offset : Nat)
  /-- A closing tag without a name stands where no tag is open. -/
  | nothingOpen (offset : Nat)
  /-- What is given to the handler of a tag is not made of literals. -/
  | notLiteral (parameters : String)
  /-- A component of a colour is empty. -/
  | emptyComponent
  /-- A number has too many digits. -/
  | longNumber
deriving Repr, DecidableEq, Inhabited

namespace Fault

/-- The wording of a fault. -/
def message : Fault → String
  | unmatched tag offset =>
    "closing tag '" ++ tag ++ "' at position " ++ toString offset ++
      " doesn't match any open tag"
  | nothingOpen offset =>
    "closing tag '[/]' at position " ++ toString offset ++ " has nothing to close"
  | notLiteral parameters => "error parsing " ++ Text.quote parameters
  | emptyComponent => "invalid literal for int() with base 10: ''"
  | longNumber => Text.digitsMessage ""

end Fault

end FenceLint.Markup
