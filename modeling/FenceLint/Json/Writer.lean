import FenceLint.Decimal.Shortest
import FenceLint.Json.Value
import FenceLint.Text.Integer
import FenceLint.Text.Quoted

/-!
# Writing JSON

The text of a value over several lines, indented by two spaces a level.  Characters beyond ASCII are
written as they are.  A value with a whole number of too many digits is not written at all.
-/

namespace FenceLint.Json.Writer

/-- One character of a string literal. -/
def char (c : Char) : List Char :=
  if c == '"' || c == '\\' then ['\\', c]
  else if c == '\n' then ['\\', 'n']
  else if c == '\r' then ['\\', 'r']
  else if c == '\t' then ['\\', 't']
  else if c == '\x0c' then ['\\', 'f']
  else if c == '\x08' then ['\\', 'b']
  else if c.toNat < 0x20 then '\\' :: 'u' :: Text.hexPadded 4 c.toNat
  else [c]

/-- A string literal. -/
def string (s : String) : List Char := '"' :: s.toList.flatMap char ++ ['"']

/-- A line break and the indentation of a level. -/
def newline (level : Nat) : List Char := '\n' :: List.replicate (2 * level) ' '

/-- A number with point or exponent; the names of the other numbers. -/
def float (x : Decimal.Binary64) : List Char :=
  match x with
  | .nan => "NaN".toList
  | .inf negative => (if negative then "-Infinity" else "Infinity").toList
  | x => x.text.toList

mutual

/-- The text of a value at a level. -/
def value (level : Nat) : Value → List Char
  | .null => "null".toList
  | .bool b => (if b then "true" else "false").toList
  | .int n => (toString n).toList
  | .float x => float x
  | .str s => string s
  | .list [] => ['[', ']']
  | .list (v :: vs) =>
    '[' :: newline (level + 1) ++ value (level + 1) v ++ items (level + 1) vs ++
      newline level ++ [']']
  | .object [] => ['\x7b', '\x7d']
  | .object ((k, v) :: fs) =>
    '\x7b' :: newline (level + 1) ++ string k ++ [':', ' '] ++ value (level + 1) v ++
      members (level + 1) fs ++ newline level ++ ['\x7d']

/-- The items of a list after its first one. -/
def items (level : Nat) : List Value → List Char
  | [] => []
  | v :: vs => ',' :: newline level ++ value level v ++ items level vs

/-- The fields of an object after its first one. -/
def members (level : Nat) : List (String × Value) → List Char
  | [] => []
  | (k, v) :: fs =>
    ',' :: newline level ++ string k ++ [':', ' '] ++ value level v ++ members level fs

end

end FenceLint.Json.Writer

namespace FenceLint.Json

/-- The text of a value; none if a whole number in it has too many digits. -/
def write? (v : Value) : Option String :=
  if v.wholeNumbers.all Text.isShort then some (String.ofList (Writer.value 0 v)) else none

end FenceLint.Json
