import FenceLint.Decimal.Shortest
import FenceLint.Json.Value
import FenceLint.Text.Quoted

/-!
# Values in messages

The form in which a value is shown in a message, on one line, with quoted texts.
-/

namespace FenceLint.Json

/-- The name of the kind of a value. -/
def Value.kind : Value → String
  | .null => "NoneType"
  | .bool _ => "bool"
  | .int _ => "int"
  | .float _ => "float"
  | .str _ => "str"
  | .list _ => "list"
  | .object _ => "dict"

mutual

/-- The form of a value in a message. -/
def display : Value → String
  | .null => "None"
  | .bool b => if b then "True" else "False"
  | .int n => toString n
  | .float x => x.text
  | .str s => Text.quote s
  | .list [] => "[]"
  | .list (v :: vs) => "[" ++ display v ++ displayItems vs ++ "]"
  | .object [] => "\x7b\x7d"
  | .object ((k, v) :: fs) =>
    "\x7b" ++ Text.quote k ++ ": " ++ display v ++ displayMembers fs ++ "\x7d"

/-- The items of a list after its first one. -/
def displayItems : List Value → String
  | [] => ""
  | v :: vs => ", " ++ display v ++ displayItems vs

/-- The fields of an object after its first one. -/
def displayMembers : List (String × Value) → String
  | [] => ""
  | (k, v) :: fs => ", " ++ Text.quote k ++ ": " ++ display v ++ displayMembers fs

end

end FenceLint.Json
