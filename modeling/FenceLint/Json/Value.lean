import FenceLint.Decimal.Binary64

/-!
# JSON values

Values of a JSON text.  Objects keep the order of their keys.
-/

namespace FenceLint.Json

/-- A JSON value. -/
inductive Value where
  /-- The null value. -/
  | null
  /-- A truth value. -/
  | bool (b : Bool)
  /-- A whole number, written without point and exponent. -/
  | int (n : Int)
  /-- A number written with point or exponent. -/
  | float (x : Decimal.Binary64)
  /-- A text. -/
  | str (s : String)
  /-- A list. -/
  | list (items : List Value)
  /-- An object, as its keys and values in order. -/
  | object (fields : List (String × Value))
deriving Repr, Inhabited

mutual

/-- The whole numbers in a value, in order. -/
def Value.wholeNumbers : Value → List Int
  | .int n => [n]
  | .list items => wholeNumbersOfItems items
  | .object fields => wholeNumbersOfFields fields
  | _ => []

/-- The whole numbers in the items of a list. -/
def wholeNumbersOfItems : List Value → List Int
  | [] => []
  | v :: vs => v.wholeNumbers ++ wholeNumbersOfItems vs

/-- The whole numbers in the fields of an object. -/
def wholeNumbersOfFields : List (String × Value) → List Int
  | [] => []
  | (_, v) :: fs => v.wholeNumbers ++ wholeNumbersOfFields fs

end

/-- The fields of an object. -/
abbrev Fields := List (String × Value)

namespace Fields

/-- Sets a field: a key that is there keeps its place and gets the new value, another one is added
at the end. -/
def put (key : String) (value : Value) : Fields → Fields
  | [] => [(key, value)]
  | (k, v) :: rest => if k == key then (k, value) :: rest else (k, v) :: put key value rest

/-- The value of a key. -/
def get? (fields : Fields) (key : String) : Option Value := fields.lookup key

/-- A key keeps its place when it is set again, and a new one comes last. -/
theorem keys_put (key : String) (value : Value) (fields : Fields) :
    (put key value fields).map Prod.fst =
      if key ∈ fields.map Prod.fst then fields.map Prod.fst else fields.map Prod.fst ++ [key] := by
  induction fields with
  | nil => rfl
  | cons f rest ih =>
    obtain ⟨k, v⟩ := f
    by_cases h : k = key
    · simp [put, h]
    · have h' : ¬ key = k := fun e => h e.symm
      by_cases hm : key ∈ rest.map Prod.fst <;> simp_all [put]

end Fields

end FenceLint.Json
