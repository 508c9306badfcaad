import FenceLint.Text.Blank

/-!
# Whole numbers

Whole numbers as they may be written on a command line: white space around them, a sign, zeros in
front, single underscores between digits, and a fraction of zeros.  A written number is first
brought into its plain form, which has nothing but a sign and digits without needless zeros.
-/

namespace FenceLint.Text

/-- The most digits that a number may have. -/
def maxDigits : Nat := 4300

/-- The least amount that has too many digits. -/
def leastLong : Nat := Nat.pow 10 maxDigits

/-- The number does not have too many digits to be written. -/
def isShort (n : Int) : Bool := n.natAbs < leastLong

/-- The complaint about a number with too many digits. -/
def digitsMessage (found : String) : String :=
  "Exceeds the limit (" ++ toString maxDigits ++ " digits) for integer string conversion" ++
    found ++ "; use sys.set_int_max_str_digits() to increase the limit"

/-- The value of decimal digits. -/
def digitsValue (cs : List Char) : Nat :=
  cs.foldl (fun n c => 10 * n + (c.toNat - '0'.toNat)) 0

/-- The value of digits in plain form: a zero alone, or digits that do not start with one. -/
def plainNatural? (cs : List Char) : Option Nat :=
  if cs.isEmpty || !cs.all Char.isDigit || maxDigits < cs.length then none
  else if cs.head? == some '0' && 1 < cs.length then none
  else some (digitsValue cs)

/-- The value of a number in plain form. -/
def plainInteger? (cs : List Char) : Option Int :=
  match cs with
  | '-' :: cs => (plainNatural? cs).map fun n => -(n : Int)
  | cs => (plainNatural? cs).map fun n => (n : Int)

/-- Drops zeros in front, and underscores after the first of them, up to the first other digit or
the zero before a point.  `last` is the character before. -/
def dropZeros (last : Char) : List Char → Option (List Char)
  | [] => some [last]
  | c :: cs =>
    if c == '0' || c == '_' then dropZeros c cs
    else if c == '.' then some (last :: c :: cs)
    else if c.isDigit then some (c :: cs)
    else none

/-- A number without zeros in front; none if it starts with neither a digit nor a minus. -/
def withoutLeadingZeros? (cs : List Char) : Option (List Char) :=
  match cs with
  | [] => none
  | c :: rest =>
    if c == '0' then dropZeros c rest
    else if c.isDigit || c == '-' then some cs
    else none

/-- A number without a fraction of zeros. -/
def withoutZeroFraction (cs : List Char) : List Char :=
  if ((cs.dropWhile (· != '.')).tail).all (· == '0') then cs.takeWhile (· != '.') else cs

/-- A number without its underscores, if each of them stands alone between other characters. -/
def withoutUnderscores (cs : List Char) : List Char :=
  let doubled := (cs.zip cs.tail).any fun (a, b) => a == '_' && b == '_'
  if cs.head? == some '_' || cs.getLast? == some '_' || doubled then cs else cs.filter (· != '_')

/-- A number without its plus; none if a minus follows it. -/
def withoutPlus? (cs : List Char) : Option (List Char) :=
  match cs with
  | '+' :: '-' :: _ => none
  | '+' :: cs => some cs
  | cs => some cs

/-- The plain form of a written number. -/
def plainForm? (cs : List Char) : Option (List Char) :=
  ((withoutPlus? (trimWhere isWhiteSpace cs)).bind withoutLeadingZeros?).map fun cs =>
    withoutUnderscores (withoutZeroFraction cs)

/-- The whole number that a text stands for. -/
def integer? (s : String) : Option Int := (plainForm? s.toList).bind plainInteger?

end FenceLint.Text
