import FenceLint.Decimal.Binary64

/-!
# Shortest decimals

The decimal with the fewest digits that reads back as a given double precision number, and the form
in which it is written.
-/

namespace FenceLint.Decimal

/-- A positive decimal `0.d₁d₂… * 10 ^ point`. -/
structure Digits where
  /-- The digits as a whole number. -/
  value : Nat
  /-- Where the decimal point stands, counted from the left of the digits. -/
  point : Int
deriving Repr, DecidableEq

namespace Digits

/-- The digits from left to right. -/
def chars (d : Digits) : List Char := Nat.toDigits 10 d.value

/-- The exponent of ten of the last digit. -/
def exponent (d : Digits) : Int := d.point - d.chars.length

end Digits

/-- The two decimals of `n` digits next to `x`, which is less than `10 ^ point`, the nearer one
first; of two that are equally near, the even one. -/
def neighbours (x : Fraction) (point : Int) (n : Nat) : List Digits :=
  let y := x.divPow 10 (point - n)
  let below := y.num / y.den
  let nearest := y.round
  let other := if nearest == below then below + 1 else below
  [nearest, other].map fun v => ⟨v, point - n + (Nat.toDigits 10 v).length⟩

/-- The position of the decimal point of `x`: the smallest power of ten above it. -/
def pointOf (x : Fraction) : Int :=
  let guess : Int :=
    (Nat.toDigits 10 x.num).length - (Nat.toDigits 10 x.den).length
  let y := x.divPow 10 guess
  if y.num < y.den then guess else guess + 1

/-- The shortest decimal that reads back as the positive number `m * 2 ^ q`; of two the nearer one.
Seventeen digits always suffice. -/
def shortest (m : Nat) (q : Int) : Digits :=
  let x := Fraction.scaled m 2 q
  let point := pointOf x
  let readsBack := fun (d : Digits) =>
    d.value != 0 && Binary64.ofDecimal false d.value d.exponent == .finite false m q
  ((List.range' 1 17).findSome? fun n => (neighbours x point n).find? readsBack).getD ⟨0, 0⟩

/-- How numbers are written. -/
structure Layout where
  /-- Decimal points further left than this are written with an exponent. -/
  leastPoint : Int
  /-- Decimal points further right than this are written with an exponent. -/
  greatestPoint : Int
  /-- The least number of digits of an exponent. -/
  exponentDigits : Nat

/-- Numbers from `0.0001` up to `10 ^ 16` are written positionally, always with a point; an
exponent has a sign and at least two digits. -/
def plainLayout : Layout := ⟨-3, 16, 2⟩

namespace Layout

/-- Drops the zeros at the end. -/
def dropZeros (cs : List Char) : List Char := (cs.reverse.dropWhile (· == '0')).reverse

/-- Writes a positive decimal. -/
def write (f : Layout) (d : Digits) : List Char :=
  let cs := dropZeros d.chars
  let n : Int := cs.length
  if f.leastPoint ≤ d.point && d.point ≤ f.greatestPoint then
    if d.point ≤ 0 then '0' :: '.' :: List.replicate (-d.point).toNat '0' ++ cs
    else if n ≤ d.point then cs ++ List.replicate (d.point - n).toNat '0' ++ ['.', '0']
    else cs.take d.point.toNat ++ '.' :: cs.drop d.point.toNat
  else
    let e := d.point - 1
    let digits := Nat.toDigits 10 e.natAbs
    let padded := List.replicate (f.exponentDigits - digits.length) '0' ++ digits
    cs.take 1 ++ (if cs.length ≤ 1 then [] else '.' :: cs.drop 1) ++
      'e' :: (if e < 0 then '-' else '+') :: padded

end Layout

/-- The text of a double precision number. -/
def Binary64.text : Binary64 → String
  | .nan => "nan"
  | .inf negative => if negative then "-inf" else "inf"
  | .finite negative m q =>
    let digits := if m == 0 then "0.0".toList else plainLayout.write (shortest m q)
    String.ofList (if negative then '-' :: digits else digits)

end FenceLint.Decimal
