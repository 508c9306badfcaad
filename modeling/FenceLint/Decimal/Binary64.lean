/-!
# Double precision numbers

Binary floating point numbers with 53 digits of precision, kept exactly, and the nearest such
number to a decimal.
-/

namespace FenceLint.Decimal

/-- A double precision number. -/
inductive Binary64 where
  /-- Not a number. -/
  | nan
  /-- Infinity, with its sign. -/
  | inf (negative : Bool)
  /-- The number `mantissa * 2 ^ exponent`, with its sign. -/
  | finite (negative : Bool) (mantissa : Nat) (exponent : Int)
deriving Repr, DecidableEq, Inhabited

/-- A positive fraction `num / den`. -/
structure Fraction where
  /-- The numerator. -/
  num : Nat
  /-- The denominator. -/
  den : Nat

namespace Fraction

/-- The number `digits * base ^ exponent`. -/
def scaled (digits base : Nat) (exponent : Int) : Fraction :=
  if 0 ≤ exponent then ⟨digits * base.pow exponent.toNat, 1⟩
  else ⟨digits, base.pow (-exponent).toNat⟩

/-- The fraction divided by `base ^ exponent`. -/
def divPow (x : Fraction) (base : Nat) (exponent : Int) : Fraction :=
  if 0 ≤ exponent then ⟨x.num, x.den * base.pow exponent.toNat⟩
  else ⟨x.num * base.pow (-exponent).toNat, x.den⟩

/-- The nearest whole number; a half goes to the even neighbour. -/
def round (x : Fraction) : Nat :=
  let q := x.num / x.den
  let twice := 2 * (x.num % x.den)
  if x.den < twice || (twice == x.den && q % 2 == 1) then q + 1 else q

/-- The exponent of the largest power of two that is at most `x`. -/
def log2 (x : Fraction) : Int :=
  let k : Int := (Nat.log2 x.num : Int) - Nat.log2 x.den
  let y := x.divPow 2 k
  if y.num < y.den then k - 1 else k

end Fraction

namespace Binary64

/-- The exponent of the smallest numbers. -/
def minExponent : Int := -1074

/-- The exponent of the largest numbers. -/
def maxExponent : Int := 971

/-- The least mantissa of a number that is not among the smallest. -/
def hidden : Nat := 0x10000000000000

/-- The number nearest to a positive fraction. -/
def ofFraction (negative : Bool) (x : Fraction) : Binary64 :=
  let q := max (x.log2 - 52) minExponent
  let m := (x.divPow 2 q).round
  let (m, q) := if m == 2 * hidden then (hidden, q + 1) else (m, q)
  if maxExponent < q then .inf negative
  else if m == 0 then .finite negative 0 0
  else .finite negative m q

/-- The number nearest to `digits * 10 ^ exponent`.  Decimals far beyond the range of these
numbers are settled by their number of digits. -/
def ofDecimal (negative : Bool) (digits : Nat) (exponent : Int) : Binary64 :=
  if digits == 0 then .finite negative 0 0
  else
    let top := exponent + (Nat.toDigits 10 digits).length
    if 400 < top then .inf negative
    else if top < -400 then .finite negative 0 0
    else ofFraction negative (.scaled digits 10 exponent)

end Binary64

end FenceLint.Decimal
