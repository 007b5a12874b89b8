import Shipyard.Decimal.Power

/-!
# Finite binary64 numbers

A finite binary64 number as a sign, a significand and a power of two, with exact rounding: every
operation forms its exact result as a quotient of natural numbers and rounds it once, to nearest, a
tie going to the even significand. `Binary64.ofDecimal?` reads a decimal the way the release tool's
documents are read: the digits as one integer first, then the power of ten.
-/

namespace Shipyard.Decimal

/-- `num / den` rounded to the nearest integer, a tie going to the even one. -/
def roundHalfEven (num den : Nat) : Nat :=
  let q := num / den
  let r := num % den
  if 2 * r < den then q
  else if den < 2 * r then q + 1
  else if q % 2 = 0 then q else q + 1

/-- The number `± significand * 2 ^ exponent`. -/
structure Binary64 where
  negative : Bool
  significand : Nat
  exponent : Int
  deriving DecidableEq, Repr

namespace Binary64

/-- The least exponent. -/
def leastExponent : Int := -1074

/-- The greatest exponent. -/
def greatestExponent : Int := 971

/-- The zero of a sign. -/
def zero (negative : Bool) : Binary64 :=
  ⟨negative, 0, leastExponent⟩

instance : Inhabited Binary64 := ⟨zero false⟩

/-- The greatest `k` with `2 ^ k ≤ num / den`, for positive `num` and `den`. -/
def floorLog2 (num den : Nat) : Int :=
  let k : Int := (Nat.log2 num : Int) - (Nat.log2 den : Int)
  if den * power 2 k.toNat ≤ num * power 2 (-k).toNat then k else k - 1

/-- The number nearest to `± num / den`; `none` if that lies beyond the greatest number. -/
def ofRatio (negative : Bool) (num den : Nat) : Option Binary64 :=
  if num = 0 then some (zero negative)
  else
    let exponent := max (floorLog2 num den - 52) leastExponent
    let m := roundHalfEven (num * power 2 (-exponent).toNat) (den * power 2 exponent.toNat)
    let rounded : Binary64 :=
      if m = power 2 53 then ⟨negative, power 2 52, exponent + 1⟩ else ⟨negative, m, exponent⟩
    if greatestExponent < rounded.exponent then none else some rounded

/-- The numerator of the magnitude as a fraction. -/
def num (x : Binary64) : Nat :=
  x.significand * power 2 x.exponent.toNat

/-- The denominator of the magnitude as a fraction. -/
def den (x : Binary64) : Nat :=
  power 2 (-x.exponent).toNat

/-- Whether a number is a zero of either sign. -/
def isZero (x : Binary64) : Bool :=
  x.significand == 0

/-- The number nearest to a natural number below `2 ^ 64`. -/
def ofNat (n : Nat) : Binary64 :=
  (ofRatio false n 1).getD (zero false)

/-- The number nearest to an integer of at most 64 bits. -/
def ofInt (i : Int) : Binary64 :=
  (ofRatio (decide (i < 0)) i.natAbs 1).getD (zero false)

/-- The rounded product. -/
def mul (x y : Binary64) : Option Binary64 :=
  ofRatio (x.negative != y.negative) (x.num * y.num) (x.den * y.den)

/-- The rounded quotient by a number that is no zero. -/
def div (x y : Binary64) : Option Binary64 :=
  ofRatio (x.negative != y.negative) (x.num * y.den) (x.den * y.num)

/-- The rounded sum of two numbers that are not negative. -/
def addMagnitudes (x y : Binary64) : Binary64 :=
  (ofRatio false (x.num * y.den + y.num * x.den) (x.den * y.den)).getD (zero false)

/-- The number as a fraction with its sign, over `den`. -/
def signedNum (x : Binary64) : Int :=
  if x.negative then -(x.num : Int) else x.num

/-- Numerical equality: the two zeros are equal. -/
def equals (x y : Binary64) : Bool :=
  x.signedNum * y.den == y.signedNum * x.den

/-- Numerical order. -/
def less (x y : Binary64) : Bool :=
  x.signedNum * y.den < y.signedNum * x.den

/-- The number nearest to `10 ^ k`, for `k` up to 308. -/
def powerOfTen (k : Nat) : Binary64 :=
  ofNat (power 10 k)

/-- A number scaled by a power of ten. Powers beyond 308 are taken in steps of 308; `none` if the
result is beyond the greatest number. -/
def scaleByTen (x : Binary64) (power : Int) : Nat → Option Binary64
  | 0 => some x
  | steps + 1 =>
    if power.natAbs ≤ 308 then
      if 0 ≤ power then x.mul (powerOfTen power.natAbs) else x.div (powerOfTen power.natAbs)
    else if x.isZero then some x
    else if 0 ≤ power then none
    else (x.div (powerOfTen 308)).bind fun y => scaleByTen y (power + 308) steps

/-- The decimal `± digits * 10 ^ power` for `digits` below `2 ^ 64`: the digits are rounded first,
then the scaled number. Three steps of `10 ^ 308` bring every such number to zero. -/
def ofDecimal? (negative : Bool) (digits : Nat) (power : Int) : Option Binary64 :=
  (scaleByTen (ofNat digits) power 4).map fun x => { x with negative }

end Binary64

end Shipyard.Decimal
