import Shipyard.Decimal.Binary64

/-!
# The shortest decimal of a number

Among the decimals that round to a number, one with the fewest digits, and of those the nearest.
It is found by exact arithmetic: for one digit, two digits and so on, the two neighbours of the
number on that decimal grid are tried.

The text of it is positional when the exponent of its first digit lies between -5 and 15, with at
least one digit behind the point; otherwise it is scientific with a signed exponent.
-/

namespace Shipyard.Decimal

/-- The decimal `digits * 10 ^ exponent`. -/
structure Scaled where
  digits : Nat
  exponent : Int
  deriving DecidableEq, Repr

namespace Scaled

/-- The numerator of the decimal as a fraction. -/
def num (d : Scaled) : Nat := d.digits * power 10 d.exponent.toNat

/-- The denominator of the decimal as a fraction. -/
def den (d : Scaled) : Nat := power 10 (-d.exponent).toNat

/-- Zeros at the end of the digits moved into the exponent, at most `fuel` of them. -/
def dropZeros : Nat → Scaled → Scaled
  | 0, d => d
  | fuel + 1, d =>
    if d.digits % 10 = 0 ∧ d.digits ≠ 0 then dropZeros fuel ⟨d.digits / 10, d.exponent + 1⟩ else d

end Scaled

namespace Binary64

/-- Whether the gap to the next smaller number is half the gap to the next greater one. -/
def narrowBelow (x : Binary64) : Bool :=
  x.significand == power 2 52 && leastExponent < x.exponent

/-- Whether a decimal lies among the reals that round to the magnitude of `x`: between the points
halfway to the neighbours, which belong to it if the significand is even. -/
def isDecimal (x : Binary64) (d : Scaled) : Bool :=
  let low := if x.narrowBelow then 4 * x.significand - 1 else 4 * x.significand - 2
  let high := 4 * x.significand + 2
  let scale := power 2 x.exponent.toNat * d.den
  let point := 4 * d.num * x.den
  if x.significand % 2 = 0 then low * scale ≤ point && point ≤ high * scale
  else low * scale < point && point < high * scale

/-- The least `k` with magnitude below `10 ^ k`, searched upward from an estimate that is not
above it. -/
def decimalPoint (x : Binary64) : Nat → Int → Int
  | 0, k => k
  | fuel + 1, k =>
    if x.num * power 10 (-k).toNat < power 10 k.toNat * x.den then k
    else decimalPoint x fuel (k + 1)

/-- An exponent of ten that is not above the decimal point of `x`: the binary logarithm times 0.301,
less one. -/
def pointEstimate (x : Binary64) : Int :=
  let log : Int := (Nat.log2 x.significand : Int) + x.exponent
  Int.fdiv (log * 30102) 100000 - 1

/-- The decimals on the grid `10 ^ e` next to the magnitude of `x`, the nearer one first. -/
def neighbours (x : Binary64) (e : Int) : List Scaled :=
  let num := x.num * power 10 (-e).toNat
  let den := x.den * power 10 e.toNat
  let below := num / den
  let rest := 2 * (num % den)
  if rest < den ∨ (rest = den ∧ below % 2 = 0) then [⟨below, e⟩, ⟨below + 1, e⟩]
  else [⟨below + 1, e⟩, ⟨below, e⟩]

/-- The first decimal that reads back, trying grids of more and more digits. -/
def firstDecimal (x : Binary64) (point : Int) : Nat → Nat → Option Scaled
  | 0, _ => none
  | fuel + 1, digits =>
    match (x.neighbours (point - digits)).find? fun d => d.digits != 0 && x.isDecimal d with
    | some d => some d
    | none => firstDecimal x point fuel (digits + 1)

/-- The exact decimal of the magnitude. -/
def exactDecimal (x : Binary64) : Scaled :=
  ⟨x.num * power 5 (-x.exponent).toNat, -((-x.exponent).toNat : Int)⟩

/-- The shortest decimal of a number that is not zero. -/
def shortest (x : Binary64) : Scaled :=
  let point := x.decimalPoint 4 x.pointEstimate
  ((x.firstDecimal point 17 1).getD x.exactDecimal).dropZeros 400

/-- The digits of a natural number. -/
def digitChars (n : Nat) : List Char :=
  Nat.toDigits 10 n

/-- A scientific exponent with its sign. -/
def exponentChars (e : Int) : List Char :=
  'e' :: (if e < 0 then '-' else '+') :: digitChars e.natAbs

/-- The text of a decimal that is not zero. -/
def layout (d : Scaled) : List Char :=
  let digits := digitChars d.digits
  let count := digits.length
  let leading := d.exponent + count - 1
  if leading < -5 ∨ 15 < leading then
    match digits with
    | [] => []
    | first :: [] => first :: exponentChars leading
    | first :: rest => first :: '.' :: rest ++ exponentChars leading
  else if 0 ≤ d.exponent then digits ++ List.replicate d.exponent.toNat '0' ++ ['.', '0']
  else
    let places := (-d.exponent).toNat
    if places < count then digits.take (count - places) ++ '.' :: digits.drop (count - places)
    else '0' :: '.' :: List.replicate (places - count) '0' ++ digits

/-- The text of a number. -/
def toText (x : Binary64) : String :=
  let sign := if x.negative then ['-'] else []
  String.ofList (sign ++ if x.isZero then ['0', '.', '0'] else layout x.shortest)

end Binary64

end Shipyard.Decimal
