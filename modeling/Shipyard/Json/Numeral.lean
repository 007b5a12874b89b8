import Shipyard.Json.Basic
import Shipyard.Text.Digits

/-!
# Written numbers

A number as it is written: a sign, digits before the point, digits behind it, an exponent. A
numeral without point and exponent is an integer if it fits 64 bits, unsigned or signed, and is
not `-0`; every other numeral is a binary64 number, or nothing at all if it lies beyond the
greatest one.
-/

namespace Shipyard.Json

/-- A number as it is written. -/
structure Numeral where
  negative : Bool
  whole : List Char
  fraction : Option (List Char)
  exponent : Option (Bool × List Char)
  deriving DecidableEq, Repr

/-- The greatest integer that is kept in full while digits are read. -/
def digitLimit : Nat := 18446744073709551615

/-- Take up digits behind the value `n` as long as the value stays within `digitLimit`; the value
and the digits that are left. -/
def takeUp (n : Nat) : List Char → Nat × List Char
  | [] => (n, [])
  | c :: cs =>
    if 10 * n + Text.decimalDigit c ≤ digitLimit then takeUp (10 * n + Text.decimalDigit c) cs else (n, c :: cs)

namespace Numeral

/-- The digits before the point: a zero alone, or digits that do not begin with zero. -/
def readWhole : List Char → Option (List Char × List Char)
  | '0' :: c :: cs => if c.isDigit then none else some (['0'], c :: cs)
  | ['0'] => some (['0'], [])
  | c :: cs =>
    if c.isDigit then some (c :: cs.takeWhile Char.isDigit, cs.dropWhile Char.isDigit) else none
  | [] => none

/-- The digits behind a point, if there is a point: at least one. -/
def readFraction : List Char → Option (Option (List Char) × List Char)
  | '.' :: cs =>
    if (cs.takeWhile Char.isDigit).isEmpty then none
    else some (some (cs.takeWhile Char.isDigit), cs.dropWhile Char.isDigit)
  | cs => some (none, cs)

/-- The sign and the digits of an exponent: at least one digit. -/
def readExponentDigits (negative : Bool) (cs : List Char) :
    Option (Option (Bool × List Char) × List Char) :=
  if (cs.takeWhile Char.isDigit).isEmpty then none
  else some (some (negative, cs.takeWhile Char.isDigit), cs.dropWhile Char.isDigit)

/-- An exponent, if there is a mark for one. -/
def readExponent : List Char → Option (Option (Bool × List Char) × List Char)
  | c :: cs =>
    if c = 'e' ∨ c = 'E' then
      match cs with
      | '+' :: cs => readExponentDigits false cs
      | '-' :: cs => readExponentDigits true cs
      | cs => readExponentDigits false cs
    else some (none, c :: cs)
  | [] => some (none, [])

/-- A numeral behind its sign, with the characters that follow it. -/
def readUnsigned (negative : Bool) (cs : List Char) : Option (Numeral × List Char) := do
  let (whole, cs) ← readWhole cs
  let (fraction, cs) ← readFraction cs
  let (exponent, cs) ← readExponent cs
  return (⟨negative, whole, fraction, exponent⟩, cs)

/-- The numeral at the start of a text, with the characters that follow it. -/
def read : List Char → Option (Numeral × List Char)
  | '-' :: cs => readUnsigned true cs
  | cs => readUnsigned false cs

/-- The exponent as an integer. -/
def power (n : Numeral) : Int :=
  match n.exponent with
  | none => 0
  | some (true, digits) => -(Text.decimalValue digits : Int)
  | some (false, digits) => Text.decimalValue digits

/-- The integer that a run of digits with a sign stands for, if it is kept as an integer. -/
def integer? (negative : Bool) (magnitude : Nat) : Option Int :=
  if negative then
    if 0 < magnitude ∧ magnitude ≤ 9223372036854775808 then some (-(magnitude : Int)) else none
  else some magnitude

/-- The number that a numeral stands for; `none` beyond the greatest number. Digits that do not fit
64 bits any more only count as places. -/
def value? (n : Numeral) : Option Number :=
  let (head, left) := takeUp 0 n.whole
  let decimal (digits : Nat) (power : Int) : Option Number :=
    (Decimal.Binary64.ofDecimal? n.negative digits power).map .decimal
  match n.fraction, n.exponent with
  | none, none =>
    match left, integer? n.negative head with
    | [], some i => some (.integer i)
    | _, _ => decimal head left.length
  | none, some _ => decimal head (left.length + n.power)
  | some fraction, _ =>
    let (digits, unread) := takeUp head fraction
    decimal digits (left.length + unread.length - fraction.length + n.power)

end Numeral

end Shipyard.Json
