import Shipyard.Decimal.Binary64

/-!
# One digit behind the point

The text of a number with exactly one digit behind the point. The exact value of the number is
rounded, a tie going to the even digit.
-/

namespace Shipyard.Decimal.Binary64

/-- The magnitude in tenths, rounded. -/
def tenths (x : Binary64) : Nat :=
  roundHalfEven (x.num * 10) x.den

/-- The text of a number with one digit behind the point. -/
def toOnePlace (x : Binary64) : String :=
  let sign := if x.negative then ['-'] else []
  String.ofList
    (sign ++ Nat.toDigits 10 (x.tenths / 10) ++ '.' :: Nat.toDigits 10 (x.tenths % 10))

end Shipyard.Decimal.Binary64
