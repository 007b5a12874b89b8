/-!
# Powers

Powers of natural numbers, as the readers and printers of numbers use them.
-/

namespace Shipyard.Decimal

/-- A natural number to the power of another. -/
def power (base exponent : Nat) : Nat :=
  Nat.pow base exponent

end Shipyard.Decimal
