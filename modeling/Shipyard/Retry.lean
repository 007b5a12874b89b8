/-!
# Retrying

An operation is tried until it succeeds, fails in a way that is not worth another try, or the budget
of attempts is spent. The attempts are numbered from one, and there is always at least one.
-/

namespace Shipyard

/-- How often to try, and how many seconds to wait in between. -/
structure RetryPolicy where
  maxAttempts : Nat
  delaySecs : Nat
  deriving DecidableEq, Repr

namespace RetryPolicy

/-- Three attempts, five seconds apart. -/
def standard : RetryPolicy := ⟨3, 5⟩

/-- A single attempt. -/
def once : RetryPolicy := ⟨1, 0⟩

/-- The number of attempts that may be made. -/
def budget (policy : RetryPolicy) : Nat := max policy.maxAttempts 1

end RetryPolicy

variable {m : Type → Type} [Monad m] {ε α : Type}

/-- Attempt number `attempt`, with `left` more attempts behind it. -/
def attemptFrom (pause : m Unit) (worthRetrying : ε → Bool) (operation : Nat → m (Except ε α)) :
    (left attempt : Nat) → m (Except ε α)
  | 0, attempt => operation attempt
  | left + 1, attempt => do
    match ← operation attempt with
    | .ok value => return .ok value
    | .error fault =>
      if worthRetrying fault then
        pause
        attemptFrom pause worthRetrying operation left (attempt + 1)
      else return .error fault

/-- Try an operation under a policy; it is given the number of the attempt. -/
def retry (policy : RetryPolicy) (pause : m Unit) (worthRetrying : ε → Bool)
    (operation : Nat → m (Except ε α)) : m (Except ε α) :=
  attemptFrom pause worthRetrying operation (policy.budget - 1) 1

end Shipyard
