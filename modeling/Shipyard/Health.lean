import Shipyard.Context
import Shipyard.Http.Service

/-!
# Readiness

After a deployment the service is given time to settle. It is ready when its health URL answers with
the expected text; it is asked again until it does or the budget of attempts is spent.
-/

namespace Shipyard.Health

/-- How a service became ready. -/
structure Report where
  url : String
  /-- The number of the attempt that succeeded. -/
  attempts : Nat
  settleSecs : Nat
  deriving DecidableEq, Repr

/-- A report as a document. -/
def Report.toJson (r : Report) : Json :=
  .object
    [ ("url", .text r.url), ("attempts", .ofNat r.attempts), ("settleSecs", .ofNat r.settleSecs) ]

/-- How many characters of a body are shown. -/
def shownLength : Nat := 120

/-- The beginning of a text, with dots behind it if something is left out. -/
def shorten (length : Nat) (text : String) : String :=
  if text.length ≤ length then text else String.ofList (text.toList.take length) ++ "..."

/-- Whether a reply tells that the service is ready. -/
def isReady (expected : String) : Http.Reply → Bool
  | .ok response => Text.trim response.body == expected
  | .error _ => false

/-- How a reply is described. -/
def observation (request : Http.Request) : Http.Reply → String
  | .ok response =>
    "HTTP " ++ Cause.integerText response.status ++ ": " ++
      shorten shownLength (Text.trim response.body)
  | .error problem => (request.cause problem).message

/-- The request that tells whether the service is ready. -/
def probe (api : Endpoints) : Http.Request :=
  { method := .get, url := api.healthUrl }

/-- Whether another attempt is worth while after a failure. -/
def isUnready (failure : Failure) : Bool :=
  match failure.cause with
  | .unhealthy .. => true
  | _ => false

variable {m : Type → Type} [Monad m]

/-- One attempt; its number, if the service is ready. -/
def check (service : Http.Service m) (api : Endpoints) (attempt : Nat) :
    m (Except Failure Nat) := do
  let reply ← service.send (probe api)
  if isReady api.healthExpect reply then return .ok attempt
  else return .error (Cause.unhealthy api.healthUrl (observation (probe api) reply))

/-- Let the service settle and wait until it is ready. -/
def verify (service : Http.Service m) (pause : Nat → m Unit) (api : Endpoints)
    (policy : RetryPolicy) : ExceptT Failure m Report := do
  if api.settleSecs ≠ 0 then
    ExceptT.lift (pause api.settleSecs)
  let attempts ← ExceptT.mk (retry policy (pause policy.delaySecs) isUnready (check service api))
  return ⟨api.healthUrl, attempts, api.settleSecs⟩

end Shipyard.Health
