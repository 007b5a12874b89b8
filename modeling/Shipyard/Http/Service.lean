import Shipyard.Failure
import Shipyard.Json.Draft

/-!
# Requests to the service

A request, the response to it, and a `Service` that answers requests. Whatever is sent back is a
response, also one that reports an error; there is no response only if none arrived.
-/

namespace Shipyard.Http

/-- The method of a request. -/
inductive Method where
  | get
  | post
  | put
  | delete
  deriving DecidableEq, Repr

/-- The name of a method. -/
def Method.name : Method → String
  | .get => "GET"
  | .post => "POST"
  | .put => "PUT"
  | .delete => "DELETE"

/-- The methods by name. -/
def Method.variants : List (String × Method) :=
  [("GET", .get), ("POST", .post), ("PUT", .put), ("DELETE", .delete)]

/-- A request. -/
structure Request where
  method : Method
  url : String
  /-- The token that goes with the request. -/
  bearer : Option String := none
  body : Option Json := none
  deriving DecidableEq, Repr

/-- A response. -/
structure Response where
  status : Nat
  body : String
  deriving DecidableEq, Repr

/-- The body of a response as JSON, if it is JSON. -/
def Response.json? (r : Response) : Option Json :=
  Json.parse? r.body

/-- What came of a request: a response, or the reason why there is none. -/
abbrev Reply : Type := Except String Response

/-- A request with what came of it. -/
structure Exchange where
  request : Request
  reply : Reply

/-- The status of the response, if there is a response. -/
def Exchange.status? (e : Exchange) : Option Nat :=
  match e.reply with
  | .ok response => some response.status
  | .error _ => none

/-- Something that answers requests. -/
structure Service (m : Type → Type) where
  send : Request → m Reply

/-- Why a request got no response. -/
def Request.cause (r : Request) (problem : String) : Cause :=
  .requestFailed r.method.name r.url problem

variable {m : Type → Type} [Monad m]

/-- Make a request. -/
def Service.exchange (service : Service m) (request : Request) : m Exchange := do
  return ⟨request, ← service.send request⟩

/-- Make a request that has to get a response. -/
def Service.request (service : Service m) (request : Request) : ExceptT Failure m Response :=
  ExceptT.mk do
    match ← service.send request with
    | .ok response => return .ok response
    | .error problem => return .error (request.cause problem)

end Shipyard.Http
