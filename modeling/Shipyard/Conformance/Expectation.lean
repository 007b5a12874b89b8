import Shipyard.Http.Service
import Shipyard.Json.Decode
import Shipyard.Text.Blank

/-!
# What is expected of a response

The four ways in which a case says what its response has to look like, and what is wrong with a
response that does not.
-/

namespace Shipyard.Conformance

/-- What a response has to look like. -/
inductive Expectation where
  | status (status : Nat)
  /-- Any status but this one. -/
  | notStatus (status : Nat)
  /-- A status of success and an object with this key. -/
  | bodyKey (key : String)
  /-- This text, apart from blanks around it. -/
  | bodyLiteral (body : String)
  deriving DecidableEq, Repr

/-- What is wrong with a response. -/
inductive Mismatch where
  | otherStatus (expected status : Nat)
  | refusedStatus (status : Nat)
  | unsuccessful (status : Nat)
  | keyAbsent (status : Nat) (key : String)
  | notJson (status : Nat)
  | otherBody (status : Nat) (expected : String)
  deriving DecidableEq, Repr

/-- A status in a message. -/
def statusText (status : Nat) : String :=
  "HTTP " ++ Cause.integerText status

/-- The wording of a mismatch. -/
def Mismatch.message : Mismatch → String
  | .otherStatus expected status =>
    "expected " ++ statusText expected ++ ", got " ++ Cause.integerText status
  | .refusedStatus status => "got " ++ statusText status
  | .unsuccessful status => statusText status
  | .keyAbsent status key => statusText status ++ " without '" ++ key ++ "' key"
  | .notJson status => statusText status ++ ": body is not JSON"
  | .otherBody status expected => statusText status ++ ": expected body '" ++ expected ++ "'"

namespace Expectation

/-- Whether a status is one of success. -/
def isSuccess (status : Nat) : Bool :=
  200 ≤ status && status < 300

/-- What is wrong with a response, if anything is. -/
def mismatch? (expectation : Expectation) (response : Http.Response) : Option Mismatch :=
  match expectation with
  | .status expected =>
    if response.status = expected then none else some (.otherStatus expected response.status)
  | .notStatus refused => if response.status = refused then some (.refusedStatus refused) else none
  | .bodyKey key =>
    if isSuccess response.status then
      match response.json? with
      | some document =>
        if (document.member? key).isSome then none else some (.keyAbsent response.status key)
      | none => some (.notJson response.status)
    else some (.unsuccessful response.status)
  | .bodyLiteral body =>
    if Text.trim response.body = body then none else some (.otherBody response.status body)

/-- The alternatives in documents. -/
def alternatives : List (Json.Decode.Alternative Expectation) :=
  [ { tag := "status", type := "struct variant Expectation::Status"
      slots := [.must "status" Json.Decode.natural16 fun v _ => .status v], start := .status 0 },
    { tag := "not_status", type := "struct variant Expectation::NotStatus"
      slots := [.must "status" Json.Decode.natural16 fun v _ => .notStatus v]
      start := .notStatus 0 },
    { tag := "body_key", type := "struct variant Expectation::BodyKey"
      slots := [.must "key" Json.Decode.text fun v _ => .bodyKey v], start := .bodyKey "" },
    { tag := "body_literal", type := "struct variant Expectation::BodyLiteral"
      slots := [.must "body" Json.Decode.text fun v _ => .bodyLiteral v]
      start := .bodyLiteral "" } ]

/-- An expectation in a document, with at most `room` arrays and objects inside one another. -/
def decode (room : Nat) : Json.Decoder Expectation :=
  Json.Decode.tagged "type" "internally tagged enum Expectation" alternatives room

/-- An expectation as a document. -/
def toJson : Expectation → Json
  | .status expected => .object [("type", .text "status"), ("status", .ofNat expected)]
  | .notStatus refused => .object [("type", .text "not_status"), ("status", .ofNat refused)]
  | .bodyKey key => .object [("type", .text "body_key"), ("key", .text key)]
  | .bodyLiteral body => .object [("type", .text "body_literal"), ("body", .text body)]

/-- The expectation that a text is. -/
def parse (text origin : String) : Except Failure Expectation :=
  match Json.decodeText (decode Json.depthLimit) text with
  | .ok expectation => .ok expectation
  | .error fault => .error (Cause.invalidJson origin fault.message)

end Expectation

end Shipyard.Conformance
