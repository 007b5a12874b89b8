import Shipyard.Conformance.Expectation
import Shipyard.JsonPath.Evaluation
import Shipyard.JsonPath.Parser
import Shipyard.Template

/-!
# Test cases

A case is a request, what is expected of the response, and what is taken from the response for
later cases. The path of the request is a template: its placeholders are filled with what earlier
cases have found.
-/

namespace Shipyard.Conformance

/-- Who a case is run for. -/
inductive Access where
  /-- Anyone; the request carries no token. -/
  | everyone
  /-- Each identity; the request carries its token. -/
  | bearer
  deriving DecidableEq, Repr

/-- The name in documents. -/
def Access.name : Access → String
  | .everyone => "none"
  | .bearer => "bearer"

/-- A test case. -/
structure Case where
  name : String
  method : Http.Method := .get
  /-- The path below the base URL, a template. -/
  path : String
  expect : Expectation
  access : Access := .everyone
  body : Option Json := none
  /-- What is taken from the response: a JSON path for each name. -/
  extract : Dictionary String := []
  deriving DecidableEq, Repr

/-- A value that can stand in a path: a text that is not empty, or a number. -/
def scalarText? : Json → Option String
  | .text s => if s.isEmpty then none else some s
  | .number n => some n.toText
  | _ => none

/-- What a JSON path finds in a document: the first value, if that can stand in a path. -/
def found? (document : Json) (path : String) : Option String := do
  scalarText? (← (← JsonPath.Query.parse? path).first? document)

namespace Case

/-- The names that are needed to fill the path. -/
def requires (case : Case) : List String :=
  Template.placeholders case.path

/-- What the case takes from the body of a response. -/
def extracted (case : Case) (body : String) : Dictionary String :=
  match Json.parse? body with
  | some document =>
    case.extract.filterMap fun entry => (found? document entry.2).map fun value => (entry.1, value)
  | none => []

/-- The fields of a case in documents that have at most `room` arrays and objects inside one another
below a case. -/
def slots (room : Nat) : List (Json.Decode.Slot Case) :=
  [ .must "name" Json.Decode.text fun v c => { c with name := v },
    .may "method" (Json.Decode.choice Http.Method.variants) fun v c => { c with method := v },
    .must "path" Json.Decode.text fun v c => { c with path := v },
    .must "expect" (Expectation.decode room) fun v c => { c with expect := v },
    .may "auth" (Json.Decode.choice [("none", Access.everyone), ("bearer", Access.bearer)])
      fun v c => { c with access := v },
    .may "body" (Json.Decode.optional (Json.Decode.any room)) fun v c => { c with body := v },
    .may "extract" Json.Decode.textMap fun v c => { c with extract := v } ]

/-- A case in a document. -/
def decode (room : Nat) : Json.Decoder Case :=
  Json.Decode.record "struct TestCase" (slots room)
    { name := "", path := "", expect := .status 0 }

/-- A map from texts to texts as a document. -/
def tableToJson (table : Dictionary String) : Json :=
  .object (table.map fun entry => (entry.1, .text entry.2))

/-- A case as a document. -/
def toJson (case : Case) : Json :=
  .object
    ([ ("name", .text case.name), ("method", .text case.method.name), ("path", .text case.path),
       ("expect", case.expect.toJson), ("auth", .text case.access.name) ] ++
      Json.optional "body" case.body ++
      if case.extract.isEmpty then [] else [("extract", tableToJson case.extract)])

end Case

end Shipyard.Conformance
