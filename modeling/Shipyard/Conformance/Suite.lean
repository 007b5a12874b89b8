import Shipyard.Conformance.Case
import Shipyard.Context

/-!
# Suites

A suite is a list of cases. A suite file is an array of cases whose names are not blank and all
different and whose JSON paths can be read. Without a file the standard suite is used.
-/

namespace Shipyard.Conformance.Suite

/-- The failure of a case that a suite file must not have. -/
def invalid (key : String) (value : Option String) (problem : String) : Failure :=
  (Cause.invalidValue key value problem).failure

/-- The failure of a JSON path that cannot be read. -/
def invalidPath (case : Case) (entry : String × String) : Failure :=
  invalid (case.name ++ ".extract." ++ entry.1) (some entry.2) "not a JSON path"

/-- The first fault of a case, where `seen` are the names of the cases in front of it. -/
def fault? (seen : List String) (case : Case) : Option Failure :=
  if Text.isBlankText case.name then some (invalid "suite.name" none "test case name is empty")
  else if seen.contains case.name then
    some (invalid "suite.name" (some case.name) "duplicate test case name")
  else
    (case.extract.find? fun entry => (JsonPath.Query.parse? entry.2).isNone).map (invalidPath case)

/-- Refuse the first case with a fault. -/
def validate (seen : List String) : List Case → Except Failure Unit
  | [] => .ok ()
  | case :: cases =>
    match fault? seen case with
    | some failure => .error failure
    | none => validate (case.name :: seen) cases

/-- The suite in a document. A case stands inside two brackets. -/
def decode : Json.Decoder (List Case) :=
  Json.Decode.list (Case.decode (Json.depthLimit - 2))

/-- The suite that a text is; `origin` tells in a failure where the text came from. -/
def parse (text origin : String) : Except Failure (List Case) := do
  let cases ← match Json.decodeText decode text with
    | .ok cases => .ok cases
    | .error fault => .error (Cause.invalidJson origin fault.message).failure
  validate [] cases
  return cases

/-- A suite as a document. -/
def toJson (cases : List Case) : Json :=
  .array (cases.map Case.toJson)

/-- The suite in a file. -/
def load {m : Type → Type} [Monad m] (host : Host m) (path : String) :
    ExceptT Failure m (List Case) := do
  match ← host.readText path with
  | .ok text => ExceptT.mk (pure (parse text path))
  | .error fault => throw (Cause.io fault.message (some ("read " ++ path))).failure

/-! ### The standard suite -/

/-- The name under which the identifier of the first workspace is kept. -/
def workspaceName : String := "workspace_id"

/-- The placeholder for the identifier of the first workspace. -/
def workspaceHole : String :=
  String.ofList (['{', '{'] ++ workspaceName.toList ++ ['}', '}'])

/-- A path below the first workspace. -/
def inWorkspace (path : String) : String :=
  "/api/workspace/" ++ workspaceHole ++ path

/-- A case that needs no token. -/
def unauthorized (name path : String) (expect : Expectation) : Case :=
  { name, path, expect }

/-- A case that needs a token and gets an object with data. -/
def authorized (name path : String) : Case :=
  { name, path, expect := .bodyKey "data", access := .bearer }

/-- The suite that is run without a file. Its only case whose method is not GET has an empty body
and fails only if the route does not know the method. -/
def standard (api : Endpoints) : List Case :=
  [ unauthorized "health" api.healthPath (.bodyLiteral api.healthExpect),
    unauthorized "server_info" "/api/server" (.bodyKey "data"),
    unauthorized "subscription_plans" "/api/subscription/plans" (.bodyKey "data"),
    authorized "user_profile" "/api/user/profile",
    { authorized "workspace_list" "/api/workspace" with
      extract := [(workspaceName, "$.data[0].workspace_id")] },
    authorized "user_workspace_info" "/api/user/workspace",
    authorized "workspace_members" (inWorkspace "/member"),
    authorized "workspace_settings" (inWorkspace "/settings"),
    authorized "workspace_usage" (inWorkspace "/usage"),
    authorized "billing_status" ("/billing/api/v1/subscription-status/" ++ workspaceHole),
    authorized "current_subscription" "/api/subscription/current",
    authorized "invites" "/api/workspace/invite",
    authorized "file_storage_usage" ("/api/file_storage/" ++ workspaceHole ++ "/usage"),
    authorized "shared_views" ("/api/sharing/workspace/" ++ workspaceHole ++ "/view"),
    authorized "folder" (inWorkspace "/folder"),
    authorized "recent" (inWorkspace "/recent"),
    authorized "favorites" (inWorkspace "/favorite"),
    authorized "trash" (inWorkspace "/trash"),
    authorized "databases" (inWorkspace "/database"),
    authorized "quick_notes" (inWorkspace "/quick-note"),
    { name := "invite_route_exists", method := .post, path := inWorkspace "/invite"
      expect := .notStatus 405, access := .bearer, body := some (.object []) } ]

end Shipyard.Conformance.Suite
