import Shipyard.Decimal.OnePlace
import Shipyard.Json.Fault

/-!
# Failures

Everything that can go wrong, as causes. The code, the message and the details that are shown for
a cause are in this module and nowhere else. A failure also carries hints for the operator and the
tags that the release pipeline adds to it on its way out.
-/

namespace Shipyard

/-- Why something failed. -/
inductive Cause where
  | invalidArgument (field problem : String) (id : Option String)
  | missingKey (key : String) (path : Option String)
  | invalidJson (path fault : String)
  | invalidValue (key : String) (value : Option String) (problem : String)
  | identityFileNotFound (path : String)
  /-- The budget of connection attempts is spent. -/
  | unreachable (host : String) (attempts : Nat) (exitCode : Int) (stderr : String)
  | commandFailed (command : String) (exitCode : Int) (stdout stderr host : String)
  | buildFailed (backend : String) (exitCode : Int) (seconds : Decimal.Binary64)
  | exportFailed (message : String) (exitCode : Int)
  | transferFailed (localPath remotePath : String) (exitCode : Int) (stderr : String)
  | stepFailed (step : String) (exitCode : Int) (stderr : String)
  | unhealthy (url observed : String)
  /-- A request that got no response. -/
  | requestFailed (method url error : String)
  | io (error : String) (context : Option String)
  | json (error : String) (context : Option String)
  | unexpected (error : String)
  deriving DecidableEq, Repr

namespace Cause

/-- The code that names the kind of a cause. -/
def code : Cause → String
  | .missingKey .. => "config.missing_key"
  | .invalidJson .. => "config.invalid_json"
  | .invalidValue .. => "config.invalid_value"
  | .invalidArgument .. => "validation.invalid_argument"
  | .identityFileNotFound .. => "ssh.identity_file_not_found"
  | .unreachable .. => "ssh.connect_failed"
  | .commandFailed .. => "remote.command_failed"
  | .buildFailed .. => "build.failed"
  | .exportFailed .. => "artifact.export_failed"
  | .transferFailed .. => "transfer.failed"
  | .stepFailed .. => "deploy.step_failed"
  | .unhealthy .. => "health.check_failed"
  | .requestFailed .. => "http.request_failed"
  | .io .. => "internal.io_error"
  | .json .. => "internal.json_error"
  | .unexpected .. => "internal.unexpected"

/-- An integer in a message. -/
def integerText (i : Int) : String :=
  (Json.Number.integer i).toText

/-- The message for the operator. -/
def message : Cause → String
  | .invalidArgument .. => "Invalid argument"
  | .missingKey key _ => "Missing required configuration key '" ++ key ++ "'"
  | .invalidJson .. => "Invalid JSON in configuration"
  | .invalidValue .. => "Invalid configuration value"
  | .identityFileNotFound _ => "SSH identity file not found"
  | .unreachable host attempts _ _ =>
    "Could not reach " ++ host ++ " after " ++ integerText attempts ++ " attempt(s)"
  | .commandFailed _ exitCode _ _ _ =>
    "Remote command failed with exit code " ++ integerText exitCode
  | .buildFailed _ exitCode seconds =>
    "Image build failed with exit code " ++ integerText exitCode ++ " after " ++
      seconds.toOnePlace ++ "s"
  | .exportFailed message _ => message
  | .transferFailed .. => "Artifact transfer failed"
  | .stepFailed step exitCode _ =>
    "Deploy step '" ++ step ++ "' failed with exit code " ++ integerText exitCode
  | .unhealthy .. => "Service did not become healthy"
  | .requestFailed method url error => method ++ " " ++ url ++ " failed: " ++ error
  | .io .. => "IO error"
  | .json .. => "JSON error"
  | .unexpected _ => "Unexpected error"

/-- The details that go with the message. -/
def details : Cause → List (String × Json)
  | .invalidArgument field problem id =>
    [("field", .text field), ("problem", .text problem)] ++ Json.optional "id" (id.map .text)
  | .missingKey key path => ("key", .text key) :: Json.optional "path" (path.map .text)
  | .invalidJson path fault => [("path", .text path), ("error", .text fault)]
  | .invalidValue key value problem =>
    ("key", .text key) :: Json.optional "value" (value.map .text) ++ [("problem", .text problem)]
  | .identityFileNotFound path => [("identityFile", .text path)]
  | .unreachable host attempts exitCode stderr =>
    [("host", .text host), ("attempts", .ofNat attempts), ("exitCode", .ofInt exitCode),
     ("stderr", .text stderr)]
  | .commandFailed command exitCode stdout stderr host =>
    [("command", .text command), ("exitCode", .ofInt exitCode), ("stdout", .text stdout),
     ("stderr", .text stderr), ("host", .text host)]
  | .buildFailed backend exitCode seconds =>
    [("backend", .text backend), ("exitCode", .ofInt exitCode),
     ("durationSecs", .number (.decimal seconds))]
  | .exportFailed _ exitCode => [("exitCode", .ofInt exitCode)]
  | .transferFailed localPath remotePath exitCode stderr =>
    [("localPath", .text localPath), ("remotePath", .text remotePath),
     ("exitCode", .ofInt exitCode), ("stderr", .text stderr)]
  | .stepFailed step exitCode stderr =>
    [("step", .text step), ("exitCode", .ofInt exitCode), ("stderr", .text stderr)]
  | .unhealthy url observed => [("url", .text url), ("observed", .text observed)]
  | .requestFailed method url error =>
    [("method", .text method), ("url", .text url), ("error", .text error)]
  | .io error context => ("error", .text error) :: Json.optional "context" (context.map .text)
  | .json error context => [("error", .text error), ("context", .ofText? context)]
  | .unexpected error => [("error", .text error)]

/-- Whether it is worth trying again, where that is known. -/
def retryable? : Cause → Option Bool
  | .unreachable .. => some true
  | .commandFailed .. => some false
  | _ => none

/-- Whether the remote host could not be reached. -/
def isConnectionFailure : Cause → Bool
  | .unreachable .. => true
  | _ => false

end Cause

/-- A failure on its way to the operator. -/
structure Failure where
  cause : Cause
  hints : List String := []
  /-- Entries that were added to the details. -/
  tags : List (String × String) := []
  deriving DecidableEq, Repr

/-- The failure of a cause, without hints and tags. -/
def Cause.failure (cause : Cause) : Failure := { cause }

namespace Failure

instance : Coe Cause Failure := ⟨Cause.failure⟩

/-- The code that names the kind of a failure. -/
def code (f : Failure) : String := f.cause.code

/-- The message for the operator. -/
def message (f : Failure) : String := f.cause.message

/-- The details of the cause, and the tags. -/
def details (f : Failure) : List (String × Json) :=
  f.cause.details ++ f.tags.map fun tag => (tag.1, .text tag.2)

/-- Whether it is worth trying again, where that is known. -/
def retryable? (f : Failure) : Option Bool := f.cause.retryable?

/-- Whether the remote host could not be reached. -/
def isConnectionFailure (f : Failure) : Bool := f.cause.isConnectionFailure

/-- A failure with one more hint. -/
def withHint (f : Failure) (hint : String) : Failure :=
  { f with hints := f.hints ++ [hint] }

/-- A failure with one more entry in its details. -/
def tagged (f : Failure) (name value : String) : Failure :=
  { f with tags := f.tags ++ [(name, value)] }

/-- The hints as a document. -/
def hintsToJson (f : Failure) : Json :=
  .array (f.hints.map fun hint => .object [("message", .text hint)])

/-- The members of a failure: its message and details, and hints and retryability if there are. -/
def members (f : Failure) : List (String × Json) :=
  [("message", .text f.message), ("details", .object f.details)] ++
    (if f.hints.isEmpty then [] else [("hints", f.hintsToJson)]) ++
    Json.optional "retryable" (f.retryable?.map .bool)

end Failure

end Shipyard
