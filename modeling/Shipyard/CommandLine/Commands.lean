import Shipyard.CommandLine.Arguments
import Shipyard.ReleaseFile.Load
import Shipyard.Remote.Ssh

/-!
# Commands

What each command does: it loads the release file, makes a context of it, and comes to a document
and an exit code, or to a failure.
-/

namespace Shipyard.CommandLine

open Conformance (Case)

/-- What a command comes to. -/
structure Achievement where
  document : Json
  exitCode : Nat
  deriving DecidableEq, Repr

/-- The identities that are asked for, in the order of the release file. -/
def selectIdentities (identities : List Identity) (names : List String) :
    Except Failure (List Identity) :=
  if names.isEmpty then .ok identities
  else
    let known := identities.map Identity.name
    match names.find? fun name => !known.contains name with
    | some name =>
      .error ((Cause.invalidArgument "identity" ("Unknown identity '" ++ name ++ "'")
        (some name)).failure.withHint
          ("Configured identities: " ++ String.intercalate ", " known))
    | none => .ok (identities.filter fun identity => names.contains identity.name)

variable {m : Type → Type} [Monad m]

/-- The context of the release file at a path. -/
def loadContext (host : Host m) (path : String) : ExceptT Failure m Context := do
  Context.ofReleaseFile host (← ReleaseFile.load host path)

/-- The cases of a suite file, or of the standard suite. -/
def loadCases (host : Host m) (api : Endpoints) (suite : Option String) :
    ExceptT Failure m (List Case) := do
  match suite with
  | some path => Conformance.Suite.load host path
  | none => return Conformance.Suite.standard api

/-- Set up what requests are sent with. -/
def openClient (host : Host m) : ExceptT Failure m Unit := do
  match ← host.openClient with
  | .ok () => return
  | .error problem => throw (Cause.unexpected ("HTTP client setup failed: " ++ problem)).failure

/-- What a release or a check works with. -/
def prepare (host : Host m) (service : Http.Service m) (context : Context)
    (selection : Selection) : ExceptT Failure m (Release.Setting m) := do
  let identities ← ExceptT.mk (pure (selectIdentities context.identities selection.identities))
  let cases ← loadCases host context.api selection.suite
  openClient host
  return { host, session := Remote.Ssh.session host context, service, context, cases, identities }

/-- Make a release. -/
def runRelease (host : Host m) (service : Http.Service m) (context : Context)
    (options : Release.Options) (selection : Selection) : ExceptT Failure m Achievement := do
  let setting ← prepare host service context selection
  let (result, _) ← ExceptT.lift (Release.make setting options)
  let report ← ExceptT.mk (pure result)
  return ⟨.object [("command", .text "release"), ("report", report.toJson)],
    report.verdict.exitCode⟩

/-- A context whose service needs no time to settle, unless it shall have it. -/
def withSettling (context : Context) (settles : Bool) : Context :=
  if settles then context else { context with api := { context.api with settleSecs := 0 } }

/-- Check the service. -/
def runTest (host : Host m) (service : Http.Service m) (context : Context) (selection : Selection)
    (settles : Bool) : ExceptT Failure m Achievement := do
  let setting ← prepare host service (withSettling context settles) selection
  let (result, records) ← ExceptT.lift (Release.verify setting)
  let report ← ExceptT.mk (pure result)
  return ⟨.object
    [ ("command", .text "test"), ("baseUrl", .text context.api.baseUrl),
      ("stages", .array (records.map Release.StageRecord.toJson)), ("report", report.toJson) ],
    report.verdict.exitCode⟩

/-- Show where an image would be built. -/
def runBuilder (host : Host m) (context : Context) : ExceptT Failure m Achievement := do
  let decision ← Builder.decide host context
  return ⟨.object
    [ ("command", .text "builder"), ("hostPlatform", .text Builder.hostPlatform),
      ("decision", decision.toJson) ], 0⟩

/-- The steps that a deployment would make. -/
def planDocument (context : Context) : Json :=
  .object
    [ ("command", .text "plan"), ("target", .text context.target.address),
      ("archiveName", .text archiveName), ("archivePath", .text context.target.archivePath),
      ("plan", (Deploy.Plan.ofContext context).toJson) ]

/-- Carry out a command. -/
def carryOut (host : Host m) (service : Http.Service m) (order : Order) :
    ExceptT Failure m Achievement := do
  let context ← loadContext host order.config
  match order.command with
  | .release options selection => runRelease host service context options selection
  | .test selection settles => runTest host service context selection settles
  | .builder => runBuilder host context
  | .plan => return ⟨planDocument context, 0⟩

end Shipyard.CommandLine
