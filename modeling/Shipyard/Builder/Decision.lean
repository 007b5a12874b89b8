import Shipyard.Builder.Registration

/-!
# Where an image is built

A registered agent that answers builds the image. Otherwise it is built on this machine, under
emulation if the machine has another platform than the target.
-/

namespace Shipyard.Builder

/-- How an image is built. -/
inductive Backend where
  | localNative
  | localEmulated
  | remoteAgent
  deriving DecidableEq, Repr

namespace Backend

/-- The name in messages. -/
def label : Backend → String
  | .localNative => "local-native"
  | .localEmulated => "local-emulated"
  | .remoteAgent => "remote-agent"

/-- The name in documents. -/
def name : Backend → String
  | .localNative => "local_native"
  | .localEmulated => "local_emulated"
  | .remoteAgent => "remote_agent"

end Backend

/-- What is known when the choice is made. -/
structure Situation where
  registration : Option Registration
  agentAlive : Bool
  hostPlatform : String
  targetPlatform : String
  deriving DecidableEq, Repr

/-- How an image will be built. -/
structure Decision where
  backend : Backend
  platform : String
  builderName : Option String := none
  warning : Option String := none
  deriving DecidableEq, Repr

namespace Decision

/-- A decision as a document. -/
def toJson (d : Decision) : Json :=
  .object
    ([("backend", .text d.backend.name), ("platform", .text d.platform)] ++
      Json.optional "builderName" (d.builderName.map .text) ++
      Json.optional "warning" (d.warning.map .text))

end Decision

/-- The warning that goes with a build under emulation. -/
def emulationWarning (s : Situation) : String :=
  "Host platform " ++ s.hostPlatform ++ " differs from target " ++ s.targetPlatform ++
    "; building under emulation will be slow"

/-- The choice: a live agent, else emulation on a machine of another platform, else this machine. -/
def select (s : Situation) : Decision :=
  match s.registration, s.agentAlive with
  | some registration, true =>
    { backend := .remoteAgent, platform := s.targetPlatform, builderName := some registration.name }
  | _, _ =>
    if s.hostPlatform ≠ s.targetPlatform then
      { backend := .localEmulated, platform := s.targetPlatform
        warning := some (emulationWarning s) }
    else { backend := .localNative, platform := s.targetPlatform }

/-- The platform of a machine architecture. -/
def platformOf (architecture : String) : String :=
  if architecture = "x86_64" then "linux/amd64"
  else if architecture = "aarch64" then "linux/arm64"
  else if architecture = "arm" then "linux/arm/v7"
  else "linux/" ++ architecture

/-- The platform of the machine this tool is made for. -/
def hostPlatform : String := platformOf "x86_64"

variable {m : Type → Type} [Monad m]

/-- Whether an agent answers. -/
def isAlive (host : Host m) (dockerBin name : String) : m Bool := do
  let completion ← host.runCaptured
    { program := dockerBin, arguments := ["buildx", "inspect", "--bootstrap", name] }
  return completion.success

/-- The decision for a context on a machine of some platform. An agent is asked only if one is
registered. -/
def decideOn (platform : String) (host : Host m) (context : Context) :
    ExceptT Failure m Decision := do
  let registration ← Registration.read host context.builder.registrationFile
  let agentAlive ← match registration with
    | some r => ExceptT.lift (isAlive host context.dockerBin r.name)
    | none => pure false
  return select
    { registration, agentAlive, hostPlatform := platform
      targetPlatform := context.builder.targetPlatform }

/-- The decision for a context on the machine this tool is made for. -/
def decide (host : Host m) (context : Context) : ExceptT Failure m Decision :=
  decideOn hostPlatform host context

end Shipyard.Builder
