import Shipyard.Builder.Decision
import Shipyard.Redaction

/-!
# Building an image

The command that builds an image, and the line that may be shown of it: there the values of build
arguments are redacted.
-/

namespace Shipyard.Builder

/-- The nanoseconds of a second. -/
def nanosPerSecond : Nat := 1000000000

/-- A length of time. -/
structure Duration where
  seconds : Nat
  nanoseconds : Nat
  deriving DecidableEq, Repr

namespace Duration

/-- Seconds and nanoseconds, a whole second of nanoseconds carried over. -/
def ofParts (seconds nanoseconds : Nat) : Duration :=
  ⟨seconds + nanoseconds / nanosPerSecond, nanoseconds % nanosPerSecond⟩

/-- The length in seconds as a binary64 number: both parts are rounded, then their sum. -/
def inSeconds (d : Duration) : Decimal.Binary64 :=
  let fraction :=
    (Decimal.Binary64.ofNat d.nanoseconds).div (Decimal.Binary64.ofNat nanosPerSecond)
  (Decimal.Binary64.ofNat d.seconds).addMagnitudes (fraction.getD (Decimal.Binary64.zero false))

/-- Two digits of a number below a hundred. -/
def twoDigits (n : Nat) : String :=
  String.ofList [Nat.digitChar (n / 10), Nat.digitChar (n % 10)]

/-- The text of a length of time: minutes and seconds from one minute on, tenths of a second below.
-/
def toText (d : Duration) : String :=
  if 60 ≤ d.seconds then
    Cause.integerText (d.seconds / 60 : Nat) ++ "m" ++ twoDigits (d.seconds % 60) ++ "s"
  else d.inSeconds.toOnePlace ++ "s"

end Duration

/-- What is built, and how. -/
structure ImageBuild where
  backend : Backend
  platform : String
  builderName : Option String
  buildArguments : Dictionary String
  image : String
  dockerfile : String
  directory : String
  dockerBin : String
  deriving DecidableEq, Repr

namespace ImageBuild

/-- The build of a context's image with its secret. -/
def ofContext (context : Context) (decision : Decision) (secret : String) : ImageBuild where
  backend := decision.backend
  platform := decision.platform
  builderName := decision.builderName
  buildArguments := [(context.secretArgument, secret)]
  image := context.image
  dockerfile := context.dockerfile
  directory := context.projectDir
  dockerBin := context.dockerBin

/-- The arguments that choose the backend. -/
def backendArguments (b : ImageBuild) : List String :=
  match b.backend with
  | .localNative => ["build"]
  | .localEmulated => ["buildx", "build", "--platform", b.platform, "--load"]
  | .remoteAgent =>
    ["buildx", "build"] ++ (b.builderName.map fun name => ["--builder", name]).getD [] ++
      ["--platform", b.platform, "--load"]

/-- The flag in front of a build argument. -/
def buildArgumentFlag : String := "--build-arg"

/-- The flags that carry the build arguments. -/
def valueArguments (b : ImageBuild) : List String :=
  b.buildArguments.flatMap fun entry => [buildArgumentFlag, entry.1 ++ "=" ++ entry.2]

/-- The arguments of the build command. -/
def arguments (b : ImageBuild) : List String :=
  b.backendArguments ++ ["-t", b.image, "-f", b.dockerfile] ++ b.valueArguments ++ ["."]

/-- Arguments as they may be shown: what follows the flag of a build argument is redacted. -/
def shownArguments : List String → List String
  | [] => []
  | [argument] => [argument]
  | flag :: argument :: rest =>
    if flag = buildArgumentFlag then flag :: redactAssignment argument :: shownArguments rest
    else flag :: shownArguments (argument :: rest)

/-- The build command as it may be shown. -/
def display (b : ImageBuild) : String :=
  String.intercalate " " (b.dockerBin :: shownArguments b.arguments)

end ImageBuild

/-- A finished build. -/
structure BuildReport where
  backend : Backend
  image : String
  duration : Decimal.Binary64
  deriving DecidableEq, Repr

/-- A finished build as a document. -/
def BuildReport.toJson (r : BuildReport) : Json :=
  .object
    [ ("backend", .text r.backend.name), ("image", .text r.image),
      ("durationSecs", .number (.decimal r.duration)) ]

/-- The time between two readings of a clock in nanoseconds. -/
def elapsed (start finish : Nat) : Decimal.Binary64 :=
  (Duration.ofParts 0 (finish - start)).inSeconds

variable {m : Type → Type} [Monad m]

/-- What a build that has ended means. -/
def ImageBuild.outcome (b : ImageBuild) (completion : Completion) (duration : Decimal.Binary64) :
    Except Failure BuildReport :=
  if completion.success then .ok ⟨b.backend, b.image, duration⟩
  else
    .error ((Cause.buildFailed b.backend.label completion.exitCode duration).failure.withHint
      ("Re-run '" ++ b.display ++ "' in " ++ b.directory ++ " to see the full build log"))

/-- Build an image. -/
def ImageBuild.run (host : Host m) (b : ImageBuild) : ExceptT Failure m BuildReport := do
  let start ← host.nanoseconds
  let completion ← host.runAttached
    { program := b.dockerBin, arguments := b.arguments, directory := some b.directory }
  let finish ← host.nanoseconds
  ExceptT.mk (pure (b.outcome completion (elapsed start finish)))

end Shipyard.Builder
