import Shipyard.CommandLine.Commands
import Shipyard.Json.Printer

/-!
# The program

From the arguments to what is printed and the exit code. A command prints one document, an
envelope around its result or its failure. Any failure gives exit code 1, arguments that cannot be
read 2.
-/

namespace Shipyard.CommandLine

/-- What the program prints. -/
inductive Display where
  | help
  | version
  /-- Nothing, because the arguments could not be read. -/
  | misuse
  | document (envelope : Json)
  deriving DecidableEq, Repr

/-- What comes of the program. -/
structure Outcome where
  display : Display
  exitCode : Nat
  deriving DecidableEq, Repr

/-- The name and version of the program. -/
def versionText : String := "flowship 0.4.2"

/-- What is told when the arguments could not be read. -/
def usageText : String :=
  "Usage: flowship [OPTIONS] <COMMAND>\n\nFor more information, try '--help'."

/-- The help that is given for all commands. -/
def helpText : String :=
  String.intercalate "\n"
    [ "Build, ship and verify a containerized service release", "",
      "Usage: flowship [OPTIONS] <COMMAND>", "",
      "Commands:",
      "  release  Build, transfer, deploy and verify a release",
      "  test     Run the health gate and conformance suite against the live service",
      "  builder  Show the build backend a release would use",
      "  plan     Show the remote deploy steps",
      "  help     Print this message or the help of the given subcommand(s)", "",
      "Options:",
      "      --config <FILE>  Release configuration file [default: " ++
        ReleaseFile.defaultPath ++ "]",
      "  -h, --help           Print help",
      "  -V, --version        Print version" ]

/-- The text of a display. -/
def Display.text : Display → String
  | .help => helpText ++ "\n"
  | .version => versionText ++ "\n"
  | .misuse => ""
  | .document envelope => envelope.pretty ++ "\n"

/-- The envelope around a result. -/
def successEnvelope (document : Json) : Json :=
  .object [("success", .bool true), ("data", document)]

/-- The envelope around a failure. -/
def failureEnvelope (failure : Failure) : Json :=
  .object
    [ ("success", .bool false),
      ("error", .object (("code", .text failure.code) :: failure.members)) ]

/-- What comes of a command. -/
def outcomeOf : Except Failure Achievement → Outcome
  | .ok achievement => ⟨.document (successEnvelope achievement.document), achievement.exitCode⟩
  | .error failure => ⟨.document (failureEnvelope failure), 1⟩

/-- What comes of arguments that ask for no command. -/
def Stop.outcome : Stop → Outcome
  | .help => ⟨.help, 0⟩
  | .version => ⟨.version, 0⟩
  | .misuse => ⟨.misuse, 2⟩

/-- What the system is told of an exit code. This is one byte, so a code that is too great for it
becomes the greatest one, and a negative one becomes 0. -/
def exitStatus (code : Int) : UInt8 :=
  if code ≤ 0 then 0 else if 255 ≤ code then 255 else UInt8.ofNat code.toNat

/-- Run the program. -/
def run {m : Type → Type} [Monad m] (host : Host m) (service : Http.Service m)
    (arguments : List String) : m Outcome := do
  match read arguments with
  | .error stop => return stop.outcome
  | .ok order => return outcomeOf (← (carryOut host service order).run)

end Shipyard.CommandLine
