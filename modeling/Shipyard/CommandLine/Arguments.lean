import Shipyard.Release.Pipeline
import Shipyard.ReleaseFile.Basic

/-!
# Arguments

How the arguments of the program are read. Options may stand in front of the subcommand and behind
it. An option that takes a value takes the next argument, or what stands behind its equals sign. A
value that is an argument of its own is only looked at when the next option comes or the arguments
end, so a request for help behind a subcommand goes before a fault in front of it.
-/

namespace Shipyard.CommandLine

/-- Which cases are run, and for whom. -/
structure Selection where
  /-- The names of the identities; all of them if there are none. -/
  identities : List String := []
  /-- The suite file; the standard suite if there is none. -/
  suite : Option String := none
  deriving DecidableEq, Repr

/-- What the program is asked to do. -/
inductive Command where
  | release (options : Release.Options) (selection : Selection)
  | test (selection : Selection) (settles : Bool)
  | builder
  | plan
  deriving DecidableEq, Repr

/-- Why the arguments ask for no command. -/
inductive Stop where
  | help
  | version
  | misuse
  deriving DecidableEq, Repr

/-- A command and the path of its release file. -/
structure Order where
  config : String
  command : Command
  deriving DecidableEq, Repr

/-- An option that takes a value. -/
inductive ValueOption where
  | config
  | identity
  | suite
  deriving DecidableEq, Repr

/-- An option that takes no value. -/
inductive Flag where
  | skipBuild
  | skipDeploy
  | skipTests
  | noSettle
  deriving DecidableEq, Repr

/-- The name of an option. -/
def ValueOption.name : ValueOption → String
  | .config => "config"
  | .identity => "identity"
  | .suite => "suite"

/-- The name of a flag. -/
def Flag.name : Flag → String
  | .skipBuild => "skip-build"
  | .skipDeploy => "skip-deploy"
  | .skipTests => "skip-tests"
  | .noSettle => "no-settle"

/-- The options that are known at a place. -/
structure Grammar where
  values : List ValueOption
  flags : List Flag := []
  /-- Whether the version can be asked for. -/
  version : Bool := false

/-- The options in front of a subcommand. -/
def Grammar.top : Grammar :=
  { values := [.config], version := true }

/-- The subcommands. -/
inductive Verb where
  | release
  | test
  | builder
  | plan
  deriving DecidableEq, Repr

/-- The subcommand of a name. -/
def verb? (name : String) : Option Verb :=
  if name = "release" then some .release
  else if name = "test" then some .test
  else if name = "builder" then some .builder
  else if name = "plan" then some .plan
  else none

/-- The options behind a subcommand. -/
def Verb.grammar : Verb → Grammar
  | .release =>
    { values := [.config, .identity, .suite], flags := [.skipBuild, .skipDeploy, .skipTests] }
  | .test => { values := [.config, .identity, .suite], flags := [.noSettle] }
  | .builder => { values := [.config] }
  | .plan => { values := [.config] }

/-- The options that were given at a place. -/
structure Given where
  values : List (ValueOption × String) := []
  flags : List Flag := []
  /-- A value that has not been looked at yet. -/
  pending : Option (ValueOption × String) := none
  deriving DecidableEq, Repr

namespace Given

/-- The values of an option in order. -/
def valuesOf (g : Given) (option : ValueOption) : List String :=
  (g.values.filter (·.1 = option)).map (·.2)

/-- Take a value. Only identities may be empty or given more than once. -/
def take (g : Given) (option : ValueOption) (value : String) : Except Stop Given :=
  if option ≠ .identity ∧ (value.isEmpty ∨ g.valuesOf option ≠ []) then .error .misuse
  else .ok { g with values := g.values ++ [(option, value)], pending := none }

/-- Look at the value that has not been looked at yet. -/
def settle (g : Given) : Except Stop Given :=
  match g.pending with
  | some (option, value) => g.take option value
  | none => .ok g

/-- Take a flag, which may be given once. -/
def takeFlag (g : Given) (flag : Flag) : Except Stop Given :=
  if g.flags.contains flag then .error .misuse else .ok { g with flags := g.flags ++ [flag] }

end Given

/-- What an argument is taken for. -/
inductive Piece where
  /-- `--`, behind which no options stand. -/
  | divider
  | long (name : String) (value : Option String)
  | short (letter : Char)
  | word
  deriving DecidableEq, Repr

/-- What an argument is taken for. A single hyphen is a word. -/
def pieceOf (argument : String) : Piece :=
  match argument.toList with
  | ['-', '-'] => .divider
  | '-' :: '-' :: cs =>
    match splitAtFirst '=' cs with
    | some (name, value) => .long (String.ofList name) (some (String.ofList value))
    | none => .long (String.ofList cs) none
  | '-' :: letter :: _ => .short letter
  | _ => .word

/-- Whether an argument cannot be the value of the option in front of it. -/
def isOptionLike (argument : String) : Bool :=
  pieceOf argument != .word

/-- Ask for something other than a command. -/
def stopFor {α : Type} (g : Given) (stop : Stop) : Except Stop α :=
  match g.settle with
  | .ok _ => .error stop
  | .error e => .error e

/-- Read options up to the first word; what was given, and the word with what follows it. -/
def readOptions (grammar : Grammar) : Given → List String → Except Stop (Given × List String)
  | given, [] => .ok (given, [])
  | given, argument :: rest =>
    match pieceOf argument with
    | .word => .ok (given, argument :: rest)
    | .divider => if rest.isEmpty then .ok (given, []) else .error .misuse
    | .short letter =>
      if letter = 'h' then stopFor given .help
      else if letter = 'V' ∧ grammar.version then stopFor given .version
      else .error .misuse
    | .long name value =>
      match grammar.flags.find? (·.name == name), grammar.values.find? (·.name == name) with
      | some flag, _ =>
        if value.isSome then .error .misuse
        else do
          let given ← (← given.settle).takeFlag flag
          readOptions grammar given rest
      | none, some option => do
        let given ← given.settle
        match value, rest with
        | some value, rest =>
          let given ← given.take option value
          readOptions grammar given rest
        | none, [] => throw .misuse
        | none, value :: rest =>
          if isOptionLike value then throw .misuse
          else readOptions grammar { given with pending := some (option, value) } rest
      | none, none =>
        if value.isSome then .error .misuse
        else if name = "help" then stopFor given .help
        else if name = "version" ∧ grammar.version then stopFor given .version
        else .error .misuse

/-- Options that are given without any word among them. -/
def readOptionsOnly (grammar : Grammar) (arguments : List String) : Except Stop Given := do
  let (given, rest) ← readOptions grammar {} arguments
  if rest.isEmpty then given.settle else throw .misuse

/-- Whether a list of words names something that there is help for. -/
def hasHelp : List String → Bool
  | [] => true
  | [name] => name == "help" || (verb? name).isSome
  | _ => false

/-- The cases and identities that are asked for. -/
def Given.selection (g : Given) : Selection where
  identities := g.valuesOf .identity
  suite := (g.valuesOf .suite).head?

/-- The command that a subcommand with options stands for. -/
def Verb.command (verb : Verb) (g : Given) : Command :=
  match verb with
  | .release =>
    .release
      { skipBuild := g.flags.contains .skipBuild, skipDeploy := g.flags.contains .skipDeploy
        skipTests := g.flags.contains .skipTests }
      g.selection
  | .test => .test g.selection (!g.flags.contains .noSettle)
  | .builder => .builder
  | .plan => .plan

/-- What the arguments ask for. A release file that is named behind the subcommand goes before one
that is named in front of it. -/
def read (arguments : List String) : Except Stop Order := do
  let (given, rest) ← readOptions .top {} arguments
  match rest with
  | [] => throw .misuse
  | word :: rest =>
    if word = "help" then throw (if hasHelp rest then .help else .misuse)
    else
      match verb? word with
      | none => throw .misuse
      | some verb =>
        let inner ← readOptionsOnly verb.grammar rest
        let outer ← given.settle
        return {
          config :=
            ((inner.valuesOf .config).head?.or (outer.valuesOf .config).head?).getD
              ReleaseFile.defaultPath
          command := verb.command inner }

end Shipyard.CommandLine
