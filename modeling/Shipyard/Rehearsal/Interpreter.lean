import Shipyard.Rehearsal.Programs
import Shipyard.Shell.Token

/-!
# The shell of a machine

Command lines of simple commands with redirections, in pipelines, behind one another, and joined by
`&&` and `||`. Variables are replaced by their values; there are no control structures.
-/

namespace Shipyard.Rehearsal

open Shell (Glyph Token)

/-- A redirection: the number of the stream, the operator and the word behind it. -/
structure Redirection where
  stream : Nat
  operator : List Char
  target : List Glyph
  deriving DecidableEq, Repr

/-- A simple command. -/
structure SimpleCommand where
  words : List (List Glyph) := []
  redirections : List Redirection := []
  deriving DecidableEq, Repr

/-- When a pipeline is run. -/
inductive Connector where
  | always
  | onSuccess
  | onFailure
  deriving DecidableEq, Repr

/-- A command line: pipelines, each with the condition under which it is run. -/
abbrev CommandLine : Type := List (Connector × List SimpleCommand)

/-! ### Reading command lines -/

/-- How a token is named in a complaint. -/
def tokenName : List Token → String
  | [] => "end of file"
  | .word _ :: _ => "word"
  | .operator text :: _ =>
    if text == ['\n'] then "newline" else "\"" ++ String.ofList text ++ "\""

/-- A complaint about a token. -/
def unexpected (tokens : List Token) : String :=
  "Syntax error: " ++ tokenName tokens ++ " unexpected"

/-- The operators that redirect a stream, with the digits in front of them cut off. -/
def redirection? (operator : List Char) : Option (Nat × List Char) :=
  let digits := operator.takeWhile Char.isDigit
  let rest := operator.dropWhile Char.isDigit
  if Shell.isRedirection rest then
    let usual := if rest.head? == some '<' then 0 else 1
    some (if digits.isEmpty then usual else Text.decimalValue digits, rest)
  else none

/-- A simple command, and the tokens behind it. -/
def readSimple : List Token → SimpleCommand → Except String (SimpleCommand × List Token)
  | [], done => .ok (done, [])
  | .word glyphs :: tokens, done =>
    readSimple tokens { done with words := done.words ++ [glyphs] }
  | .operator text :: tokens, done =>
    match redirection? text with
    | none => .ok (done, .operator text :: tokens)
    | some (stream, operator) =>
      match tokens with
      | .word target :: tokens =>
        readSimple tokens
          { done with redirections := done.redirections ++ [⟨stream, operator, target⟩] }
      | tokens => .error (unexpected tokens)

/-- Whether a simple command is there at all. -/
def SimpleCommand.isAbsent (c : SimpleCommand) : Bool :=
  c.words.isEmpty && c.redirections.isEmpty

/-- Pipelines, where `connector` stands in front of the first one and `parts` are those of its
commands that are read already. -/
def readPipelines : Nat → Connector → List SimpleCommand → List Token → Except String CommandLine
  | 0, _, _, tokens => .error (unexpected tokens)
  | fuel + 1, connector, parts, tokens => do
    let (command, rest) ← readSimple tokens {}
    if command.isAbsent then
      if rest.isEmpty && parts.isEmpty && connector = .always then return []
      else if rest.head? == some (.operator ['\n']) && parts.isEmpty then
        readPipelines fuel connector [] (rest.drop 1)
      else throw (unexpected rest)
    else
      let parts := parts ++ [command]
      match rest with
      | [] => return [(connector, parts)]
      | .operator ['|'] :: rest => readPipelines fuel connector parts rest
      | .operator ['&', '&'] :: rest =>
        return (connector, parts) :: (← readPipelines fuel .onSuccess [] rest)
      | .operator ['|', '|'] :: rest =>
        return (connector, parts) :: (← readPipelines fuel .onFailure [] rest)
      | .operator [';'] :: rest =>
        return (connector, parts) :: (← readPipelines fuel .always [] rest)
      | .operator ['\n'] :: rest =>
        return (connector, parts) :: (← readPipelines fuel .always [] rest)
      | rest => throw (unexpected rest)

/-- Tokens without comments. -/
def dropComments : Bool → List Token → List Token
  | _, [] => []
  | _, .operator ['\n'] :: tokens => .operator ['\n'] :: dropComments false tokens
  | true, _ :: tokens => dropComments true tokens
  | false, .word (.active '#' :: _) :: tokens => dropComments true tokens
  | false, token :: tokens => token :: dropComments false tokens

/-- The command line that a text is, or a complaint about it. -/
def readCommandLine (text : String) : Except String CommandLine :=
  match Shell.tokens? text.toList with
  | none => .error "Syntax error: Unterminated quoted string"
  | some tokens =>
    let tokens := dropComments false tokens
    readPipelines (tokens.length + 2) .always [] tokens

/-! ### Running command lines -/

/-- Where a stream goes. -/
inductive Sink where
  | output
  | errors
  | file (path : String)
  deriving DecidableEq, Repr

/-- A shell at work. -/
structure Session where
  machine : Machine
  stdout : List UInt8 := []
  stderr : List UInt8 := []
  status : Nat := 0
  /-- How the shell has ended, if it has. -/
  ended : Option Ending := none

namespace Session

/-- A session with bytes written to a sink. -/
def emit (s : Session) (bytes : List UInt8) : Sink → Session
  | .output => { s with stdout := s.stdout ++ bytes }
  | .errors => { s with stderr := s.stderr ++ bytes }
  | .file path =>
    let before := match s.machine.read path with
      | .ok content => content
      | .error _ => []
    match s.machine.write path (before ++ bytes) with
    | .ok machine => { s with machine }
    | .error _ => s

/-- A session that has complained. -/
def complain (s : Session) (sink : Sink) (text : String) (status : Nat) : Session :=
  { s.emit (Text.Utf8.encode ("sh: 1: " ++ text ++ "\n")) sink with status }

end Session

/-- Where the streams of a command go, and what its input is. -/
structure Streams where
  output : Sink := .output
  errors : Sink := .errors
  input : List UInt8 := []

/-- A character that may stand in the name of a variable. -/
def isVariableChar (c : Char) : Bool := c.isAlphanum || c == '_'

/-- The characters of a glyph. -/
def glyphChar : Glyph → Char
  | .literal c => c
  | .active c => c

/-- The value of a word: variables are replaced by their values. -/
def expand (s : Session) : Nat → List Glyph → List Char
  | 0, _ => []
  | _ + 1, [] => []
  | fuel + 1, .active '$' :: glyphs =>
    let name := (glyphs.map glyphChar).takeWhile isVariableChar
    match glyphs, name with
    | .active '?' :: rest, _ => Nat.toDigits 10 s.status ++ expand s fuel rest
    | .literal '?' :: rest, _ => Nat.toDigits 10 s.status ++ expand s fuel rest
    | rest, [] => '$' :: expand s fuel rest
    | rest, name =>
      ((s.machine.valueOf? (String.ofList name)).getD "").toList ++
        expand s fuel (rest.drop name.length)
  | fuel + 1, glyph :: glyphs => glyphChar glyph :: expand s fuel glyphs

/-- The value of a word, where a tilde at its start is the home directory. -/
def wordText (s : Session) (glyphs : List Glyph) : String :=
  let plain (glyphs : List Glyph) : String := String.ofList (expand s (glyphs.length + 1) glyphs)
  let home : String := (s.machine.valueOf? "HOME").getD "~"
  match glyphs with
  | [.active '~'] => home
  | .active '~' :: .literal '/' :: rest => home ++ "/" ++ plain rest
  | glyphs => plain glyphs

/-- Make a redirection. -/
def redirect (s : Session) (streams : Streams) (r : Redirection) :
    Except Session (Session × Streams) :=
  let target := wordText s r.target
  let set (sink : Sink) : Streams :=
    if r.stream = 2 then { streams with errors := sink } else { streams with output := sink }
  let fault (verb : String) (fault : FileFault) (absent : String) : Except Session _ :=
    let text :=
      match fault with
      | .isDirectory | .tooLong => fault.reason
      | _ => absent
    .error (s.complain streams.errors (verb ++ " " ++ target ++ ": " ++ text) 2)
  match r.operator with
  | ['<'] =>
    match s.machine.read target with
    | .ok input => .ok (s, { streams with input })
    | .error .isDirectory => .ok (s, streams)
    | .error e => fault "cannot open" e "No such file"
  | ['>', '&'] =>
    if target == "1" then .ok (s, set streams.output)
    else if target == "2" then .ok (s, set streams.errors)
    else .error (s.complain streams.errors ("Syntax error: Bad fd number") 2)
  | operator =>
    let content :=
      match operator, s.machine.read target with
      | ['>', '>'], .ok before => before
      | _, _ => []
    match s.machine.write target content with
    | .ok machine => .ok ({ s with machine }, set (.file target))
    | .error e => fault "cannot create" e "Directory nonexistent"

/-- Make redirections in order. -/
def redirectAll (s : Session) (streams : Streams) :
    List Redirection → Except Session (Session × Streams)
  | [] => .ok (s, streams)
  | r :: rs => do
    let (s, streams) ← redirect s streams r
    redirectAll s streams rs

/-- A session after a program that it has run. -/
def Session.after (s : Session) (streams : Streams) (done : Finished) (machine : Machine) :
    Session :=
  let s := ({ s with machine }.emit done.stdout streams.output).emit done.stderr streams.errors
  match done.ending with
  | .exited code => { s with status := code }
  | .signalled signal => { s with status := 128 + signal }

/-- The number of a signal that is written as an option. -/
def signalNumber? (option : String) : Option Nat :=
  match option with
  | "-9" => some 9
  | "-KILL" => some 9
  | "-15" => some 15
  | "-TERM" => some 15
  | "-2" => some 2
  | "-INT" => some 2
  | "-1" => some 1
  | "-HUP" => some 1
  | "-6" => some 6
  | "-ABRT" => some 6
  | "-11" => some 11
  | "-SEGV" => some 11
  | _ => none

/-- A command of the shell itself, if it is one. -/
def runOwn? (s : Session) (streams : Streams) (name : String) (arguments : List String) :
    Option Session :=
  match name, arguments with
  | "cd", arguments =>
    let path := arguments.head?.getD ((s.machine.valueOf? "HOME").getD "")
    some <|
      match s.machine.locate path with
      | .ok place =>
        if s.machine.node? place = some .directory then
          { s with machine := { s.machine with directory := place }, status := 0 }
        else s.complain streams.errors ("cd: can't cd to " ++ path) 2
      | .error _ => s.complain streams.errors ("cd: can't cd to " ++ path) 2
  | "exit", arguments =>
    let code := (arguments.head?.bind String.toNat?).getD s.status
    some { s with status := code, ended := some (.exited (code % 256)) }
  | "kill", [option, "$$"] =>
    (signalNumber? option).map fun signal => { s with ended := some (.signalled signal) }
  | "kill", ["$$"] => some { s with ended := some (.signalled 15) }
  | ":", _ => some { s with status := 0 }
  | "true", _ => some { s with status := 0 }
  | "false", _ => some { s with status := 1 }
  | "echo", arguments => some (s.after streams (echo true arguments) s.machine)
  | "printf", arguments => some (s.after streams (printFormatted arguments) s.machine)
  | _, _ => none

/-- What is complained of when a program cannot be run. -/
def startComplaint (name : String) : FileFault → String × Nat
  | .denied => (name ++ ": " ++ FileFault.denied.reason, 126)
  | .tooLong => (name ++ ": " ++ FileFault.tooLong.reason, 127)
  | _ => (name ++ ": not found", 127)

mutual

/-- Run a program. -/
def runProgram : Nat → String → List String → List UInt8 → Machine →
    Except FileFault (Finished × Machine)
  | 0, _, _, _, _ => .error .notFound
  | fuel + 1, name, arguments, input, m =>
    match findProgram m name with
    | .ok .scripted => .ok (callScripted name arguments m)
    | .ok .ordinary => .ok (runOrdinary name arguments input m)
    | .ok .shell =>
      match arguments with
      | "-c" :: line :: _ => .ok (runLine fuel line input m)
      | path :: _ => .ok (finished "" ("sh: 0: cannot open " ++ path ++ ": No such file\n") 2, m)
      | [] => .ok (finished "" "" 0, m)
    | .error fault => .error fault

/-- Run a command line in a shell of its own. The working directory is the old one afterwards. -/
def runLine : Nat → String → List UInt8 → Machine → Finished × Machine
  | 0, _, _, m => (finished "" "" 0, m)
  | fuel + 1, text, input, m =>
    match readCommandLine text with
    | .error problem => (finished "" ("sh: 1: " ++ problem ++ "\n") 2, m)
    | .ok line =>
      let s := runAll fuel line input { machine := m }
      (⟨s.stdout, s.stderr, s.ended.getD (.exited s.status)⟩,
        { s.machine with directory := m.directory })

/-- Run pipelines in order, each if its condition holds. -/
def runAll : Nat → CommandLine → List UInt8 → Session → Session
  | 0, _, _, s => s
  | _ + 1, [], _, s => s
  | fuel + 1, (connector, parts) :: line, input, s =>
    if s.ended.isSome then s
    else
      let wanted :=
        match connector with
        | .always => true
        | .onSuccess => s.status == 0
        | .onFailure => s.status != 0
      runAll fuel line input (if wanted then runPipeline fuel parts input s else s)

/-- Run the commands of a pipeline, the output of one being the input of the next. -/
def runPipeline : Nat → List SimpleCommand → List UInt8 → Session → Session
  | 0, _, _, s => s
  | _ + 1, [], _, s => s
  | fuel + 1, [command], input, s => runSimple fuel command input s
  | fuel + 1, command :: parts, input, s =>
    let first := runSimple fuel command input { s with stdout := [] }
    runPipeline fuel parts first.stdout
      { first with
        stdout := s.stdout, ended := none
        machine := { first.machine with directory := s.machine.directory } }

/-- Run a simple command. -/
def runSimple : Nat → SimpleCommand → List UInt8 → Session → Session
  | 0, _, _, s => s
  | fuel + 1, command, input, s =>
    match redirectAll s { input } command.redirections with
    | .error s => s
    | .ok (s, streams) =>
      match command.words.map (wordText s) with
      | [] => { s with status := 0 }
      | name :: arguments =>
        match runOwn? s streams name arguments with
        | some s => s
        | none =>
          match runProgram fuel name arguments streams.input s.machine with
          | .ok (done, machine) => s.after streams done machine
          | .error fault =>
            let (text, status) := startComplaint name fault
            s.complain streams.errors text status

end

/-- How deep shells may start one another, and how many commands a line may have. -/
def programFuel : Nat := 10000

end Shipyard.Rehearsal
