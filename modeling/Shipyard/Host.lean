import Shipyard.Completion

/-!
# The machine the tool runs on

What a run needs of the machine it runs on: its environment, its files, its programs and its
clock. Everything that has an effect goes through a `Host` in some monad, so that the same run can
be made on a real machine and on one that exists only as a value.
-/

namespace Shipyard

/-- Why a file could not be used, or a program not be started. -/
inductive FileFault where
  | notFound
  | notDirectory
  | isDirectory
  | denied
  /-- The path, or a name in it, is longer than one may be. -/
  | tooLong
  /-- The bytes of the file are not UTF-8. -/
  | notText
  | other (message : String)
  deriving DecidableEq, Repr

/-- What a fault is called. -/
def FileFault.reason : FileFault → String
  | .notFound => "No such file or directory"
  | .notDirectory => "Not a directory"
  | .isDirectory => "Is a directory"
  | .denied => "Permission denied"
  | .tooLong => "File name too long"
  | .notText => "stream did not contain valid UTF-8"
  | .other message => message

/-- The number of a fault that the system has one for. -/
def FileFault.number? : FileFault → Option String
  | .notFound => some "2"
  | .notDirectory => some "20"
  | .isDirectory => some "21"
  | .denied => some "13"
  | .tooLong => some "36"
  | .notText => none
  | .other _ => none

/-- The wording of a fault. -/
def FileFault.message (fault : FileFault) : String :=
  match fault.number? with
  | some number => fault.reason ++ " (os error " ++ number ++ ")"
  | none => fault.reason

/-- A program to be started, with its arguments. -/
structure Invocation where
  program : String
  arguments : List String
  directory : Option String := none
  /-- The file that is its input; none means that there is no input. -/
  input : Option String := none
  deriving DecidableEq, Repr

/-- Why a program was not started. -/
inductive StartFault where
  | input (fault : FileFault)
  | program (fault : FileFault)
  deriving DecidableEq, Repr

/-- The wording of a fault. -/
def StartFault.message : StartFault → String
  | .input fault => fault.message
  | .program fault => fault.message

/-- The machine a run is made on. -/
structure Host (m : Type → Type) where
  /-- The value of an environment variable. -/
  environment : String → m (Option String)
  /-- The home directory that is registered for the user. -/
  accountHome : m (Option String)
  /-- Whether there is a file or a directory of that name. -/
  pathExists : String → m Bool
  /-- The text of a file. -/
  readText : String → m (Except FileFault String)
  /-- The number of bytes of a file. -/
  fileSize : String → m (Except FileFault Nat)
  /-- Remove a file, if it can be removed. -/
  removeFile : String → m Unit
  /-- Run a program and collect what it writes. -/
  capture : Invocation → m (Except StartFault Finished)
  /-- Run a program that writes to the terminal. -/
  attach : Invocation → m (Except StartFault Ending)
  /-- Set up what requests are sent with, or tell why that cannot be done. -/
  openClient : m (Except String Unit)
  /-- A name for an archive that is not in use. -/
  freshArchive : m String
  /-- The time of day. -/
  timestamp : m String
  /-- Nanoseconds since some moment in the past. -/
  nanoseconds : m Nat
  /-- Let a number of seconds pass. -/
  pause : Nat → m Unit

namespace Host

variable {m : Type → Type} [Monad m]

/-- Run a program and collect what it writes, whether or not it could be started. -/
def runCaptured (host : Host m) (invocation : Invocation) : m Completion := do
  match ← host.capture invocation with
  | .ok finished => return .ofFinished finished
  | .error fault => return .notStarted ("Failed to run " ++ invocation.program) fault.message

/-- Run a program that writes to the terminal, whether or not it could be started. -/
def runAttached (host : Host m) (invocation : Invocation) : m Completion := do
  match ← host.attach invocation with
  | .ok ending => return .ofEnding ending
  | .error fault => return .notStarted ("Failed to run " ++ invocation.program) fault.message

/-- Run a command line in the shell, with a file as its input if one is named. -/
def runShell (host : Host m) (command : String) (input : Option String) : m Completion := do
  match ← host.capture { program := "sh", arguments := ["-c", command], input } with
  | .ok finished => return .ofFinished finished
  | .error (.input fault) => return .notStarted "Failed to open stdin file" fault.message
  | .error (.program fault) => return .notStarted "Command error" fault.message

/-- The home directory: the one that the environment names, or else the one that is registered for
the user. An empty name in the environment counts as none. -/
def homeDirectory (host : Host m) : m (Option String) := do
  match ← host.environment "HOME" with
  | some home => if home.isEmpty then host.accountHome else return some home
  | none => host.accountHome

/-- A path whose leading `~` is replaced by the home directory. It stays as it is without one. -/
def expandHome (host : Host m) (path : String) : m String := do
  match path.toList with
  | ['~'] => return (← host.homeDirectory).getD path
  | '~' :: '/' :: rest =>
    return match ← host.homeDirectory with
      | some home => home ++ String.ofList ('/' :: rest)
      | none => path
  | _ => return path

end Host

end Shipyard
