import Shipyard.Context
import Shipyard.Remote.Session
import Shipyard.Shell.Quote

/-!
# The channel to a target

Commands go through `ssh` and files through `scp`. For a target on this machine the shell runs the
command, and a file is copied by `cat`.
-/

namespace Shipyard.Remote.Ssh

/-- Whether a host name stands for this machine. -/
def isLocalHost (host : String) : Bool :=
  host == "localhost" || host == "127.0.0.1" || host == "::1"

/-- The options of a connection that has to be up within a number of seconds, at least one. -/
def options (target : Target) (seconds : Nat) : List String :=
  (target.identityFile.map fun file => ["-i", file]).getD [] ++
    [ "-o", "BatchMode=yes", "-o", "ConnectTimeout=" ++ Cause.integerText (max seconds 1 : Nat),
      "-o", "ServerAliveInterval=15", "-o", "ServerAliveCountMax=3" ]

/-- The flag for a port that is not the usual one. -/
def portArguments (flag : String) (target : Target) : List String :=
  if target.port = 22 then [] else [flag, Cause.integerText target.port]

/-- The arguments with which `ssh` runs a command. -/
def runArguments (target : Target) (connectSecs : Nat) (command : String) : List String :=
  options target connectSecs ++ portArguments "-p" target ++ [target.address, command]

/-- The arguments with which `scp` copies a file. -/
def copyArguments (target : Target) (transferSecs : Nat) (localPath remotePath : String) :
    List String :=
  options target transferSecs ++ portArguments "-P" target ++
    [localPath, target.address ++ ":" ++ Shell.quotePath remotePath]

/-- The command that writes its input to a path. -/
def receiveCommand (path : String) : String :=
  "cat > " ++ Shell.quotePath path

variable {m : Type → Type} [Monad m]

/-- Run a program that makes a connection. -/
def connect (host : Host m) (program context : String) (arguments : List String) :
    m Completion := do
  match ← host.capture { program, arguments } with
  | .ok finished => return .ofFinished finished
  | .error fault => return .notStarted context fault.message

/-- The channel to a target. -/
def channel (host : Host m) (target : Target) (connectSecs transferSecs : Nat) : Channel m where
  run command :=
    if isLocalHost target.host then host.runShell command none
    else connect host "ssh" "SSH error" (runArguments target connectSecs command)
  copy localPath remotePath :=
    if isLocalHost target.host then host.runShell (receiveCommand remotePath) (some localPath)
    else connect host "scp" "SCP error" (copyArguments target transferSecs localPath remotePath)
  address := target.address

/-- The session of a context. -/
def session (host : Host m) (context : Context) : Session m where
  channel := channel host context.target context.timeouts.connectSecs context.timeouts.transferSecs
  policy := context.retry
  pause := host.pause context.retry.delaySecs

end Shipyard.Remote.Ssh
