import Shipyard.Failure
import Shipyard.Completion
import Shipyard.Retry
import Shipyard.Text.LowerCase

/-!
# Sessions on a remote host

A channel runs one command on a host, or copies one file to it. A session adds the retries: an
attempt that failed because the host could not be reached is made again, a command that ran and
failed is not.
-/

namespace Shipyard.Remote

/-- A way to a host. -/
structure Channel (m : Type → Type) where
  /-- Run a command line once. -/
  run : String → m Completion
  /-- Copy a local file to a path on the host once. -/
  copy : String → String → m Completion
  /-- User and host. -/
  address : String

/-- The exit code of a connection that failed, as opposed to the exit code of the command. -/
def connectionExit : Int := 255

/-- Whether a command did not run because of the connection. Only the exit code tells: what a
command that ran has written says nothing about the connection. -/
def isTransientRun (c : Completion) : Bool :=
  !c.success && (c.exitCode == connectionExit || c.exitCode == -1)

/-- What is written when a connection fails. -/
def transientPhrases : List String :=
  [ "connection refused", "connection reset", "connection timed out", "operation timed out",
    "no route to host", "network is unreachable", "temporary failure in name resolution",
    "could not resolve hostname", "broken pipe", "ssh_exchange_identification",
    "kex_exchange_identification", "connection closed by remote host", "lost connection" ]

/-- Whether a copy failed because of the connection. A copy that failed may have any exit code, so
its error output counts too. -/
def isTransientCopy (c : Completion) : Bool :=
  !c.success && (isTransientRun c || transientPhrases.any (Text.mentions c.stderr))

/-- A channel with a policy for its failures. -/
structure Session (m : Type → Type) where
  channel : Channel m
  policy : RetryPolicy
  /-- Wait between two attempts. -/
  pause : m Unit

namespace Session

variable {m : Type → Type} [Monad m]

/-- What one attempt comes to: a failure if the connection is to blame. -/
def judge (address : String) (isTransient : Completion → Bool) (attempt : Nat) (c : Completion) :
    Except Failure Completion :=
  if isTransient c then
    .error (Cause.unreachable address attempt c.exitCode (Text.trim c.stderr))
  else .ok c

/-- Make attempts until the connection holds or the budget is spent. -/
def withRetry (session : Session m) (isTransient : Completion → Bool) (attempt : m Completion) :
    ExceptT Failure m Completion :=
  ExceptT.mk <| retry session.policy session.pause Failure.isConnectionFailure fun number => do
    return judge session.channel.address isTransient number (← attempt)

/-- Run a command; it may fail on the host. -/
def execute (session : Session m) (command : String) : ExceptT Failure m Completion :=
  session.withRetry isTransientRun (session.channel.run command)

/-- The output of a command that has to succeed. -/
def output (address command : String) (c : Completion) : Except Failure String :=
  if c.success then .ok c.stdout
  else .error (Cause.commandFailed command c.exitCode c.stdout c.stderr address)

/-- Run a command that has to succeed, for its output. -/
def run (session : Session m) (command : String) : ExceptT Failure m String := do
  let c ← session.execute command
  ExceptT.mk (pure (output session.channel.address command c))

/-- Copy a file to the host; the copy may fail there. -/
def upload (session : Session m) (localPath remotePath : String) :
    ExceptT Failure m Completion :=
  session.withRetry isTransientCopy (session.channel.copy localPath remotePath)

end Session

end Shipyard.Remote
