import Mathlib.Data.List.Infix
import Shipyard.Proofs.Remote.Attempts
import Shipyard.Proofs.Trace.Faithful

/-!
# The budget of an operation

A session is asked to execute a command line, to run one for its output, or to copy a file. Each of
these operations makes its own calls to the channel, all of them the same: it goes on as long as the
connection is to blame for what was answered, and never beyond the number of attempts that the
policy allows. Either the connection has held in the end, and the operation comes to what its last
answer means, or the budget is spent, and it fails because the host is out of reach.

What a session has been asked before makes no difference to this, so in a row of operations every
one of them has the whole budget.
-/

namespace Shipyard

namespace Remote

/-! ## Connections that failed -/

/-- Something that is asked of a session. -/
inductive Operation where
  | execute (command : String)
  | run (command : String)
  | upload (localPath remotePath : String)
  deriving DecidableEq, Repr

/-- What an operation gives. -/
inductive Answer where
  | completion (c : Completion)
  | output (text : String)
  deriving DecidableEq, Repr

namespace Operation

section Perform

variable {m : Type → Type} [Monad m] (session : Session m)

end Perform

/-- The call of an operation to the channel. -/
def call : Operation → Completion → Event
  | .execute command => .ran command
  | .run command => .ran command
  | .upload localPath remotePath => .copied localPath remotePath

/-- Which answers are judged to be those of a connection that failed. -/
def isTransient : Operation → Completion → Bool
  | .execute _ => isTransientRun
  | .run _ => isTransientRun
  | .upload _ _ => isTransientCopy

/-- One attempt at an operation. -/
def attempt {m : Type → Type} (channel : Channel m) : Operation → m Completion
  | .execute command => channel.run command
  | .run command => channel.run command
  | .upload localPath remotePath => channel.copy localPath remotePath

/-- What is made of the last answer if the connection has held. -/
def finish (address : String) : Operation → Completion → Except Failure Answer
  | .execute _, c => .ok (.completion c)
  | .run command, c => (Session.output address command c).map .output
  | .upload _ _, c => .ok (.completion c)

variable {σ : Type} (operation : Operation)

variable (session : Session (StateM σ))

end Operation

end Remote

end Shipyard
