import Shipyard.Proofs.Trace.Basic
import Shipyard.Release.Pipeline

/-!
# What a run asks of the outside

A release reaches the outside in three ways: through the channel to the target, through the programs
of the machine it runs on, and through requests to the service. Here each of them is traced, and so
is everything that a release works with. Looking at files, at the environment and at the clock is
left untraced.
-/

namespace Shipyard

variable {σ ε : Type}

/-- Something that was asked of the outside, with what came of it. -/
inductive Event where
  /-- A command line was given to the channel. -/
  | ran (command : String) (completion : Completion)
  /-- A file was given to the channel. -/
  | copied (localPath remotePath : String) (completion : Completion)
  /-- A program was run for its output. -/
  | captured (invocation : Invocation) (result : Except StartFault Finished)
  /-- A program was run at the terminal. -/
  | attached (invocation : Invocation) (result : Except StartFault Ending)
  /-- A request was made. -/
  | exchanged (exchange : Http.Exchange)

/-- The program that an event is about, if it is about one. -/
def Event.invocation? : Event → Option Invocation
  | .captured invocation _ => some invocation
  | .attached invocation _ => some invocation
  | _ => none

/-- Nothing was added to the details of a failure. -/
def Failure.Untagged (f : Failure) : Prop := f.tags = []

/-- A machine whose programs are traced. -/
def Host.traced (host : Host (StateM σ)) : Host (StateM (Traced σ Event)) where
  environment name := Traced.silently (host.environment name)
  accountHome := Traced.silently host.accountHome
  pathExists path := Traced.silently (host.pathExists path)
  readText path := Traced.silently (host.readText path)
  fileSize path := Traced.silently (host.fileSize path)
  removeFile path := Traced.silently (host.removeFile path)
  capture invocation := Traced.noting (.captured invocation) (host.capture invocation)
  attach invocation := Traced.noting (.attached invocation) (host.attach invocation)
  openClient := Traced.silently host.openClient
  freshArchive := Traced.silently host.freshArchive
  timestamp := Traced.silently host.timestamp
  nanoseconds := Traced.silently host.nanoseconds
  pause seconds := Traced.silently (host.pause seconds)

/-- A channel whose commands and copies are traced. -/
def Remote.Channel.traced (channel : Remote.Channel (StateM σ)) :
    Remote.Channel (StateM (Traced σ Event)) where
  run command := Traced.noting (.ran command) (channel.run command)
  copy localPath remotePath :=
    Traced.noting (.copied localPath remotePath) (channel.copy localPath remotePath)
  address := channel.address

/-- A session whose attempts are traced. -/
def Remote.Session.traced (session : Remote.Session (StateM σ)) :
    Remote.Session (StateM (Traced σ Event)) where
  channel := session.channel.traced
  policy := session.policy
  pause := Traced.silently session.pause

/-- A service whose exchanges are traced. -/
def Http.Service.traced (service : Http.Service (StateM σ)) (event : Http.Exchange → ε) :
    Http.Service (StateM (Traced σ ε)) where
  send request := Traced.noting (fun reply => event ⟨request, reply⟩) (service.send request)

namespace Http.Service

variable (service : Http.Service (StateM σ)) (event : Http.Exchange → ε) (request : Request)
  (t : Traced σ ε)

/-- An exchange is put on the trace once. -/
@[simp] lemma traced_exchange_trace :
    ((service.traced event).exchange request t).2.trace =
      t.trace ++ [event ((service.traced event).exchange request t).1] := rfl

/-- An exchange is about the request that was made. -/
@[simp] lemma traced_exchange_request :
    ((service.traced event).exchange request t).1.request = request := rfl

end Http.Service

/-- A release with everything traced that it works with. -/
def Release.Setting.traced (setting : Release.Setting (StateM σ)) :
    Release.Setting (StateM (Traced σ Event)) where
  host := setting.host.traced
  session := setting.session.traced
  service := setting.service.traced .exchanged
  context := setting.context
  cases := setting.cases
  identities := setting.identities

end Shipyard
