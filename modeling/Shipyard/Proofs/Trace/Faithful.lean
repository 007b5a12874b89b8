import Shipyard.Proofs.Alike.Release
import Shipyard.Proofs.Trace.Event

/-!
# Tracing changes nothing

A traced run comes to the same result as the run without a trace, and leaves the same outside
behind. This holds of what is put on the trace and of what is not, and it is kept by sequencing, so
it holds of every run that is given nothing but such things.
-/

namespace Shipyard

variable {σ ε α β : Type}

namespace Traced

/-- A traced action does what an action without a trace does. -/
def Faithful (x : StateM (Traced σ ε) α) (y : StateM σ α) : Prop :=
  ∀ t, (x t).1 = (y t.outside).1 ∧ (x t).2.outside = (y t.outside).2

/-- What is put on the trace is done as without a trace. -/
lemma noting_faithful (event : α → ε) (action : StateM σ α) :
    Faithful (noting event action) action := fun _ => ⟨rfl, rfl⟩

/-- What is not put on the trace is done as without a trace. -/
lemma silently_faithful (action : StateM σ α) :
    Faithful (silently action : StateM (Traced σ ε) α) action := fun _ => ⟨rfl, rfl⟩

/-- The relation between traced actions and the actions without a trace. -/
def faithfulness (σ ε : Type) : ActionRelation (StateM (Traced σ ε)) (StateM σ) where
  Alike := Faithful
  pure a t := ⟨rfl, rfl⟩
  bind {α β x y f g} hx hf t := by
    obtain ⟨hresult, hreached⟩ := hx t
    rw [eval_bind, eval_bind, ← hresult, ← hreached]
    exact hf _ _

end Traced

open Traced

/-- A traced machine does what the machine does. -/
lemma Host.traced_alike (host : Host (StateM σ)) :
    host.traced.Alike (faithfulness σ Event) host where
  environment _ := silently_faithful _
  accountHome := silently_faithful _
  pathExists _ := silently_faithful _
  readText _ := silently_faithful _
  fileSize _ := silently_faithful _
  removeFile _ := silently_faithful _
  capture _ := noting_faithful _ _
  attach _ := noting_faithful _ _
  freshArchive := silently_faithful _
  timestamp := silently_faithful _
  nanoseconds := silently_faithful _
  pause _ := silently_faithful _

/-- A traced session does what the session does. -/
lemma Remote.Session.traced_alike (session : Remote.Session (StateM σ)) :
    session.traced.Alike (faithfulness σ Event) session where
  channel := ⟨fun _ => noting_faithful _ _, fun _ _ => noting_faithful _ _, rfl⟩
  policy := rfl
  pause := silently_faithful _

/-- A traced service answers as the service does. -/
lemma Http.Service.traced_alike (service : Http.Service (StateM σ)) (event : Http.Exchange → ε) :
    (service.traced event).Alike (faithfulness σ ε) service where
  send _ := noting_faithful _ _

/-- What a traced release works with does what it does without a trace. -/
lemma Release.Setting.traced_alike (setting : Release.Setting (StateM σ)) :
    setting.traced.Alike (faithfulness σ Event) setting where
  host := setting.host.traced_alike
  session := setting.session.traced_alike
  service := setting.service.traced_alike Event.exchanged
  context := rfl
  cases := rfl
  identities := rfl

/-- A traced run of a suite is the run without a trace. -/
theorem Conformance.run_faithful (service : Http.Service (StateM σ)) (event : Http.Exchange → ε)
    (api : Endpoints) (cases : List Case) (identities : List Identity) :
    Faithful (run (service.traced event) api cases identities)
      (run service api cases identities) :=
  run_alike (service.traced_alike event) api cases identities

/-- A traced release is the release without a trace. -/
theorem Release.make_faithful (setting : Setting (StateM σ)) (options : Options) :
    Faithful (make setting.traced options) (make setting options) :=
  make_alike setting.traced_alike options

end Shipyard
