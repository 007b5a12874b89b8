import Shipyard.Archive
import Shipyard.Proofs.Trace.Event

/-!
# What the machine leaves on the trace

A program that is run is put on the trace once, whether or not it could be started. Looking up a
directory and discarding a file leave nothing there.
-/

namespace Shipyard

variable {σ : Type} (host : Host (StateM σ)) {P : Event → Prop}

namespace Host

/-- A program that is run for its output is put on the trace. -/
lemma runCaptured_once (invocation : Invocation) (h : ∀ result, P (.captured invocation result)) :
    Once P Failure.Untagged (ExceptT.lift (host.traced.runCaptured invocation)) := by
  refine Once.lift fun t => ?_
  have htrace := Traced.noting_trace (Event.captured invocation) (host.capture invocation) t
  rw [Host.runCaptured, eval_bind]
  cases (host.traced.capture invocation t).1 with
  | ok finished => exact ⟨_, h _, htrace⟩
  | error fault => exact ⟨_, h _, htrace⟩

/-- A program that is run at the terminal is put on the trace. -/
lemma runAttached_once (invocation : Invocation) (h : ∀ result, P (.attached invocation result)) :
    Once P Failure.Untagged (ExceptT.lift (host.traced.runAttached invocation)) := by
  refine Once.lift fun t => ?_
  have htrace := Traced.noting_trace (Event.attached invocation) (host.attach invocation) t
  rw [Host.runAttached, eval_bind]
  cases (host.traced.attach invocation t).1 with
  | ok ending => exact ⟨_, h _, htrace⟩
  | error fault => exact ⟨_, h _, htrace⟩

/-- Looking up the home directory leaves nothing on the trace. -/
lemma homeDirectory_emits : Emits P host.traced.homeDirectory := by
  refine (Emits.silently _).bind fun named => ?_
  cases named with
  | none => exact Emits.silently _
  | some home =>
    dsimp only
    split
    · exact Emits.silently _
    · exact Emits.pure _

/-- Putting the home directory into a path leaves nothing on the trace. -/
lemma expandHome_emits (path : String) : Emits P (host.traced.expandHome path) := by
  unfold Host.expandHome
  split
  · exact host.homeDirectory_emits.bind fun _ => Emits.pure _
  · exact host.homeDirectory_emits.bind fun _ => Emits.pure _
  · exact Emits.pure _

end Host

/-- Discarding an archive leaves nothing on the trace. -/
lemma Archive.discard_emits (path : String) : Emits P (discard host.traced path) := by
  refine (Emits.silently _).bind fun isThere => ?_
  split
  · exact Emits.silently _
  · exact Emits.pure _

end Shipyard
