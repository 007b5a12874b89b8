import Shipyard.Proofs.Archive.Handoff
import Shipyard.Proofs.Release.Issue

/-!
# What the target is sent

A deployment gives command lines to a shell, so every name in them has to reach its program as one
argument, whatever characters are in it. An argument that was quoted stands for itself in every
place. The command lines of a plan are put together from fixed words and quoted arguments, nothing
but these lines is sent, and the archive they name is the one that the transfer has copied to the
target.
-/

namespace Shipyard.Deploy

open Shell (StandsFor tokens?)

/-- Quoted arguments stand for themselves, with or without quotes around them. So the shell of the
target reads the command lines of a plan as a change to the work directory and the program that each
step is there to run, with the archive in the place to which the transfer copies it, and a
deployment sends no other lines. -/
theorem arguments_reach_programs :
    (∀ argument, StandsFor (Shell.quotePath argument) argument ∧
      StandsFor (Shell.quoteArgument argument) argument) ∧
    ∀ {σ : Type} (host : Host (StateM σ)) (session : Remote.Session (StateM σ))
        (context : Context) (archive : Archive.Local) (t : Traced σ Event),
      (∃ c cs, (Archive.transfer host.traced session.traced context.target archive t).2.trace =
        t.trace ++ (c :: cs).map (Event.copied archive.path context.target.archivePath)) ∧
      List.Forall₂ (fun step arguments =>
          tokens? ((Plan.ofContext context).commandLine step).toList =
            some (entering context.target.workDir arguments))
        (Plan.ofContext context).steps
        (intendedCommands context context.target.archivePath) ∧
      ∃ events, ((Plan.ofContext context).run session.traced.execute t).2.trace =
          t.trace ++ events ∧
        ∀ e ∈ events, ∃ step ∈ (Plan.ofContext context).steps, ∃ c,
          e = .ran ((Plan.ofContext context).commandLine step) c := by
  constructor
  · intro argument
    exact ⟨(Shell.IsRead.quotePath argument).standsFor,
      (Shell.IsRead.quoteArgument argument).standsFor⟩
  · intro σ host session context archive t
    have hcopied := Archive.transfer_trace host session context.target archive t
    have hread := (Plan.ofContext_isRead context).imp fun _ _ h => h.alone
    exact ⟨hcopied, hread, (Release.runPlan_within session).emits t⟩

end Shipyard.Deploy
