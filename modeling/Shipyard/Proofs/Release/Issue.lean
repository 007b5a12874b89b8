import Shipyard.Proofs.Conformance.Order
import Shipyard.Proofs.Remote.Attempts
import Shipyard.Proofs.Trace.Machine

/-!
# What a stage asks of the outside

Every stage of a release has its own business with the outside: a command line that shows the file
of the secret, a question to the build agent, the build, the save, the copy of the archive, the
steps of the plan, the health URL, the probes of the suite. Here each stage is shown to stay within
its business, whatever it is answered, and to fail without tags. Of the build and of the save it is
also shown that the program is run exactly once.
-/

namespace Shipyard.Release

open Conformance (Probe)

variable {σ : Type}

/-- The program that asks a build agent for a sign of life. -/
def inspection (context : Context) (name : String) : Invocation where
  program := context.dockerBin
  arguments := ["buildx", "inspect", "--bootstrap", name]

/-- The program that builds an image. -/
def buildInvocation (build : Builder.ImageBuild) : Invocation where
  program := build.dockerBin
  arguments := build.arguments
  directory := some build.directory

/-- The program that saves the image of a context. -/
def saveInvocation (context : Context) (path : String) : Invocation where
  program := context.dockerBin
  arguments := Archive.saveArguments context.image path

/-- The business of a stage with the outside. -/
def Stage.Issues {m : Type → Type} (setting : Setting m) : Stage → Event → Prop
  | .resolveSecret, e => ∃ c, e = .ran (Secret.showCommand setting.context.secretPath) c
  | .selectBuilder, e => ∃ name result, e = .captured (inspection setting.context name) result
  | .build, e => ∃ decision secret result, e = .attached
      (buildInvocation (.ofContext setting.context decision secret)) result
  | .exportImage, e => ∃ path result, e = .captured (saveInvocation setting.context path) result
  | .transfer, e => ∃ path c, e = .copied path setting.context.target.archivePath c
  | .deploy, e => ∃ step ∈ (Deploy.Plan.ofContext setting.context).steps,
      ∃ c, e = .ran ((Deploy.Plan.ofContext setting.context).commandLine step) c
  | .health, e => ∃ reply, e = .exchanged ⟨Health.probe setting.context.api, reply⟩
  | .conformance, e => ∃ exchange, e = .exchanged exchange ∧
      ∃ probe ∈ Probe.all setting.cases setting.identities,
        probe.Asks setting.context.api exchange.request

variable (host : Host (StateM σ)) {P : Event → Prop}

/-! ## The stages in which the image is made -/

/-- Fetching the secret shows its file, and nothing else. -/
lemma resolve_within (session : Remote.Session (StateM σ)) (path key : String) :
    Within (fun e => ∃ c, e = .ran (Secret.showCommand path) c) Failure.Untagged
      (Secret.resolve session.traced path key) := by
  refine (session.run_within _).bind fun content => ?_
  split
  · exact Within.pure _
  · exact Within.throw rfl

/-- Reading the registration leaves nothing on the trace. -/
lemma read_within (setting : Option String) :
    Within P Failure.Untagged (Builder.Registration.read host.traced setting) := by
  unfold Builder.Registration.read
  split
  · exact Within.pure _
  · refine (Within.lift (host.expandHome_emits _)).bind fun path => ?_
    refine (Within.lift (Emits.silently _)).bind fun isThere => ?_
    split
    · refine (Within.lift (Emits.silently _)).bind fun text => ?_
      split
      · exact Within.pure _
      · exact Within.throw rfl
    · exact Within.pure _

/-- Selecting the builder asks the registered agent for a sign of life, and nothing else. -/
lemma decide_within (context : Context) :
    Within (fun e => ∃ name result, e = .captured (inspection context name) result)
      Failure.Untagged (Builder.decide host.traced context) := by
  refine (read_within host _).bind fun registration => ?_
  cases registration with
  | none => exact (Within.pure _).bind fun _ => Within.pure _
  | some r =>
    have halive : Once (fun e => ∃ name result, e = .captured (inspection context name) result)
        Failure.Untagged (ExceptT.lift (Builder.isAlive host.traced context.dockerBin r.name)) :=
      (host.runCaptured_once (inspection context r.name)
        fun result => ⟨r.name, result, rfl⟩).followed fun c => Within.pure c.success
    exact halive.within.bind fun _ => Within.pure _

/-- A build is one run of the program that builds. -/
lemma build_once (build : Builder.ImageBuild) :
    Once (fun e => ∃ result, e = .attached (buildInvocation build) result) Failure.Untagged
      (build.run host.traced) := by
  refine Once.after (Emits.silently _) fun start => ?_
  refine (host.runAttached_once (buildInvocation build) fun result => ⟨result, rfl⟩).followed
    fun c => ?_
  refine (Within.lift (Emits.silently _)).bind fun finish => Within.ofExcept fun failure h => ?_
  unfold Builder.ImageBuild.outcome at h
  split at h
  · cases h
  · cases h
    rfl

/-! ## The stages in which the image is put into service -/

/-- A save is one run of the program that saves. -/
lemma save_once (dockerBin image path : String) :
    Once (fun e => ∃ result, e = .captured
        { program := dockerBin, arguments := Archive.saveArguments image path } result)
      Failure.Untagged (Archive.save host.traced dockerBin image path) := by
  refine (host.runCaptured_once _ fun result => ⟨result, rfl⟩).followed fun c => ?_
  split
  · refine (Within.lift (Emits.silently _)).bind fun size => ?_
    split
    · exact Within.pure _
    · exact (Within.lift (Archive.discard_emits host path)).bind fun _ => Within.throw rfl
  · exact (Within.lift (Archive.discard_emits host path)).bind fun _ => Within.throw rfl

/-- Saving the image of a context is one run of the program that saves. -/
lemma saveImage_once (context : Context) :
    Once (fun e => ∃ path result, e = .captured (saveInvocation context path) result)
      Failure.Untagged (Archive.saveImage host.traced context) := by
  refine Once.after (Emits.silently _) fun path => ?_
  refine (save_once host context.dockerBin context.image path).mono ?_
  rintro e ⟨result, rfl⟩
  exact ⟨path, result, rfl⟩

/-- The transfer gives the archive to the channel with its place on the target, and nothing else. -/
lemma transfer_within (session : Remote.Session (StateM σ)) (target : Target)
    (archive : Archive.Local) :
    Within (fun e => ∃ path c, e = .copied path target.archivePath c) Failure.Untagged
      (Archive.transfer host.traced session.traced target archive) where
  emits := by
    have hupload : Emits (fun e => ∃ path c, e = .copied path target.archivePath c)
        (session.traced.upload archive.path target.archivePath).run :=
      (session.upload_within _ _).emits.mono fun e he => ⟨archive.path, he⟩
    exact hupload.bind fun _ => (Archive.discard_emits host _).bind fun _ => Emits.pure _
  fails := by
    intro t failure h
    have hupload := (session.upload_within archive.path target.archivePath).fails t
    change ((session.traced.upload archive.path target.archivePath t).1.bind
      (Archive.delivery archive target.archivePath)) = .error failure at h
    cases hcopied : (session.traced.upload archive.path target.archivePath t).1 with
    | error failure' =>
      rw [hcopied] at h
      cases h
      exact hupload failure hcopied
    | ok c =>
      rw [hcopied] at h
      change Archive.delivery archive target.archivePath c = .error failure at h
      unfold Archive.delivery at h
      split at h
      · cases h
      · cases h
        rfl

section Plan

variable {plan : Deploy.Plan}
  {execute : String → ExceptT Failure (StateM (Traced σ Event)) Completion}

/-- Cleaning up executes nothing but steps. -/
lemma cleanUp_emits {steps : List Deploy.Step}
    (h : ∀ step ∈ steps, Within P Failure.Untagged (execute (plan.commandLine step))) :
    Emits P (Deploy.cleanUp plan execute steps) := by
  induction steps with
  | nil => exact Emits.pure _
  | cons step later ih =>
    have hlater := ih fun s hs => h s (List.mem_cons_of_mem _ hs)
    unfold Deploy.cleanUp
    split
    · exact (h step List.mem_cons_self).emits.bind fun _ => hlater
    · exact hlater

/-- Making steps executes nothing but steps, and fails without tags. -/
lemma makeSteps_within {steps : List Deploy.Step}
    (h : ∀ step ∈ steps, Within P Failure.Untagged (execute (plan.commandLine step))) :
    Within P Failure.Untagged (Deploy.makeSteps plan execute steps) := by
  induction steps with
  | nil => exact Within.pure _
  | cons step later ih =>
    have hlater : ∀ s ∈ later, Within P Failure.Untagged (execute (plan.commandLine s)) :=
      fun s hs => h s (List.mem_cons_of_mem _ hs)
    refine (h step List.mem_cons_self).bind fun c => ?_
    split
    · exact (Within.lift (cleanUp_emits hlater)).bind fun _ => Within.throw rfl
    · exact (ih hlater).bind fun _ => Within.pure _

/-- Making a plan through a session gives the command lines of its steps to the channel, and nothing
else. -/
lemma runPlan_within (session : Remote.Session (StateM σ)) :
    Within (fun e => ∃ step ∈ plan.steps, ∃ c, e = .ran (plan.commandLine step) c)
      Failure.Untagged (plan.run session.traced.execute) := by
  refine Within.bind (makeSteps_within fun step hstep => ?_) fun _ => Within.pure _
  refine (session.execute_within (plan.commandLine step)).mono (fun e he => ?_) fun _ h => h
  exact ⟨step, hstep, he⟩

end Plan

/-! ## The stages in which the service is checked -/

variable (service : Http.Service (StateM σ))

/-- Asking the health URL once is a single request, and fails without tags. -/
lemma check_within (api : Endpoints) (attempt : Nat) :
    Within (fun e => ∃ reply, e = Event.exchanged ⟨Health.probe api, reply⟩) Failure.Untagged
      (ExceptT.mk (Health.check (service.traced Event.exchanged) api attempt)) where
  emits := by
    refine Emits.bind (Emits.noting (service.send (Health.probe api)) fun reply => ⟨reply, rfl⟩)
      fun reply => ?_
    split
    · exact Emits.pure _
    · exact Emits.pure _
  fails := by
    intro t failure h
    rw [evalExcept_mk, Health.check, eval_bind] at h
    split at h
    · cases h
    · cases h
      rfl

/-- Waiting until the service is ready asks its health URL, and nothing else. -/
lemma health_within (api : Endpoints) (policy : RetryPolicy) :
    Within (fun e => ∃ reply, e = Event.exchanged ⟨Health.probe api, reply⟩) Failure.Untagged
      (Health.verify (service.traced Event.exchanged) host.traced.pause api policy) := by
  have hready : Within (fun e => ∃ reply, e = Event.exchanged ⟨Health.probe api, reply⟩)
      Failure.Untagged (do
        let attempts ← ExceptT.mk (retry policy (host.traced.pause policy.delaySecs)
          Health.isUnready (Health.check (service.traced Event.exchanged) api))
        return (⟨api.healthUrl, attempts, api.settleSecs⟩ : Health.Report)) :=
    (Within.retry (Emits.silently _) (check_within service api)).bind fun _ => Within.pure _
  unfold Health.verify
  split
  · exact (Within.lift (Emits.silently _)).bind fun _ => hready
  · exact hready

/-- Running the suite asks what is asked for its probes, and nothing else. -/
lemma conformance_within (api : Endpoints) (cases : List Conformance.Case)
    (identities : List Identity) :
    Within (fun e => ∃ exchange, e = Event.exchanged exchange ∧
        ∃ probe ∈ Probe.all cases identities, probe.Asks api exchange.request)
      Failure.Untagged
      (ExceptT.lift (Conformance.run (service.traced Event.exchanged) api cases identities)) :=
  Within.lift (Conformance.run_emits service Event.exchanged api cases identities)

end Shipyard.Release
