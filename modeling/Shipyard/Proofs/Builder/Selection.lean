import Shipyard.Proofs.Release.Issue
import Shipyard.Proofs.Trace.Faithful

/-!
# From the registration to the build command

How an image is built is settled in several steps. A registration file is read, the agent that it
names is asked for a sign of life, a backend is chosen, and from the choice the arguments of the
build command are made. The statement here goes over all of them at once: it says, for everything
that the file may hold and the agent may answer, what is asked and which arguments come of it.

Reading the file leaves nothing on the trace, so what is on it afterwards is the question to the
agent. What the agent answers is what it answers in the state in which the reading has left the
machine.
-/

namespace Shipyard.Builder

open Release (inspection)

variable {σ : Type} (host : Host (StateM σ))

/-! ## Signs of life -/

/-- A program was started and has ended with exit code zero. -/
def Succeeds (result : Except StartFault Finished) : Prop :=
  ∃ finished, result = .ok finished ∧ finished.ending = .exited 0

/-- A program has succeeded exactly if its ending counts as a success. -/
lemma succeeded_iff {ending : Ending} : ending.succeeded = true ↔ ending = .exited 0 := by
  cases ending with
  | exited code => simp [Ending.succeeded]
  | signalled signal => simp [Ending.succeeded]

/-- An agent is asked once, and it is alive if the program that asks it succeeds. -/
lemma isAlive_traced (context : Context) (name : String) (s : σ) :
    let result := (host.capture (inspection context name) s).1
    (isAlive host.traced context.dockerBin name ⟨s, []⟩).2.trace =
        [.captured (inspection context name) result] ∧
      ((isAlive host.traced context.dockerBin name ⟨s, []⟩).1 = true ↔ Succeeds result) := by
  dsimp only
  have hcapture : host.traced.capture (inspection context name) ⟨s, []⟩ =
      ((host.capture (inspection context name) s).1,
        ⟨(host.capture (inspection context name) s).2,
          [.captured (inspection context name) (host.capture (inspection context name) s).1]⟩) :=
    rfl
  change ((host.traced.runCaptured (inspection context name) >>= fun completion =>
      pure completion.success) ⟨s, []⟩).2.trace = _ ∧
    (((host.traced.runCaptured (inspection context name) >>= fun completion =>
      pure completion.success) ⟨s, []⟩).1 = true ↔ _)
  rw [eval_bind, Host.runCaptured, eval_bind, hcapture]
  cases (host.capture (inspection context name) s).1 with
  | ok finished =>
    refine ⟨rfl, succeeded_iff.trans ?_⟩
    simp [Succeeds]
  | error fault =>
    refine ⟨rfl, ?_⟩
    simp [Succeeds, Completion.notStarted]

/-! ## Arguments -/

/-- The arguments that have this machine build for a target: under emulation if the machine has
another platform. -/
def localArguments (platform target : String) : List String :=
  if platform = target then ["build"] else ["buildx", "build", "--platform", target, "--load"]

/-- The arguments that have an agent build for a target. -/
def agentArguments (name target : String) : List String :=
  ["buildx", "build", "--builder", name, "--platform", target, "--load"]

/-- The arguments that say what is built, with the secret as it is. -/
def imageArguments (context : Context) (secret : String) : List String :=
  ["-t", context.image, "-f", context.dockerfile, "--build-arg",
    context.secretArgument ++ "=" ++ secret, "."]

/-- A build of the image of a context for its target: the flags in front, the builder that is named,
and either the platform is given or the machine that builds has it. -/
structure BuildsFor (platform : String) (context : Context) (secret : String) (flags : List String)
    (builder : Option String) (build : ImageBuild) : Prop where
  arguments : build.arguments = flags ++ imageArguments context secret
  builder : build.builderName = builder
  target : ["--platform", context.builder.targetPlatform] <:+: build.arguments ∨
    platform = context.builder.targetPlatform

/-- What a selection comes to on a machine of some platform, by what is found in the registration
file and by how the agents would answer: what is asked, and the build that is made of it. -/
inductive Selects (platform : String) (context : Context) (secret : String)
    (answer : String → Except StartFault Finished) :
    Except Failure (Option Registration) → List Event → Except Failure ImageBuild → Prop
  | unreadable (failure : Failure) :
    Selects platform context secret answer (.error failure) [] (.error failure)
  | unregistered {build : ImageBuild}
      (made : BuildsFor platform context secret
        (localArguments platform context.builder.targetPlatform) none build) :
    Selects platform context secret answer (.ok none) [] (.ok build)
  | silent {r : Registration} {build : ImageBuild} (dead : ¬ Succeeds (answer r.name))
      (made : BuildsFor platform context secret
        (localArguments platform context.builder.targetPlatform) none build) :
    Selects platform context secret answer (.ok (some r))
      [.captured (inspection context r.name) (answer r.name)] (.ok build)
  | alive {r : Registration} {build : ImageBuild} (alive : Succeeds (answer r.name))
      (made : BuildsFor platform context secret
        (agentArguments r.name context.builder.targetPlatform) (some r.name) build) :
    Selects platform context secret answer (.ok (some r))
      [.captured (inspection context r.name) (answer r.name)] (.ok build)

/-- Without a live agent the build is one of this machine. -/
lemma select_buildsFor_local (platform : String) (context : Context) (secret : String)
    {registration : Option Registration} {agentAlive : Bool}
    (h : registration = none ∨ agentAlive = false) :
    BuildsFor platform context secret (localArguments platform context.builder.targetPlatform) none
      (.ofContext context
        (select ⟨registration, agentAlive, platform, context.builder.targetPlatform⟩) secret) := by
  have hselect : select ⟨registration, agentAlive, platform, context.builder.targetPlatform⟩ =
      if platform ≠ context.builder.targetPlatform then
        { backend := .localEmulated, platform := context.builder.targetPlatform
          warning := some (emulationWarning
            ⟨registration, agentAlive, platform, context.builder.targetPlatform⟩) }
      else { backend := .localNative, platform := context.builder.targetPlatform } := by
    rcases h with rfl | rfl
    · rfl
    · cases registration <;> rfl
  rw [hselect, localArguments]
  by_cases hsame : platform = context.builder.targetPlatform
  · rw [if_neg (not_not.mpr hsame), if_pos hsame]
    exact ⟨rfl, rfl, .inr hsame⟩
  · rw [if_pos hsame, if_neg hsame]
    exact ⟨rfl, rfl, .inl ⟨["buildx", "build"], "--load" :: imageArguments context secret, rfl⟩⟩

/-- A live agent builds for the target. -/
lemma select_buildsFor_agent (platform : String) (context : Context) (secret : String)
    (r : Registration) :
    BuildsFor platform context secret (agentArguments r.name context.builder.targetPlatform)
      (some r.name)
      (.ofContext context (select ⟨some r, true, platform, context.builder.targetPlatform⟩)
        secret) where
  arguments := rfl
  builder := rfl
  target := .inl
    ⟨["buildx", "build", "--builder", r.name], "--load" :: imageArguments context secret, rfl⟩

/-! ## The selection -/

/-- A registration is found on a traced machine as on the machine, and nothing is asked. -/
lemma read_traced (setting : Option String) (s : σ) :
    Registration.read host.traced setting ⟨s, []⟩ =
      ((Registration.read host setting s).1, ⟨(Registration.read host setting s).2, []⟩) := by
  obtain ⟨hresult, houtside⟩ := Registration.read_alike host.traced_alike setting ⟨s, []⟩
  have htrace := (Release.read_within (P := fun _ => False) host setting).emits.trace_eq ⟨s, []⟩
  exact Prod.ext hresult (congrArg₂ Traced.mk houtside htrace)

/-- Whatever the registration file holds and the agent answers, on a machine of any platform the
agent is asked exactly once if the file names one, and not at all otherwise. The build names the
agent if it has answered, and is one of this machine if not; either way it is made for the target.
Only a file that cannot be read stands in the way of a build. -/
theorem decideOn_selects (platform : String) (context : Context) (secret : String) (s : σ) :
    let found := Registration.read host context.builder.registrationFile s
    let decided := decideOn platform host context s
    let traced := decideOn platform host.traced context ⟨s, []⟩
    traced.1 = decided.1 ∧
      Selects platform context secret
        (fun name => (host.capture (inspection context name) found.2).1) found.1 traced.2.trace
        (decided.1.map fun decision => .ofContext context decision secret) := by
  dsimp only
  have htraced : (decideOn platform host.traced context ⟨s, []⟩).1 =
      (decideOn platform host context s).1 :=
    (decideOn_alike host.traced_alike platform context ⟨s, []⟩).1
  refine ⟨htraced, ?_⟩
  rw [← htraced, decideOn, evalExcept_bind, read_traced]
  generalize Registration.read host context.builder.registrationFile s = found
  obtain ⟨result, s'⟩ := found
  cases result with
  | error failure => exact .unreadable failure
  | ok registration =>
    cases registration with
    | none => exact .unregistered (select_buildsFor_local platform context secret (.inl rfl))
    | some r =>
      obtain ⟨hasked, halive⟩ := isAlive_traced host context r.name s'
      dsimp only
      rw [evalExcept_bind, evalExcept_lift]
      dsimp only
      rw [evalExcept_pure, hasked]
      cases hsign : (isAlive host.traced context.dockerBin r.name ⟨s', []⟩).1 with
      | true => exact .alive (halive.mp hsign) (select_buildsFor_agent platform context secret r)
      | false =>
        have hdead : ¬ Succeeds (host.capture (inspection context r.name) s').1 := by
          rw [← halive, hsign]
          exact Bool.false_ne_true
        exact .silent hdead (select_buildsFor_local platform context secret (.inr rfl))

end Shipyard.Builder
