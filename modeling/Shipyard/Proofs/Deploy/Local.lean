import Shipyard.Proofs.Archive.Handoff
import Shipyard.Proofs.Deploy.Course
import Shipyard.Remote.Ssh

/-!
# Deployments to this machine

There is no connection to a target on this machine: a shell runs its commands. The session judges
the end of a shell as if it were the end of `ssh`, by nothing but the exit code. A shell whose
command has exit code 255, or has none because it was killed by a signal, is therefore taken for a
connection that has failed: it is run again, and when the budget is spent the host is said to be out
of reach. Every other shell that could be started is run once, and the way it ends is the answer.

A step of a deployment may fail without consequences only as long as it is not taken for a failed
connection. If no shell of a deployment is, each step is made by one shell, and nothing but a
required step can end the plan.
-/

namespace Shipyard

/-- A program has ended in one of the ways that are taken for a connection that has failed. -/
def Ending.LooksLost (ending : Ending) : Prop :=
  ending = .exited 255 ∨ ∃ signal, ending = .signalled signal

/-- A program was run for its output and has ended in a way that is not taken for a connection that
has failed. -/
def Event.EndsClearly : Event → Prop
  | .captured _ (.ok finished) => ¬ finished.ending.LooksLost
  | _ => False

/-! ## Shells -/

namespace Remote

/-- A program that has ended is taken for a connection that has failed by its ending alone. -/
lemma isTransientRun_ofFinished_iff (finished : Finished) :
    isTransientRun (.ofFinished finished) = true ↔ finished.ending.LooksLost := by
  unfold isTransientRun Completion.ofFinished Ending.LooksLost
  cases finished.ending with
  | exited code =>
    have hcode : ¬ code = 0 ∧ (code : Int) = 255 ↔ code = 255 := by omega
    simpa [Ending.succeeded, Ending.exitCode, connectionExit] using hcode
  | signalled signal => simp [Ending.succeeded, Ending.exitCode]

namespace Ssh

/-- The shell that runs a command. -/
def shell (command : String) : Invocation := { program := "sh", arguments := ["-c", command] }

/-- What is known of a shell that was to be run. -/
def completionOf : Except StartFault Finished → Completion
  | .ok finished => .ofFinished finished
  | .error (.input fault) => .notStarted "Failed to open stdin file" fault.message
  | .error (.program fault) => .notStarted "Command error" fault.message

/-- A shell is taken for a failed connection unless it was run and has ended clearly. -/
lemma isTransientRun_completionOf_iff (command : String) (result : Except StartFault Finished) :
    isTransientRun (completionOf result) = true ↔
      ¬ (Event.captured (shell command) result).EndsClearly := by
  cases result with
  | ok finished => exact (isTransientRun_ofFinished_iff finished).trans not_not.symm
  | error fault => cases fault <;> exact iff_of_true rfl id

/-- A command line that needs no input is run by a shell. -/
lemma runShell_eq {m : Type → Type} [Monad m] [LawfulMonad m] (host : Host m) (command : String) :
    host.runShell command none = completionOf <$> host.capture (shell command) := by
  rw [Host.runShell, map_eq_pure_bind]
  refine bind_congr fun result => ?_
  obtain (fault | fault) | finished := result <;> rfl

variable {σ : Type} (host : Host (StateM σ)) {context : Context}

/-- A command for this machine is run by a shell, with the retries of a session. -/
lemma execute_of_isLocalHost (hlocal : isLocalHost context.target.host = true) (command : String) :
    (session host.traced context).execute command =
      (session host.traced context).withRetry isTransientRun
        (completionOf <$> host.traced.capture (shell command)) := by
  have hrun : (session host.traced context).channel.run command =
      host.traced.runShell command none := if_pos hlocal
  rw [Session.execute, hrun, runShell_eq]

/-- A command for this machine is run until a shell ends clearly or the budget is spent, and the
last shell decides. -/
lemma execute_attempts (hlocal : isLocalHost context.target.host = true) (command : String)
    (t : Traced σ Event) :
    ∃ lost last, (∀ result ∈ lost, ¬ (Event.captured (shell command) result).EndsClearly) ∧
      ((session host.traced context).execute command t).2.trace =
        t.trace ++ (lost ++ [last]).map (Event.captured (shell command)) ∧
      ((session host.traced context).execute command t).1 =
        Session.judge context.target.address isTransientRun (lost.length + 1)
          (completionOf last) := by
  have hshell : ∀ t, ∃ result,
      ((completionOf <$> host.traced.capture (shell command)) t).2.trace =
          t.trace ++ [Event.captured (shell command) result] ∧
        ((completionOf <$> host.traced.capture (shell command)) t).1 = completionOf result :=
    fun t => ⟨(host.capture (shell command) t.outside).1, rfl, rfl⟩
  rw [execute_of_isLocalHost host hlocal]
  obtain ⟨lost, last, hattempts, htrace, hresult⟩ :=
    (session host.traced context).withRetry_attempts (fun _ => rfl) isTransientRun hshell t
  refine ⟨lost, last, fun result hmem => ?_, htrace, hresult⟩
  exact (isTransientRun_completionOf_iff command result).mp (hattempts.retried result hmem)

/-- If the first shell ends clearly there is no other one, and it is the answer. -/
lemma execute_of_clear (hlocal : isLocalHost context.target.host = true) {command : String}
    {t : Traced σ Event} {finished : Finished}
    (hended : (host.capture (shell command) t.outside).1 = .ok finished)
    (hclear : ¬ finished.ending.LooksLost) :
    ((session host.traced context).execute command t).1 = .ok (.ofFinished finished) ∧
      ((session host.traced context).execute command t).2.trace =
        t.trace ++ [.captured (shell command) (.ok finished)] := by
  have hresult : ((completionOf <$> host.traced.capture (shell command)) t).1 =
      .ofFinished finished := congrArg completionOf hended
  have htransient : isTransientRun ((completionOf <$> host.traced.capture (shell command)) t).1 =
      false := by
    rw [hresult, ← Bool.not_eq_true, isTransientRun_ofFinished_iff]
    exact hclear
  rw [execute_of_isLocalHost host hlocal, Session.withRetry_eq_ok _ htransient, hresult]
  exact ⟨rfl, congrArg (fun result => t.trace ++ [Event.captured (shell command) result]) hended⟩

/-- A shell that is taken for a failed connection is not the answer if there is no other one. -/
lemma ne_of_looksLost (hlocal : isLocalHost context.target.host = true) {command : String}
    {t : Traced σ Event} {finished : Finished} (hlooks : finished.ending.LooksLost)
    (honce : ((session host.traced context).execute command t).2.trace =
      t.trace ++ [.captured (shell command) (.ok finished)]) :
    ((session host.traced context).execute command t).1 ≠ .ok (.ofFinished finished) := by
  obtain ⟨lost, last, -, htrace, hresult⟩ := execute_attempts host hlocal command t
  obtain ⟨result, hresults, hevent⟩ :=
    List.map_eq_singleton_iff.mp (List.append_cancel_left (htrace.symm.trans honce))
  obtain ⟨-, rfl⟩ : lost = [] ∧ last = result := by
    simpa [List.append_eq_singleton_iff] using hresults
  obtain rfl : last = .ok finished := by injection hevent
  have htransient := (isTransientRun_ofFinished_iff finished).mpr hlooks
  rw [hresult, completionOf, Session.judge, if_pos htransient]
  intro h
  cases h

/-- If all shells of a command end clearly there is only one of them, and it is the answer. -/
lemma execute_of_all_clear (hlocal : isLocalHost context.target.host = true) (command : String)
    (t : Traced σ Event) :
    ∃ events, ((session host.traced context).execute command t).2.trace = t.trace ++ events ∧
      ((∀ e ∈ events, e.EndsClearly) → ∃ finished,
        events = [.captured (shell command) (.ok finished)] ∧
        ((session host.traced context).execute command t).1 = .ok (.ofFinished finished)) := by
  obtain ⟨lost, last, hlost, htrace, hresult⟩ := execute_attempts host hlocal command t
  refine ⟨_, htrace, fun hclear => ?_⟩
  have hevents : ∀ result ∈ lost ++ [last], (Event.captured (shell command) result).EndsClearly :=
    fun result hmem => hclear _ (List.mem_map_of_mem hmem)
  have hnone : lost = [] := List.eq_nil_iff_forall_not_mem.mpr fun result hmem =>
    hlost result hmem (hevents result (List.mem_append_left _ hmem))
  have hlast := hevents last (List.mem_append_right _ List.mem_cons_self)
  have htransient : ¬ isTransientRun (completionOf last) = true := fun h =>
    (isTransientRun_completionOf_iff command last).mp h hlast
  cases last with
  | error fault => exact hlast.elim
  | ok finished =>
    subst hnone
    exact ⟨finished, rfl, hresult.trans (if_neg htransient)⟩

end Ssh

end Remote

/-! ## The steps of a plan -/

namespace Deploy

open Remote.Ssh (isLocalHost session shell)

section Invariant

variable {σ : Type} {plan : Plan} {execute : String → ExceptT Failure (StateM σ) Completion}
  {I : σ → Prop}

/-- What is kept by executing a command line is kept by cleaning up. -/
lemma cleanUp_keeps (h : ∀ command s, I s → I (execute command s).2) (steps : List Step) {s : σ}
    (hs : I s) : I (cleanUp plan execute steps s).2 := by
  induction steps generalizing s with
  | nil => exact hs
  | cons step later ih =>
    rw [cleanUp]
    split
    · exact ih (h _ _ hs)
    · exact ih hs

/-- What is kept by executing a command line is kept by making steps. -/
lemma makeSteps_keeps (h : ∀ command s, I s → I (execute command s).2) (steps : List Step) {s : σ}
    (hs : I s) : I (makeSteps plan execute steps s).2 := by
  induction steps generalizing s with
  | nil => exact hs
  | cons step later ih =>
    have hfirst := h (plan.commandLine step) s hs
    rw [makeSteps, evalExcept_bind]
    cases (execute (plan.commandLine step) s).1 with
    | error failure => exact hfirst
    | ok completion =>
      dsimp only
      split
      · simp only [evalExcept_bind, evalExcept_lift, evalExcept_throw]
        exact cleanUp_keeps h later hfirst
      · rw [evalExcept_bind]
        have hlater := ih hfirst
        cases (makeSteps plan execute later (execute (plan.commandLine step) s).2).1 with
        | ok results => exact hlater
        | error failure => exact hlater

end Invariant

/-- A call was made by one shell, and the way the shell ended is the answer. -/
def ServedBy (call : Call) (e : Event) : Prop :=
  ∃ finished, e = .captured (shell call.command) (.ok finished) ∧
    call.answer = .ok (.ofFinished finished)

variable {σ : Type} (host : Host (StateM σ)) {context : Context}

/-- Behind a trace, recorded calls are accounted for: if all shells since then have ended clearly,
each call was made by one of them. -/
def Accounted (before : List Event) (r : Traced (Traced σ Event) Call) : Prop :=
  ∃ events, r.outside.trace = before ++ events ∧
    ((∀ e ∈ events, e.EndsClearly) → List.Forall₂ ServedBy r.trace events)

/-- Executing a command line for this machine keeps the account. -/
lemma Accounted.recorded (hlocal : isLocalHost context.target.host = true) {before : List Event}
    (command : String) (r : Traced (Traced σ Event) Call) (h : Accounted before r) :
    Accounted before
      (recorded (session host.traced context).execute command r).2 := by
  obtain ⟨events, htrace, hserved⟩ := h
  obtain ⟨more, htrace', hmore⟩ :=
    Remote.Ssh.execute_of_all_clear host hlocal command r.outside
  refine ⟨events ++ more, ?_, fun hclear => ?_⟩
  · rw [← List.append_assoc, ← htrace]
    exact htrace'
  · obtain ⟨hevents, hclear⟩ := List.forall_mem_append.mp hclear
    obtain ⟨finished, rfl, hanswer⟩ := hmore hclear
    rw [recorded_trace]
    exact List.rel_append (hserved hevents) (.cons ⟨finished, rfl, hanswer⟩ .nil)

/-- A plan whose calls were all answered by shells can only be ended by a required step. -/
lemma Course.exists_required {plan : Plan} {steps : List Step} {calls : List Call}
    {events : List Event} {failure : Failure} (h : Course plan steps calls (.error failure))
    (hserved : List.Forall₂ ServedBy calls events) :
    ∃ step ∈ steps, step.mode = .required ∧
      ∃ c : Completion, c.success = false ∧ failure = step.failure c := by
  have hanswered : ∀ call ∈ calls, ∃ finished, call.answer = .ok (.ofFinished finished) := by
    intro call hcall
    obtain ⟨n, hn, rfl⟩ := List.getElem_of_mem hcall
    obtain ⟨finished, -, hanswer⟩ := hserved.get hn (hserved.length_eq ▸ hn)
    exact ⟨finished, hanswer⟩
  cases h with
  | failed made step completion later cleanups _ split passed required failed cleaned called code
      cause =>
    refine ⟨step, ?_, required, completion, failed, cause⟩
    rw [split]
    exact List.mem_append_right _ List.mem_cons_self
  | lost made step later _ split passed called connection =>
    have hlast : (⟨plan.commandLine step, .error failure⟩ : Call) ∈ calls := by
      rw [called]
      exact List.mem_append_right _ List.mem_cons_self
    obtain ⟨finished, hanswer⟩ := hanswered _ hlast
    cases hanswer

/-- Running a plan makes its steps. -/
lemma run_eval {τ : Type} (plan : Plan) (execute : String → ExceptT Failure (StateM τ) Completion)
    (s : τ) :
    plan.run execute s = ((makeSteps plan execute plan.steps s).1.map Report.mk,
      (makeSteps plan execute plan.steps s).2) := by
  rw [← evalExcept_map, map_eq_pure_bind]
  rfl

/-- A deployment to this machine takes one of the courses, and if all its shells end clearly there
is one of them for each call. -/
lemma run_served (hlocal : isLocalHost context.target.host = true) (plan : Plan)
    (t : Traced σ Event) :
    ∃ calls events,
      (plan.run (session host.traced context).execute t).2.trace = t.trace ++ events ∧
      Course plan plan.steps calls (plan.run (session host.traced context).execute t).1 ∧
      ((∀ e ∈ events, e.EndsClearly) → List.Forall₂ ServedBy calls events) := by
  obtain ⟨calls, htrace, hcourse⟩ :=
    makeSteps_course plan (session host.traced context).execute
      (fun _ _ _ => Remote.Session.execute_error _) plan.steps ⟨t, []⟩
  obtain ⟨events, hevents, hserved⟩ : Accounted t.trace (makeSteps plan
      (recorded (session host.traced context).execute) plan.steps ⟨t, []⟩).2 :=
    makeSteps_keeps (Accounted.recorded host hlocal) plan.steps
      ⟨[], (List.append_nil _).symm, fun _ => .nil⟩
  obtain ⟨hresult, hreached⟩ :=
    run_recorded_faithful plan (session host.traced context).execute ⟨t, []⟩
  rw [evalExcept_run, evalExcept_run, run_eval plan (recorded _)] at hresult hreached
  refine ⟨calls, events, ?_, ?_, ?_⟩
  · rw [← hreached]
    exact hevents
  · rw [← hresult]
    exact hcourse
  · rw [← htrace.trans (List.nil_append calls)]
    exact hserved

/-- A command for this machine whose shell was started is run by this one shell, and the way the
shell ends is the answer, exactly if it does not end in one of the ways that are taken for a failed
connection. If all shells of a deployment end clearly, each call of the deployment is made by one
shell, and only a required step that has failed can end the plan. -/
theorem local_commands_run_once (hlocal : isLocalHost context.target.host = true) :
    (∀ (command : String) (t : Traced σ Event) (finished : Finished),
      (host.capture (shell command) t.outside).1 = .ok finished →
      (((session host.traced context).execute command t).1 = .ok (.ofFinished finished) ∧
        ((session host.traced context).execute command t).2.trace =
          t.trace ++ [.captured (shell command) (.ok finished)] ↔
        ¬ finished.ending.LooksLost)) ∧
    ∀ (plan : Plan) (t : Traced σ Event), ∃ calls events,
      (plan.run (session host.traced context).execute t).2.trace = t.trace ++ events ∧
      Course plan plan.steps calls (plan.run (session host.traced context).execute t).1 ∧
      ((∀ e ∈ events, e.EndsClearly) → List.Forall₂ ServedBy calls events ∧
        ∀ failure, (plan.run (session host.traced context).execute t).1 = .error failure →
          ∃ step ∈ plan.steps, step.mode = .required ∧
            ∃ c : Completion, c.success = false ∧ failure = step.failure c) := by
  constructor
  · intro command t finished hended
    refine ⟨fun ⟨hanswer, htrace⟩ hlooks => ?_, Remote.Ssh.execute_of_clear host hlocal hended⟩
    exact Remote.Ssh.ne_of_looksLost host hlocal hlooks htrace hanswer
  · intro plan t
    obtain ⟨calls, events, htrace, hcourse, hserved⟩ := run_served host hlocal plan t
    refine ⟨calls, events, htrace, hcourse, fun hclear => ⟨hserved hclear, ?_⟩⟩
    intro failure hfailed
    rw [hfailed] at hcourse
    exact hcourse.exists_required (hserved hclear)

/-- A machine on which every program ends at once, in one and the same way. -/
def endingHost (ending : Ending) : Host (StateM Unit) :=
  { Archive.bareHost with capture := fun _ => pure (.ok ⟨[], [], ending⟩) }

/-- A release file for this machine. -/
def releaseHere : ReleaseFile :=
  { Archive.releaseInto "/srv" with
    remote := { host := "localhost", user := "u", workDir := "/srv" } }

/-- The context of this release file. -/
def contextHere : Context :=
  Context.assembled releaseHere "." none []

/-- A command that fails with exit code 1 is run once, and its failure is the answer. -/
theorem local_command_fails_once :
    isLocalHost contextHere.target.host = true ∧
      ((session (endingHost (.exited 1)).traced contextHere).execute "false" ⟨(), []⟩).1 =
        .ok (.ofFinished ⟨[], [], .exited 1⟩) ∧
      ((session (endingHost (.exited 1)).traced contextHere).execute "false" ⟨(), []⟩).2.trace =
        [.captured (shell "false") (.ok ⟨[], [], .exited 1⟩)] := by
  have hlocal : isLocalHost contextHere.target.host = true := by decide
  have hclear : ¬ (Ending.exited 1).LooksLost := by
    rintro (h | ⟨signal, h⟩) <;> cases h
  have honce := ((local_commands_run_once (endingHost (.exited 1)) hlocal).1 "false" ⟨(), []⟩
    ⟨[], [], .exited 1⟩ rfl).mpr hclear
  exact ⟨hlocal, honce⟩

/-- A command that fails with exit code 255 is run as often as the budget allows and is said not to
have reached the host. So the first step of a plan, which may fail, ends the plan. -/
theorem local_command_runs_three_times :
    Context.ofReleaseFile (endingHost (.exited 255)) releaseHere () = (.ok contextHere, ()) ∧
      isLocalHost contextHere.target.host = true ∧
      (session (endingHost (.exited 255)).traced contextHere).execute "exit 255" ⟨(), []⟩ =
        (.error (Cause.unreachable "u@localhost" 3 255 ""),
          ⟨(), List.replicate 3 (.captured (shell "exit 255") (.ok ⟨[], [], .exited 255⟩))⟩) ∧
      (Plan.ofContext contextHere).steps.head?.map Step.mode = some .bestEffort ∧
      ((Plan.ofContext contextHere).run
          (session (endingHost (.exited 255)) contextHere).execute ()).1 =
        .error (Cause.unreachable "u@localhost" 3 255 "") :=
  ⟨rfl, by decide, rfl, rfl, rfl⟩

end Deploy

end Shipyard
