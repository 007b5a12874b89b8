import Mathlib.Data.List.Basic
import Mathlib.Data.List.Forall2
import Shipyard.Proofs.Remote.Attempts
import Shipyard.Proofs.Text.Blank
import Shipyard.Proofs.Trace.Faithful

/-!
# The course of a deployment

A plan is made by executing the command lines of its steps. What is executed, with the answers, is
the course of the deployment. There are three ways that it may take: every step is made, or a
required step fails and the clean-up steps behind it follow, or the host is out of reach and nothing
follows.

The proof runs along the steps. A step that does not end the plan is put in front of the course that
the steps behind it take, and this never turns one of the three ways into another.
-/

namespace Shipyard.Deploy

/-- A command line that was executed, and what came of it. -/
structure Call where
  command : String
  answer : Except Failure Completion

variable {σ : Type}

/-- Something that runs commands, with its calls put on a trace. -/
def recorded (execute : String → ExceptT Failure (StateM σ) Completion) (command : String) :
    ExceptT Failure (StateM (Traced σ Call)) Completion :=
  ExceptT.mk (Traced.noting (Call.mk command) (execute command))

/-- A call is put on the trace, with its answer. -/
lemma recorded_trace (execute : String → ExceptT Failure (StateM σ) Completion) (command : String)
    (t : Traced σ Call) :
    (recorded execute command t).2.trace =
      t.trace ++ [⟨command, (recorded execute command t).1⟩] := rfl

/-! ## Courses -/

/-- A step that was made, with the way it ended. -/
abbrev Made : Type := Step × Completion

/-- The call of a step that was made. -/
def Plan.call (plan : Plan) (made : Made) : Call :=
  ⟨plan.commandLine made.1, .ok made.2⟩

/-- Whether a step that was made has something to say about the state of the service. -/
def Made.speaks (made : Made) : Bool :=
  made.1.mode = .observational && Text.trim made.2.stdout != ""

/-- A report tells of steps that were made: of each its name, its mode and how it ended, and of the
last one that has something to say what it said. -/
structure Report.TellsOf (report : Report) (made : List Made) : Prop where
  steps : List.Forall₂ (fun (m : Made) result => result.name = m.1.name ∧ result.mode = m.1.mode ∧
    result.success = m.2.success ∧ result.exitCode = m.2.exitCode) made report.steps
  status : report.status =
    ((made.filter Made.speaks).getLast?).map fun m => Text.trim m.2.stdout

/-- What may become of the steps of a plan: the calls that are made and what they come to. -/
inductive Course (plan : Plan) (steps : List Step) (calls : List Call) :
    Except Failure Report → Prop where
  /-- Every step is made, and no required one fails. -/
  | completed (made : List Made) (report : Report)
      (all : steps = made.map Prod.fst)
      (passed : ∀ m ∈ made, m.1.mode = .required → m.2.success = true)
      (called : calls = made.map plan.call)
      (tells : report.TellsOf made) :
      Course plan steps calls (.ok report)
  /-- A required step fails, and the clean-up steps behind it follow. -/
  | failed (made : List Made) (step : Step) (completion : Completion) (later : List Step)
      (cleanups : List Call) (failure : Failure)
      (split : steps = made.map Prod.fst ++ step :: later)
      (passed : ∀ m ∈ made, m.1.mode = .required → m.2.success = true)
      (required : step.mode = .required) (failed : completion.success = false)
      (cleaned : cleanups.map Call.command =
        (later.filter (·.name = cleanupStep)).map plan.commandLine)
      (called : calls = made.map plan.call ++ plan.call (step, completion) :: cleanups)
      (code : failure.code = "deploy.step_failed")
      (cause : failure = Cause.stepFailed step.name completion.exitCode completion.errorText) :
      Course plan steps calls (.error failure)
  /-- The host is out of reach when a step is to be made, and nothing follows. -/
  | lost (made : List Made) (step : Step) (later : List Step) (failure : Failure)
      (split : steps = made.map Prod.fst ++ step :: later)
      (passed : ∀ m ∈ made, m.1.mode = .required → m.2.success = true)
      (called : calls = made.map plan.call ++ [⟨plan.commandLine step, .error failure⟩])
      (connection : failure.isConnectionFailure = true) :
      Course plan steps calls (.error failure)

/-! ## What a report tells -/

/-- An observational step reports what it said, if it said anything. -/
lemma Step.result_output (made : Made) :
    (made.1.result made.2).output =
      if made.speaks then some (Text.trim made.2.stdout) else none := by
  have hblank : Text.isBlankText made.2.stdout = false ↔ Text.trim made.2.stdout ≠ "" := by
    rw [ne_eq, Text.trim_eq_empty_iff, Bool.not_eq_true]
  unfold Step.result Made.speaks
  simp only [hblank, Bool.and_eq_true, decide_eq_true_eq, bne_iff_ne]

namespace Report.TellsOf

/-- Nothing was made and nothing is told. -/
lemma nil : Report.TellsOf ⟨[]⟩ [] := ⟨.nil, rfl⟩

/-- A report that is begun with one more step. What that step said is the state of the service only
if none of the others says anything. -/
lemma cons {results : List StepResult} {made : List Made} (h : Report.TellsOf ⟨results⟩ made)
    (m : Made) : Report.TellsOf ⟨m.1.result m.2 :: results⟩ (m :: made) where
  steps := .cons ⟨rfl, rfl, rfl, rfl⟩ h.steps
  status := by
    have hstatus := h.status
    unfold Report.status at hstatus ⊢
    dsimp only at hstatus ⊢
    rw [List.filterMap_cons, Step.result_output, List.filter_cons]
    cases m.speaks with
    | false => exact hstatus
    | true =>
      rw [if_pos rfl, if_pos rfl]
      dsimp only
      rw [List.getLast?_cons, List.getLast?_cons, hstatus, Option.map_some]
      cases (made.filter Made.speaks).getLast? <;> rfl

end Report.TellsOf

/-! ## Making the steps -/

variable {plan : Plan}

/-- Steps of which the first does not end the plan take the course of the steps behind it. -/
lemma Course.cons {step : Step} {completion : Completion} {later : List Step} {calls : List Call}
    {results : Except Failure (List StepResult)} (hfatal : step.isFatal completion = false)
    (h : Course plan later calls (results.map Report.mk)) :
    Course plan (step :: later) (plan.call (step, completion) :: calls)
      ((results.map (step.result completion :: ·)).map Report.mk) := by
  have hstep : step.mode = .required → completion.success = true := by
    intro hrequired
    simpa [Step.isFatal, hrequired] using hfatal
  have hpassed : ∀ made : List Made, (∀ m ∈ made, m.1.mode = .required → m.2.success = true) →
      ∀ m ∈ (step, completion) :: made, m.1.mode = .required → m.2.success = true := by
    intro made hmade m hm
    rcases List.mem_cons.mp hm with rfl | hm
    · exact hstep
    · exact hmade m hm
  cases results with
  | ok results =>
    cases h with
    | completed made _ all passed called tells =>
      refine .completed ((step, completion) :: made) _ ?_ (hpassed made passed) ?_
        (tells.cons (step, completion))
      · rw [all, List.map_cons]
      · rw [called, List.map_cons]
  | error failure =>
    cases h with
    | failed made step' completion' later' cleanups _ split passed required failed cleaned called
        code cause =>
      refine .failed ((step, completion) :: made) step' completion' later' cleanups failure ?_
        (hpassed made passed) required failed cleaned ?_ code cause
      · rw [split, List.map_cons, List.cons_append]
      · rw [called, List.map_cons, List.cons_append]
    | lost made step' later' _ split passed called connection =>
      refine .lost ((step, completion) :: made) step' later' failure ?_ (hpassed made passed) ?_
        connection
      · rw [split, List.map_cons, List.cons_append]
      · rw [called, List.map_cons, List.cons_append]

variable (plan) (execute : String → ExceptT Failure (StateM σ) Completion)

/-- Cleaning up executes the clean-up steps in order, whatever becomes of them. -/
lemma cleanUp_calls (steps : List Step) (t : Traced σ Call) :
    ∃ cleanups, (cleanUp plan (recorded execute) steps t).2.trace = t.trace ++ cleanups ∧
      cleanups.map Call.command =
        (steps.filter (·.name = cleanupStep)).map plan.commandLine := by
  induction steps generalizing t with
  | nil => exact ⟨[], (List.append_nil _).symm, rfl⟩
  | cons step later ih =>
    by_cases hname : step.name = cleanupStep
    · obtain ⟨cleanups, htrace, hcommands⟩ := ih (recorded execute (plan.commandLine step) t).2
      refine ⟨⟨plan.commandLine step, (recorded execute (plan.commandLine step) t).1⟩ :: cleanups,
        ?_, ?_⟩
      · simp only [cleanUp, if_pos hname, eval_bind, evalExcept_run]
        rw [htrace, recorded_trace, List.append_assoc, List.singleton_append]
      · rw [List.map_cons, hcommands, List.filter_cons_of_pos (by simpa using hname),
          List.map_cons]
    · obtain ⟨cleanups, htrace, hcommands⟩ := ih t
      refine ⟨cleanups, ?_, ?_⟩
      · rw [cleanUp, if_neg hname]
        exact htrace
      · rw [hcommands, List.filter_cons_of_neg (by simpa using hname)]

/-- Making steps takes one of the courses. -/
lemma makeSteps_course (hlost : ∀ command s failure,
      (execute command s).1 = .error failure → failure.isConnectionFailure = true)
    (steps : List Step) (t : Traced σ Call) :
    ∃ calls, (makeSteps plan (recorded execute) steps t).2.trace = t.trace ++ calls ∧
      Course plan steps calls
        ((makeSteps plan (recorded execute) steps t).1.map Report.mk) := by
  induction steps generalizing t with
  | nil =>
    refine ⟨[], (List.append_nil _).symm, .completed [] _ rfl ?_ rfl .nil⟩
    intro m hm
    cases hm
  | cons step later ih =>
    have htrace := recorded_trace execute (plan.commandLine step) t
    rw [makeSteps, evalExcept_bind]
    cases hanswer : (recorded execute (plan.commandLine step) t).1 with
    | error failure =>
      rw [hanswer] at htrace
      refine ⟨_, htrace, .lost [] step later failure rfl ?_ rfl ?_⟩
      · intro m hm
        cases hm
      · exact hlost _ _ _ hanswer
    | ok completion =>
      rw [hanswer] at htrace
      dsimp only
      cases hfatal : step.isFatal completion with
      | true =>
        obtain ⟨cleanups, htrace', hcommands⟩ :=
          cleanUp_calls plan execute later (recorded execute (plan.commandLine step) t).2
        obtain ⟨hrequired, hfailed⟩ : step.mode = .required ∧ completion.success = false := by
          simpa [Step.isFatal] using hfatal
        rw [if_pos rfl]
        simp only [evalExcept_bind, evalExcept_lift, evalExcept_throw]
        refine ⟨plan.call (step, completion) :: cleanups, ?_,
          .failed [] step completion later cleanups _ rfl ?_ hrequired hfailed hcommands rfl rfl
            rfl⟩
        · rw [htrace', htrace, List.append_assoc]
          rfl
        · intro m hm
          cases hm
      | false =>
        obtain ⟨calls, htrace', hcourse⟩ := ih (recorded execute (plan.commandLine step) t).2
        rw [if_neg Bool.false_ne_true, evalExcept_bind]
        have htrace'' : (makeSteps plan (recorded execute) later
            (recorded execute (plan.commandLine step) t).2).2.trace =
              t.trace ++ plan.call (step, completion) :: calls := by
          rw [htrace', htrace, List.append_assoc]
          rfl
        have hcourse' := hcourse.cons hfatal
        cases hresults : (makeSteps plan (recorded execute) later
            (recorded execute (plan.commandLine step) t).2).1 with
        | ok results =>
          rw [hresults] at hcourse'
          exact ⟨_, htrace'', hcourse'⟩
        | error failure =>
          rw [hresults] at hcourse'
          exact ⟨_, htrace'', hcourse'⟩

/-- A deployment whose calls are recorded is the deployment without a record. -/
lemma run_recorded_faithful :
    Traced.Faithful (plan.run (recorded execute)).run (plan.run execute).run :=
  Plan.run_alike fun _ =>
    (Traced.faithfulness σ Call).except_alike_iff.mpr (Traced.noting_faithful _ _)

end Shipyard.Deploy
