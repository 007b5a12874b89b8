import Shipyard.CommandLine.Program
import Shipyard.Proofs.Archive.Handoff
import Shipyard.Proofs.Release.Verdict

/-!
# The exit code

The exit code of a release and of a check says two things at once: that the command came to its end,
and that no probe has failed. It is 0 if both are so and 1 otherwise. Between the lines of the
report and the exit code there are the tally, the verdict, and the report of the command, and each
of them is shown to hand on what it was given.

The system is told the exit code in one byte, and greater codes are cut off. The exit codes of runs
are all small enough to be told as they are.
-/

namespace Shipyard.CommandLine

open Conformance (Case Entry)
open Release (Results Tells)

variable {σ : Type}

/-- Whether a command probes the service: a release does, and a check. -/
def Command.isProbing : Command → Bool
  | .release _ _ => true
  | .test _ _ => true
  | _ => false

/-- An order for a release or a check is completed with results: the release file is loaded, the
identities, the cases and the client are there, no stage fails, and the results are those of the
check that was made, if one was made. -/
inductive Completes (host : Host (StateM σ)) (service : Http.Service (StateM σ)) (order : Order)
    (s : σ) : List Entry → Prop where
  | release {options : Release.Options} {selection : Selection} {context : Context}
      {setting : Release.Setting (StateM σ)} {report : Release.Report}
      {records : List Release.StageRecord} {results : List Entry} {s₁ s₂ s₃ : σ}
      (command : order.command = .release options selection)
      (loaded : loadContext host order.config s = (.ok context, s₁))
      (prepared : prepare host service context selection s₁ = (.ok setting, s₂))
      (made : Release.make setting options s₂ = ((.ok report, records), s₃))
      (come : Results setting report.test results) : Completes host service order s results
  | test {selection : Selection} {settles : Bool} {context : Context}
      {setting : Release.Setting (StateM σ)} {report : Release.TestReport}
      {records : List Release.StageRecord} {results : List Entry} {s₁ s₂ s₃ : σ}
      (command : order.command = .test selection settles)
      (loaded : loadContext host order.config s = (.ok context, s₁))
      (prepared : prepare host service (withSettling context settles) selection s₁ =
        (.ok setting, s₂))
      (verified : Release.verify setting s₂ = ((.ok report, records), s₃))
      (come : Results setting (some report) results) : Completes host service order s results

variable {host : Host (StateM σ)} {service : Http.Service (StateM σ)}

/-! ## What is achieved -/

/-- A release that is prepared and made comes to its report and the exit code of its verdict. -/
lemma runRelease_of_ok {context : Context} {options : Release.Options} {selection : Selection}
    {setting : Release.Setting (StateM σ)} {report : Release.Report}
    {records : List Release.StageRecord} {s s₁ s₂ : σ}
    (prepared : prepare host service context selection s = (.ok setting, s₁))
    (made : Release.make setting options s₁ = ((.ok report, records), s₂)) :
    runRelease host service context options selection s =
      (.ok ⟨.object [("command", .text "release"), ("report", report.toJson)],
        report.verdict.exitCode⟩, s₂) := by
  simp only [runRelease, evalExcept_bind, evalExcept_lift, evalExcept_mk, eval_pure,
    evalExcept_pure, prepared, made]

/-- A check that is prepared and made comes to its report and the exit code of its verdict. -/
lemma runTest_of_ok {context : Context} {selection : Selection} {settles : Bool}
    {setting : Release.Setting (StateM σ)} {report : Release.TestReport}
    {records : List Release.StageRecord} {s s₁ s₂ : σ}
    (prepared : prepare host service (withSettling context settles) selection s =
      (.ok setting, s₁))
    (verified : Release.verify setting s₁ = ((.ok report, records), s₂)) :
    runTest host service context selection settles s =
      (.ok ⟨.object
        [ ("command", .text "test"), ("baseUrl", .text context.api.baseUrl),
          ("stages", .array (records.map Release.StageRecord.toJson)),
          ("report", report.toJson) ], report.verdict.exitCode⟩, s₂) := by
  simp only [runTest, evalExcept_bind, evalExcept_lift, evalExcept_mk, eval_pure,
    evalExcept_pure, prepared, verified]

variable {order : Order} {context : Context} {s s₁ : σ}

/-- A release is carried out with the context that was loaded. -/
lemma carryOut_release {options : Release.Options} {selection : Selection}
    (command : order.command = .release options selection)
    (loaded : loadContext host order.config s = (.ok context, s₁)) :
    carryOut host service order s = runRelease host service context options selection s₁ := by
  simp only [carryOut, evalExcept_bind, loaded, command]

/-- A check is carried out with the context that was loaded. -/
lemma carryOut_test {selection : Selection} {settles : Bool}
    (command : order.command = .test selection settles)
    (loaded : loadContext host order.config s = (.ok context, s₁)) :
    carryOut host service order s = runTest host service context selection settles s₁ := by
  simp only [carryOut, evalExcept_bind, loaded, command]

/-- An order that is completed with results achieves something whose exit code tells of them. -/
lemma Completes.carryOut_tells {results : List Entry}
    (h : Completes host service order s results) : ∃ achievement s',
      carryOut host service order s = (.ok achievement, s') ∧
        Tells achievement.exitCode results := by
  cases h with
  | release command loaded prepared made come =>
    obtain ⟨hverdict, hjudged⟩ := Release.make_judged made
    have htells := come.verdict_tells hjudged
    rw [← hverdict] at htells
    exact ⟨_, _, (carryOut_release command loaded).trans (runRelease_of_ok prepared made), htells⟩
  | @test _ _ _ setting report _ _ _ _ _ command loaded prepared verified come =>
    have hjudged : ∀ checked, some report = some checked → Release.Judged setting checked := by
      rintro _ ⟨⟩
      exact Release.verify_judged verified
    exact ⟨_, _, (carryOut_test command loaded).trans (runTest_of_ok prepared verified),
      come.verdict_tells hjudged⟩

/-- What is achieved has an exit code that tells of any results with which the order completes. -/
lemma Completes.tells {results : List Entry} {achievement : Achievement} {s' : σ}
    (h : Completes host service order s results)
    (hcarried : carryOut host service order s = (.ok achievement, s')) :
    Tells achievement.exitCode results := by
  obtain ⟨achievement', s'', hcarried', htells⟩ := h.carryOut_tells
  rw [hcarried] at hcarried'
  cases hcarried'
  exact htells

/-- An order for a release or a check that comes to an achievement is completed with results. -/
lemma exists_completes {achievement : Achievement} {s' : σ}
    (hprobing : order.command.isProbing = true)
    (h : carryOut host service order s = (.ok achievement, s')) :
    ∃ results, Completes host service order s results := by
  obtain ⟨context, s₁, loaded, -⟩ := exists_of_bind_eq_ok h
  cases command : order.command with
  | release options selection =>
    rw [carryOut_release command loaded] at h
    obtain ⟨setting, s₂, prepared, h⟩ := exists_of_bind_eq_ok h
    obtain ⟨⟨result, records⟩, s₃, made, h⟩ := exists_of_liftBind_eq_ok h
    obtain ⟨report, rfl⟩ := exists_of_mkBind_eq_ok h
    obtain ⟨results, come⟩ := Release.exists_results (Release.make_judged made).2
    exact ⟨results, .release command loaded prepared made come⟩
  | test selection settles =>
    rw [carryOut_test command loaded] at h
    obtain ⟨setting, s₂, prepared, h⟩ := exists_of_bind_eq_ok h
    obtain ⟨⟨result, records⟩, s₃, verified, h⟩ := exists_of_liftBind_eq_ok h
    obtain ⟨report, rfl⟩ := exists_of_mkBind_eq_ok h
    obtain ⟨⟨s₄, ran⟩, -⟩ := Release.verify_judged verified
    exact ⟨_, .test command loaded prepared verified (.checked s₄ ran)⟩
  | builder =>
    rw [command] at hprobing
    cases hprobing
  | plan =>
    rw [command] at hprobing
    cases hprobing

/-! ## From a result to the exit code -/

/-- Whatever is achieved, the exit code is 0 or 1. -/
lemma exitCode_le_one {achievement : Achievement} {s' : σ}
    (h : carryOut host service order s = (.ok achievement, s')) : achievement.exitCode ≤ 1 := by
  have hprobing : order.command.isProbing = true → achievement.exitCode ≤ 1 := by
    intro hprobing
    obtain ⟨results, hcompletes⟩ := exists_completes hprobing h
    have htells := (hcompletes.tells h).2
    omega
  obtain ⟨context, s₁, loaded, hrest⟩ := exists_of_bind_eq_ok h
  cases command : order.command with
  | release options selection => exact hprobing (by rw [command]; rfl)
  | test selection settles => exact hprobing (by rw [command]; rfl)
  | builder =>
    rw [command] at hrest
    obtain ⟨decision, s₂, decided, hshown⟩ := exists_of_bind_eq_ok hrest
    cases hshown
    exact Nat.zero_le 1
  | plan =>
    rw [command] at hrest
    cases hrest
    exact Nat.zero_le 1

/-- The exit code of a run is 2 at most. -/
lemma run_exitCode_le_two (arguments : List String) :
    (run host service arguments s).1.exitCode ≤ 2 := by
  cases hread : read arguments with
  | error stop =>
    simp only [run, hread, eval_pure]
    cases stop <;> decide
  | ok order =>
    obtain ⟨⟨result, s'⟩, hcarried⟩ : ∃ ran, carryOut host service order s = ran := ⟨_, rfl⟩
    simp only [run, hread, eval_bind, eval_pure, evalExcept_run, hcarried]
    cases result with
    | ok achievement => exact (exitCode_le_one hcarried).trans (Nat.le_succ 1)
    | error failure => exact Nat.le_succ 1

/-- The system is told an exit code that is cut off at 0 and at the greatest byte. -/
lemma exitStatus_toNat (code : Int) : (exitStatus code).toNat = min code.toNat 255 := by
  unfold exitStatus
  split_ifs with hnegative hgreat
  · have hzero : code.toNat = 0 := Int.toNat_of_nonpos hnegative
    rw [hzero]
    rfl
  · have hgreat' : 255 ≤ code.toNat := by omega
    rw [Nat.min_eq_right hgreat']
    rfl
  · have hless : code.toNat < 255 := by omega
    rw [UInt8.toNat_ofNat', Nat.mod_eq_of_lt (hless.trans (by decide)), Nat.min_eq_left hless.le]

/-- The system is told the exit code of the run, with any arguments. -/
theorem exitStatus_run (arguments : List String) :
    (exitStatus (run host service arguments s).1.exitCode).toNat =
      (run host service arguments s).1.exitCode := by
  have hle : (run host service arguments s).1.exitCode ≤ 2 := run_exitCode_le_two arguments
  rw [exitStatus_toNat, Int.toNat_natCast]
  omega

end Shipyard.CommandLine
