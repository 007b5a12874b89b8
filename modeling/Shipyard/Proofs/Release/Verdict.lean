import Shipyard.Proofs.Conformance.Count
import Shipyard.Proofs.Release.Course

/-!
# The verdict of a release

A check of the service that has passed all its stages holds the report of one run of the suite, and
the verdict on it. The verdict of a release is that of its check. Without a check there are no
results, and nothing is held against the release.
-/

namespace Shipyard.Release

open Conformance (Entry Tally)

variable {σ α : Type}

/-! ## Stages that have passed -/

/-- A stage has passed only if what it does has succeeded. -/
lemma exists_of_inStage_eq_ok {host : Host (StateM σ)} {stage : Stage}
    {action : ExceptT Failure (StateM σ) α} {a : α} {records records' : List StageRecord}
    {s s' : σ} (h : inStage host stage action records s = ((.ok a, records'), s')) :
    ∃ s₁ s₂, action s₁ = (.ok a, s₂) := by
  obtain ⟨⟨start, s₁⟩, hstart⟩ : ∃ read, host.nanoseconds s = read := ⟨_, rfl⟩
  obtain ⟨⟨result, s₂⟩, haction⟩ : ∃ done, action s₁ = done := ⟨_, rfl⟩
  rw [inStage_run stage hstart haction rfl records] at h
  cases result with
  | ok b =>
    cases h
    exact ⟨s₁, s₂, haction⟩
  | error failure => cases h

/-- A group of stages that was not left out has passed only if it was made. -/
lemma exists_of_unlessSkipped_eq_ok {isSkipped : Bool} {stages : List Stage}
    {action : Run (StateM σ) α} {made : Option α} {records records' : List StageRecord} {s s' : σ}
    (h : unlessSkipped isSkipped stages action records s = ((.ok made, records'), s')) {a : α}
    (ha : made = some a) : ∃ records₁ s₁, action records s = ((.ok a, records₁), s₁) := by
  cases isSkipped with
  | true =>
    cases h
    cases ha
  | false =>
    have hbind : (action >>= fun b => pure (some b)) records s = ((.ok made, records'), s') := h
    obtain ⟨b, records₁, s₁, hmade, hpure⟩ := exists_of_bindRun_eq_ok hbind
    cases hpure
    cases ha
    exact ⟨_, _, hmade⟩

/-! ## Results -/

variable {setting : Setting (StateM σ)} {options : Options}

/-- The results of a check that may have been made: there are none without a check, and otherwise
they are the lines of the report of a run of the suite. -/
inductive Results (setting : Setting (StateM σ)) : Option TestReport → List Entry → Prop where
  | unchecked : Results setting none []
  | checked {test : TestReport} (s : σ)
      (ran : test.conformance = (Conformance.run setting.service setting.context.api setting.cases
        setting.identities s).1) : Results setting (some test) test.conformance.entries

/-- A check of the service holds the report of a run of the suite, and the verdict on its tally. -/
def Judged (setting : Setting (StateM σ)) (test : TestReport) : Prop :=
  (∃ s, test.conformance = (Conformance.run setting.service setting.context.api setting.cases
    setting.identities s).1) ∧ test.verdict = test.conformance.tally.verdict

/-- A check of the service that has passed its stages is judged by its run of the suite. -/
lemma checkService_judged {test : TestReport} {records records' : List StageRecord} {s s' : σ}
    (h : checkService setting records s = ((.ok test, records'), s')) : Judged setting test := by
  unfold checkService at h
  obtain ⟨health, records₁, s₁, -, h⟩ := exists_of_bindRun_eq_ok h
  obtain ⟨conformance, records₂, s₂, hconformance, h⟩ := exists_of_bindRun_eq_ok h
  cases h
  obtain ⟨s₃, s₄, hran⟩ := exists_of_inStage_eq_ok hconformance
  rw [evalExcept_lift] at hran
  cases hran
  exact ⟨⟨s₃, rfl⟩, rfl⟩

/-- The check in groups of stages that have passed is judged by its run of the suite. -/
lemma groups_judged {made : Groups} {records records' : List StageRecord} {s s' : σ}
    (h : groups setting options records s = ((.ok made, records'), s')) {test : TestReport}
    (htest : made.test = some test) : Judged setting test := by
  unfold groups at h
  obtain ⟨image, records₁, s₁, -, h⟩ := exists_of_bindRun_eq_ok h
  obtain ⟨service, records₂, s₂, -, h⟩ := exists_of_bindRun_eq_ok h
  obtain ⟨checked, records₃, s₃, hchecked, h⟩ := exists_of_bindRun_eq_ok h
  cases h
  obtain ⟨records₄, s₄, hcheck⟩ := exists_of_unlessSkipped_eq_ok hchecked htest
  exact checkService_judged hcheck

/-- The verdict of a release without a check is the one on no results, and otherwise it is the one
of its check, which is judged by its run of the suite. -/
lemma make_judged {report : Report} {records : List StageRecord} {s s' : σ}
    (h : make setting options s = ((.ok report, records), s')) :
    report.verdict = (report.test.map TestReport.verdict).getD Tally.empty.verdict ∧
      ∀ test, report.test = some test → Judged setting test := by
  obtain ⟨⟨startedAt, s₀⟩, hstart⟩ : ∃ read, setting.host.timestamp s = read := ⟨_, rfl⟩
  obtain ⟨⟨⟨result, records₁⟩, s₁⟩, hgroups⟩ : ∃ ran, groups setting options [] s₀ = ran :=
    ⟨_, rfl⟩
  cases result with
  | ok made =>
    rw [make_of_ok hstart hgroups rfl] at h
    cases h
    exact ⟨rfl, fun test htest => groups_judged hgroups htest⟩
  | error failure =>
    rw [make_of_error hstart hgroups] at h
    cases h

/-- A check that was made on its own is judged by its run of the suite. -/
lemma verify_judged {test : TestReport} {records : List StageRecord} {s s' : σ}
    (h : verify setting s = ((.ok test, records), s')) : Judged setting test := by
  obtain ⟨⟨⟨result, records₁⟩, s₁⟩, hcheck⟩ : ∃ ran, checkService setting [] s = ran := ⟨_, rfl⟩
  have hverify : verify setting s = ((result.mapError aborted, records₁), s₁) := by
    change (((checkService setting [] s).1.1.mapError aborted, (checkService setting [] s).1.2),
      (checkService setting [] s).2) = _
    rw [hcheck]
  rw [hverify] at h
  cases result with
  | ok checked =>
    cases h
    exact checkService_judged hcheck
  | error failure => cases h

/-! ## Verdicts -/

/-- A check that is judged by its run of the suite has results. -/
lemma exists_results {test : Option TestReport}
    (h : ∀ checked, test = some checked → Judged setting checked) :
    ∃ results, Results setting test results := by
  cases test with
  | none => exact ⟨[], .unchecked⟩
  | some checked =>
    obtain ⟨⟨s, ran⟩, -⟩ := h checked rfl
    exact ⟨_, .checked s ran⟩

/-- An exit code tells of results: it is 0 exactly if none of them says that a probe has failed, and
1 otherwise. -/
def Tells (exitCode : Nat) (results : List Entry) : Prop :=
  (exitCode = 0 ↔ ∀ e ∈ results, e.hasFailed = false) ∧ (exitCode = 0 ∨ exitCode = 1)

/-- The verdict tells of the results. -/
lemma Results.verdict_tells {test : Option TestReport} {results : List Entry}
    (hresults : Results setting test results)
    (h : ∀ checked, test = some checked → Judged setting checked) :
    Tells ((test.map TestReport.verdict).getD Tally.empty.verdict).exitCode results := by
  cases hresults with
  | unchecked => exact ⟨iff_of_true rfl (List.forall_mem_nil _), .inl rfl⟩
  | @checked checked s ran =>
    have hreport : checked.conformance = .ofEntries checked.conformance.entries := by
      rw [ran]
      simp only [Conformance.run, eval_bind, eval_pure, Conformance.Report.ofEntries_entries]
    rw [Option.map_some, Option.getD_some, (h checked rfl).2]
    refine ⟨?_, Conformance.Tally.verdict_exitCode _⟩
    rw [hreport, Conformance.Report.ofEntries_entries]
    exact Conformance.Report.verdict_eq_zero_iff _

end Shipyard.Release
