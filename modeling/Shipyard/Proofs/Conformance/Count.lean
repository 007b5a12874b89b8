import Mathlib.Data.List.Induction
import Shipyard.Proofs.Conformance.Order

/-!
# What a tally counts

The lines of a report are recorded one after the other, and the tally is kept on the way. At every
moment it counts the lines that there are: how many say that a probe has passed, how many that one
has failed, and how many that one was skipped. One line more makes none of the counts less. The
verdict is the one place where a tally decides something, and what it decides is whether a line says
that a probe has failed.
-/

namespace Shipyard.Conformance

/-- Whether the probe has passed. -/
def Entry.hasPassed (e : Entry) : Bool :=
  match e.outcome with
  | .pass => true
  | _ => false

/-- Whether the probe has failed. -/
def Entry.hasFailed (e : Entry) : Bool :=
  match e.outcome with
  | .fail _ => true
  | _ => false

/-! ## Counts -/

/-- A tally counts lines. The total is of those that were not skipped, so no count is greater than
the number of lines. -/
structure Tally.Counts (t : Tally) (entries : List Entry) : Prop where
  pass : t.pass = entries.countP Entry.hasPassed
  fail : t.fail = entries.countP Entry.hasFailed
  skipped : t.skipped = entries.countP Entry.isSkipped
  total : t.total = t.pass + t.fail
  length : t.total + t.skipped = entries.length

/-- No count of a tally is greater than that of another. -/
structure Tally.Le (t t' : Tally) : Prop where
  pass : t.pass ≤ t'.pass
  fail : t.fail ≤ t'.fail
  total : t.total ≤ t'.total
  skipped : t.skipped ≤ t'.skipped

namespace Tally

variable {t t' t'' : Tally}

lemma Le.refl (t : Tally) : t.Le t :=
  ⟨Nat.le_refl _, Nat.le_refl _, Nat.le_refl _, Nat.le_refl _⟩

lemma Le.trans (h : t.Le t') (h' : t'.Le t'') : t.Le t'' :=
  ⟨Nat.le_trans h.pass h'.pass, Nat.le_trans h.fail h'.fail, Nat.le_trans h.total h'.total,
    Nat.le_trans h.skipped h'.skipped⟩

/-- One more line adds one to the count that is for it, and to the total if it was not skipped. -/
lemma record_eq (t : Tally) (e : Entry) :
    (t.record e.outcome).pass = t.pass + (if e.hasPassed = true then 1 else 0) ∧
      (t.record e.outcome).fail = t.fail + (if e.hasFailed = true then 1 else 0) ∧
      (t.record e.outcome).skipped = t.skipped + (if e.isSkipped = true then 1 else 0) ∧
      (t.record e.outcome).total = t.total + (if e.hasPassed = true then 1 else 0) +
        (if e.hasFailed = true then 1 else 0) ∧
      (t.record e.outcome).total + (t.record e.outcome).skipped = t.total + t.skipped + 1 := by
  unfold Entry.hasPassed Entry.hasFailed Entry.isSkipped
  cases e.outcome with
  | pass => exact ⟨rfl, rfl, rfl, rfl, Nat.add_right_comm _ _ _⟩
  | fail reason => exact ⟨rfl, rfl, rfl, rfl, Nat.add_right_comm _ _ _⟩
  | skipped missing => exact ⟨rfl, rfl, rfl, rfl, rfl⟩

/-- One more line is counted. -/
lemma Counts.record {entries : List Entry} (h : t.Counts entries) (e : Entry) :
    (t.record e.outcome).Counts (entries ++ [e]) := by
  obtain ⟨hpass, hfail, hskipped, htotal, hlength⟩ := t.record_eq e
  refine ⟨?_, ?_, ?_, ?_, ?_⟩
  · rw [hpass, h.pass, List.countP_append, List.countP_singleton]
  · rw [hfail, h.fail, List.countP_append, List.countP_singleton]
  · rw [hskipped, h.skipped, List.countP_append, List.countP_singleton]
  · rw [htotal, hpass, hfail, h.total]
    omega
  · rw [hlength, h.length, List.length_append, List.length_singleton]

end Tally

/-! ## Reports -/

/-- The report of one line more records it. -/
lemma Report.ofEntries_concat (entries : List Entry) (e : Entry) :
    Report.ofEntries (entries ++ [e]) = (Report.ofEntries entries).record e := by
  unfold Report.ofEntries
  rw [List.foldl_append]
  rfl

/-- The tally of a report counts its lines. -/
lemma Report.tally_counts (entries : List Entry) :
    (Report.ofEntries entries).tally.Counts entries := by
  induction entries using List.reverseRecOn with
  | nil => exact ⟨rfl, rfl, rfl, rfl, rfl⟩
  | append_singleton entries e ih =>
    rw [Report.ofEntries_concat]
    exact ih.record e

/-- The verdict on a report is 0 if no line says that a probe has failed, however many there are and
whatever else they say. -/
lemma Report.verdict_eq_zero_iff (entries : List Entry) :
    (Report.ofEntries entries).tally.verdict.exitCode = 0 ↔
      ∀ e ∈ entries, e.hasFailed = false := by
  have hzero : (Report.ofEntries entries).tally.verdict.exitCode = 0 ↔
      (Report.ofEntries entries).tally.fail = 0 := by
    unfold Tally.verdict
    dsimp only
    split <;> omega
  rw [hzero, (Report.tally_counts entries).fail, List.countP_eq_zero]
  simp only [Bool.not_eq_true]

/-- A verdict is 0 or 1. -/
lemma Tally.verdict_exitCode (t : Tally) :
    t.verdict.exitCode = 0 ∨ t.verdict.exitCode = 1 := by
  unfold Tally.verdict
  split
  · exact .inr rfl
  · exact .inl rfl

end Shipyard.Conformance
