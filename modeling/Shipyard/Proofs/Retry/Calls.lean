import Shipyard.Proofs.Remote.Attempts

/-!
# The calls of a retried operation

An operation that is called again and again, with a pause behind each call, comes to one outcome
after the other, however long this is gone on with. Retrying it takes a beginning of this sequence:
the calls bear the numbers 1, 2, 3 and so on, up to the first outcome that is a success or a failure
not worth another try, and at most as many as there are in the budget. What the last of them comes
to is what comes of all of them.

The induction is on what is left of the budget, with the number of the first call general. The calls
behind the first one meet the sequence without its head.

Attempts are counted without a bound. A counter of 32 bits does the same, since it goes up only as
long as it is below a budget of 32 bits; this is also why a loop with such a counter ends.
-/

namespace Shipyard

variable {σ φ α : Type}

/-! ## Outcomes in their order -/

/-- The calls of an operation, with numbers from `first` on and a pause behind each of them: what
the call at some place comes to, and the outside that it leaves behind. -/
def callFrom (pause : StateM σ Unit) (operation : Nat → StateM σ (Except φ α)) (first : Nat)
    (s : σ) : Nat → Except φ α × σ
  | 0 => operation first s
  | place + 1 => callFrom pause operation (first + 1) (pause (operation first s).2).2 place

/-- An outcome behind which no other call is made. -/
inductive Settled (worthRetrying : φ → Bool) : Except φ α → Prop
  | success (value : α) : Settled worthRetrying (.ok value)
  | rejected {fault : φ} (reject : worthRetrying fault = false) :
    Settled worthRetrying (.error fault)

/-- The place of the last call, if at most `most` calls may be made: the first place at which the
outcome is settled, or the last one that there may be if there is no such place. -/
inductive LastPlace (worthRetrying : φ → Bool) (outcome : Nat → Except φ α) (most : Nat) :
    Nat → Prop
  | settled {place : Nat} (within : place < most)
      (before : ∀ i < place, ¬ Settled worthRetrying (outcome i))
      (settled : Settled worthRetrying (outcome place)) :
    LastPlace worthRetrying outcome most place
  | spent {place : Nat} (budget : place + 1 = most)
      (never : ∀ i < most, ¬ Settled worthRetrying (outcome i)) :
    LastPlace worthRetrying outcome most place

section Places

variable {worthRetrying : φ → Bool} {outcome : Nat → Except φ α} {most place : Nat}

/-- A failure that is worth another try is all that is not settled. -/
lemma not_settled_iff {result : Except φ α} :
    ¬ Settled worthRetrying result ↔
      ∃ fault, result = .error fault ∧ worthRetrying fault = true := by
  constructor
  · intro h
    cases result with
    | ok value => exact absurd (.success value) h
    | error fault =>
      refine ⟨fault, rfl, ?_⟩
      cases hworth : worthRetrying fault with
      | true => rfl
      | false => exact absurd (.rejected hworth) h
  · rintro ⟨fault, rfl, hworth⟩ ⟨⟩
    rename_i hreject
    rw [hworth] at hreject
    cases hreject

/-- The last call is one of those that may be made. -/
lemma LastPlace.lt (h : LastPlace worthRetrying outcome most place) : place < most := by
  cases h with
  | settled within => exact within
  | spent budget => omega

/-- A call that is not settled goes before the others. -/
lemma LastPlace.cons (h : LastPlace worthRetrying (fun i => outcome (i + 1)) most place)
    (hfirst : ¬ Settled worthRetrying (outcome 0)) :
    LastPlace worthRetrying outcome (most + 1) (place + 1) := by
  have hall : ∀ n, (∀ i < n, ¬ Settled worthRetrying (outcome (i + 1))) →
      ∀ i < n + 1, ¬ Settled worthRetrying (outcome i) := by
    intro n hlater i hi
    cases i with
    | zero => exact hfirst
    | succ i => exact hlater i (Nat.lt_of_succ_lt_succ hi)
  cases h with
  | settled within before settled =>
    exact .settled (Nat.succ_lt_succ within) (hall place before) settled
  | spent budget never => exact .spent (congrArg Nat.succ budget) (hall most never)

end Places

/-! ## Attempts along the sequence -/

/-- An operation that puts the numbers of its calls on the trace. -/
def numbered (operation : Nat → StateM σ (Except φ α)) (number : Nat) :
    StateM (Traced σ Nat) (Except φ α) :=
  Traced.noting (fun _ => number) (operation number)

section Attempts

variable {pause : StateM σ Unit} {worthRetrying : φ → Bool}
  {operation : Nat → StateM σ (Except φ α)}

/-- An attempt that is settled is the only one. -/
lemma attemptFrom_of_settled {left attempt : Nat} {s : σ}
    (h : Settled worthRetrying (operation attempt s).1) :
    attemptFrom pause worthRetrying operation left attempt s = operation attempt s := by
  obtain ⟨⟨result, s'⟩, hran⟩ : ∃ ran, operation attempt s = ran := ⟨_, rfl⟩
  rw [hran] at h
  cases h with
  | success value => exact attemptFrom_of_ok (congrArg Prod.fst hran)
  | rejected reject =>
    cases left with
    | zero => rfl
    | succ left =>
      rw [attemptFrom, eval_bind, hran]
      dsimp only
      rw [reject, if_neg Bool.false_ne_true, eval_pure]

variable (pause worthRetrying operation)

/-- Attempts take a beginning of the sequence, whether or not their numbers are put on a trace. -/
lemma attemptFrom_callFrom (left first : Nat) (s : σ) (numbers : List Nat) :
    ∃ place,
      LastPlace worthRetrying (fun i => (callFrom pause operation first s i).1) (left + 1) place ∧
      attemptFrom pause worthRetrying operation left first s =
        callFrom pause operation first s place ∧
      attemptFrom (Traced.silently pause) worthRetrying (numbered operation) left first
          ⟨s, numbers⟩ =
        ((callFrom pause operation first s place).1,
          ⟨(callFrom pause operation first s place).2,
            numbers ++ List.range' first (place + 1)⟩) := by
  induction left generalizing first s numbers with
  | zero =>
    by_cases hsettled : Settled worthRetrying (operation first s).1
    · exact ⟨0, .settled Nat.zero_lt_one (fun i hi => absurd hi (Nat.not_lt_zero i)) hsettled,
        rfl, rfl⟩
    · refine ⟨0, .spent rfl fun i hi => ?_, rfl, rfl⟩
      rw [Nat.lt_one_iff.mp hi]
      exact hsettled
  | succ left ih =>
    by_cases hsettled : Settled worthRetrying (operation first s).1
    · have hnumbered : Settled worthRetrying (numbered operation first ⟨s, numbers⟩).1 := hsettled
      exact ⟨0, .settled (Nat.succ_pos _) (fun i hi => absurd hi (Nat.not_lt_zero i)) hsettled,
        attemptFrom_of_settled hsettled, attemptFrom_of_settled hnumbered⟩
    · -- the calls behind the first one begin where the pause has led, with one number noted
      obtain ⟨fault, hfault, hworth⟩ := not_settled_iff.mp hsettled
      obtain ⟨place, hlast, hcalls, hnumbers⟩ :=
        ih (first + 1) (pause (operation first s).2).2 (numbers ++ [first])
      refine ⟨place + 1, hlast.cons hsettled, ?_, ?_⟩
      · rw [attemptFrom_of_error hfault hworth, hcalls]
        rfl
      · have hnumbered : (numbered operation first ⟨s, numbers⟩).1 = .error fault := hfault
        rw [attemptFrom_of_error hnumbered hworth]
        refine hnumbers.trans ?_
        rw [List.append_assoc, List.singleton_append, ← List.range'_succ]
        rfl

end Attempts

/-! ## A counter of 32 bits -/

/-- A counter that is below another one goes up by one. -/
lemma toNat_add_one_of_lt {most attempt : UInt32} (h : attempt < most) :
    (attempt + 1).toNat = attempt.toNat + 1 := by
  have hlt := UInt32.lt_iff_toNat_lt.mp h
  have hmost := UInt32.toNat_lt most
  rw [UInt32.toNat_add, UInt32.toNat_one]
  exact Nat.mod_eq_of_lt (by omega)

section Counter

variable (pause : StateM σ Unit) (worthRetrying : φ → Bool)

/-- Attempts with a counter of 32 bits, which goes up only below the budget. -/
def attemptCounted (operation : UInt32 → StateM σ (Except φ α)) (most attempt : UInt32) :
    StateM σ (Except φ α) := do
  match ← operation attempt with
  | .ok value => return .ok value
  | .error fault =>
    if _below : attempt < most ∧ worthRetrying fault = true then
      pause
      attemptCounted operation most (attempt + 1)
    else return .error fault
  termination_by most.toNat - attempt.toNat
  decreasing_by
    have hnext := toNat_add_one_of_lt _below.1
    have hlt := UInt32.lt_iff_toNat_lt.mp _below.1
    omega

variable {pause worthRetrying}

/-- Where the counter goes up, one attempt of those that may be made is used up; once it is at the
budget there is none left. -/
lemma attemptCounted_eq_attemptFrom (operation : Nat → StateM σ (Except φ α)) {left : Nat}
    {most attempt : UInt32} (hleft : attempt.toNat + left = most.toNat) :
    attemptCounted pause worthRetrying (fun number => operation number.toNat) most attempt =
      attemptFrom pause worthRetrying operation left attempt.toNat := by
  funext s
  induction left generalizing attempt s with
  | zero =>
    have hspent : ¬ attempt < most := fun hlt => by
      have := UInt32.lt_iff_toNat_lt.mp hlt
      omega
    rw [attemptCounted, attemptFrom, eval_bind]
    cases hresult : (operation attempt.toNat s).1 with
    | ok value => exact Prod.ext hresult.symm rfl
    | error fault =>
      dsimp only
      rw [dif_neg fun h => hspent h.1]
      exact Prod.ext hresult.symm rfl
  | succ left ih =>
    have hbelow : attempt < most := UInt32.lt_iff_toNat_lt.mpr (by omega)
    have hnext := toNat_add_one_of_lt hbelow
    rw [attemptCounted, attemptFrom, eval_bind, eval_bind]
    cases (operation attempt.toNat s).1 with
    | ok value => rfl
    | error fault =>
      dsimp only
      by_cases hworth : worthRetrying fault = true
      · rw [dif_pos ⟨hbelow, hworth⟩, if_pos hworth, eval_bind, eval_bind,
          ih (by omega), hnext]
      · rw [dif_neg fun h => hworth h.2, if_neg hworth]

end Counter

/-! ## Retrying -/

/-- Under every policy, whatever its budget in 32 bits, retrying an operation comes to an end. It
takes the calls up to the last place, which is the first one with a settled outcome if there is one
within the budget; the numbers it hands to them are 1, 2, 3 and so on, all of them in 32 bits; the
outcome and the outside are those of the last call; and counting in 32 bits makes no difference. -/
theorem retry_calls_until_settled (most : UInt32) (delaySecs : Nat) (pause : StateM σ Unit)
    (worthRetrying : φ → Bool) (operation : Nat → StateM σ (Except φ α)) (s : σ) :
    ∃ place,
      LastPlace worthRetrying (fun i => (callFrom pause operation 1 s i).1) (max 1 most.toNat)
        place ∧
      retry ⟨most.toNat, delaySecs⟩ pause worthRetrying operation s =
        callFrom pause operation 1 s place ∧
      retry ⟨most.toNat, delaySecs⟩ (Traced.silently pause) worthRetrying (numbered operation)
          ⟨s, []⟩ =
        ((callFrom pause operation 1 s place).1,
          ⟨(callFrom pause operation 1 s place).2, List.range' 1 (place + 1)⟩) ∧
      (∀ number ∈ List.range' 1 (place + 1), number < UInt32.size) ∧
      attemptCounted pause worthRetrying (fun number => operation number.toNat) (max 1 most) 1 =
        retry ⟨most.toNat, delaySecs⟩ pause worthRetrying operation := by
  have hbudget : (RetryPolicy.mk most.toNat delaySecs).budget = max 1 most.toNat := Nat.max_comm _ _
  have hleft : max 1 most.toNat - 1 + 1 = max 1 most.toNat :=
    Nat.sub_add_cancel (Nat.le_max_left _ _)
  obtain ⟨place, hlast, hcalls, hnumbers⟩ :=
    attemptFrom_callFrom pause worthRetrying operation (max 1 most.toNat - 1) 1 s []
  rw [hleft] at hlast
  refine ⟨place, hlast, ?_, ?_, fun number hnumber => ?_, ?_⟩
  · rw [retry, hbudget, hcalls]
  · rw [retry, hbudget, hnumbers, List.nil_append]
  · have hplace := hlast.lt
    have hmost := UInt32.toNat_lt most
    rw [List.mem_range'_1] at hnumber
    rw [UInt32.size]
    omega
  · have hmost : (max 1 most).toNat = max 1 most.toNat := UInt32.toNat_max 1 most
    rw [retry, hbudget]
    refine attemptCounted_eq_attemptFrom operation ?_
    rw [hmost, UInt32.toNat_one, Nat.add_comm]
    exact hleft

end Shipyard
