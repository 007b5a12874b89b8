import Mathlib.Tactic.Common

/-!
# Traced runs

What a run asks of the outside is answered by an arbitrary action on a state of the outside, so the
same question may be answered differently each time it is asked. A *traced* run keeps beside that
state the list of what has been asked and answered so far: `noting` does something outside and puts
it on the trace, `silently` leaves the trace alone.

`Emits P` bounds what an action puts on the trace and `Within P Q` also bounds the failures it ends
with. Both are closed under sequencing, so a bound for a whole stage of a run is put together from
the bounds of its parts.
-/

namespace Shipyard

/-! ## Running an action from a state -/

section Evaluation

variable {σ φ α β : Type}

/-- A sequence of two actions runs the second from where the first has ended. -/
@[simp] lemma eval_bind (x : StateM σ α) (f : α → StateM σ β) (s : σ) :
    (x >>= f) s = f (x s).1 (x s).2 := rfl

/-- A value is returned where it is asked for. -/
@[simp] lemma eval_pure (a : α) (s : σ) : (pure a : StateM σ α) s = (a, s) := rfl

/-- A function is applied to what an action returns. -/
@[simp] lemma eval_map (x : StateM σ α) (f : α → β) (s : σ) :
    (f <$> x) s = (f (x s).1, (x s).2) := rfl

/-- After a failure nothing else is done. -/
@[simp] lemma evalExcept_bind (x : ExceptT φ (StateM σ) α) (f : α → ExceptT φ (StateM σ) β)
    (s : σ) :
    (x >>= f) s =
      match (x s).1 with
      | .ok a => f a (x s).2
      | .error e => (.error e, (x s).2) := by
  change ((ExceptT.bindCont f (x s).1) : StateM σ (Except φ β)) (x s).2 = _
  cases (x s).1 <;> rfl

/-- A sequence that has succeeded is one in which both parts have. -/
lemma exists_of_bind_eq_ok {x : ExceptT φ (StateM σ) α} {f : α → ExceptT φ (StateM σ) β} {b : β}
    {s s' : σ} (h : (x >>= f) s = (.ok b, s')) :
    ∃ a s₁, x s = (.ok a, s₁) ∧ f a s₁ = (.ok b, s') := by
  rw [evalExcept_bind] at h
  obtain ⟨⟨result, s₁⟩, hx⟩ : ∃ ran, x s = ran := ⟨_, rfl⟩
  rw [hx] at h
  cases result with
  | ok a => exact ⟨a, s₁, hx, h⟩
  | error e => cases h

/-- A function is applied to what an action that succeeds returns. -/
@[simp] lemma evalExcept_map (x : ExceptT φ (StateM σ) α) (f : α → β) (s : σ) :
    (f <$> x) s = ((x s).1.map f, (x s).2) := by
  rw [map_eq_pure_bind, evalExcept_bind]
  cases (x s).1 with
  | ok a => rfl
  | error e => rfl

@[simp] lemma evalExcept_pure (a : α) (s : σ) :
    (pure a : ExceptT φ (StateM σ) α) s = (.ok a, s) := rfl

@[simp] lemma evalExcept_throw (e : φ) (s : σ) :
    (throw e : ExceptT φ (StateM σ) α) s = (.error e, s) := rfl

@[simp] lemma evalExcept_lift (x : StateM σ α) (s : σ) :
    (ExceptT.lift x : ExceptT φ (StateM σ) α) s = (.ok (x s).1, (x s).2) := rfl

@[simp] lemma evalExcept_mk (x : StateM σ (Except φ α)) (s : σ) :
    (ExceptT.mk x : ExceptT φ (StateM σ) α) s = x s := rfl

@[simp] lemma evalExcept_run (x : ExceptT φ (StateM σ) α) (s : σ) : x.run s = x s := rfl

/-- What follows an action that cannot fail has succeeded, if the sequence has. -/
lemma exists_of_liftBind_eq_ok {x : StateM σ α} {f : α → ExceptT φ (StateM σ) β} {b : β} {s s' : σ}
    (h : (ExceptT.lift x >>= f) s = (.ok b, s')) :
    ∃ a s₁, x s = (a, s₁) ∧ f a s₁ = (.ok b, s') := by
  obtain ⟨a, s₁, hx, hf⟩ := exists_of_bind_eq_ok h
  rw [evalExcept_lift] at hx
  obtain ⟨hresult, hreached⟩ := Prod.mk.inj hx
  exact ⟨a, s₁, Prod.ext (Except.ok.inj hresult) hreached, hf⟩

/-- A result that is handed on is a success, if the sequence is one. -/
lemma exists_of_mkBind_eq_ok {result : Except φ α} {f : α → ExceptT φ (StateM σ) β} {b : β}
    {s s' : σ} (h : ((ExceptT.mk (pure result) : ExceptT φ (StateM σ) α) >>= f) s = (.ok b, s')) :
    ∃ a, result = .ok a := by
  obtain ⟨a, s₁, hresult, -⟩ := exists_of_bind_eq_ok h
  exact ⟨a, (Prod.mk.inj hresult).1⟩

end Evaluation

/-- Where a traced run stands: the state of everything outside, and what has happened so far. -/
structure Traced (σ ε : Type) where
  outside : σ
  trace : List ε

variable {σ ε φ α β : Type}

namespace Traced

/-- Do something outside and put it on the trace. -/
def noting (event : α → ε) (action : StateM σ α) : StateM (Traced σ ε) α := fun t =>
  ((action t.outside).1, ⟨(action t.outside).2, t.trace ++ [event (action t.outside).1]⟩)

/-- Do something outside that is not traced. -/
def silently (action : StateM σ α) : StateM (Traced σ ε) α := fun t =>
  ((action t.outside).1, ⟨(action t.outside).2, t.trace⟩)

/-- Exactly one event is put on the trace, and it holds the answer. -/
@[simp] lemma noting_trace (event : α → ε) (action : StateM σ α) (t : Traced σ ε) :
    (noting event action t).2.trace = t.trace ++ [event (noting event action t).1] := rfl

/-- Nothing is put on the trace. -/
@[simp] lemma silently_trace (action : StateM σ α) (t : Traced σ ε) :
    (silently action t).2.trace = t.trace := rfl

end Traced

/-! ## Bounds on what is put on the trace -/

/-- Whatever an action puts on the trace satisfies `P`. -/
def Emits (P : ε → Prop) (action : StateM (Traced σ ε) α) : Prop :=
  ∀ t, ∃ events, (action t).2.trace = t.trace ++ events ∧ ∀ e ∈ events, P e

namespace Emits

variable {P : ε → Prop}

/-- An action that leaves the trace alone stays in every bound. -/
lemma of_trace_eq {action : StateM (Traced σ ε) α} (h : ∀ t, (action t).2.trace = t.trace) :
    Emits P action := by
  intro t
  exact ⟨[], by rw [h, List.append_nil], fun _ he => by cases he⟩

lemma pure (a : α) : Emits P (pure a : StateM (Traced σ ε) α) :=
  of_trace_eq fun _ => rfl

lemma silently (action : StateM σ α) : Emits P (Traced.silently action) :=
  of_trace_eq fun _ => rfl

lemma noting {event : α → ε} (action : StateM σ α) (h : ∀ a, P (event a)) :
    Emits P (Traced.noting event action) := by
  intro t
  refine ⟨_, Traced.noting_trace event action t, fun e he => ?_⟩
  rw [List.mem_singleton.mp he]
  exact h _

/-- A bound on both parts is a bound on their sequence. -/
lemma bind {x : StateM (Traced σ ε) α} {f : α → StateM (Traced σ ε) β}
    (hx : Emits P x) (hf : ∀ a, Emits P (f a)) : Emits P (x >>= f) := by
  intro t
  obtain ⟨first, htrace, hfirst⟩ := hx t
  obtain ⟨second, htrace', hsecond⟩ := hf (x t).1 (x t).2
  refine ⟨first ++ second, ?_, fun e he => ?_⟩
  · rw [eval_bind, htrace', htrace, List.append_assoc]
  · rcases List.mem_append.mp he with he | he
    · exact hfirst e he
    · exact hsecond e he

lemma map {x : StateM (Traced σ ε) α} (g : α → β) (hx : Emits P x) : Emits P (g <$> x) := by
  intro t
  obtain ⟨events, htrace, hevents⟩ := hx t
  exact ⟨events, by rw [eval_map, htrace], hevents⟩

/-- A bound may be relaxed. -/
lemma mono {P' : ε → Prop} {x : StateM (Traced σ ε) α} (hx : Emits P x) (h : ∀ e, P e → P' e) :
    Emits P' x := by
  intro t
  obtain ⟨events, htrace, hevents⟩ := hx t
  exact ⟨events, htrace, fun e he => h e (hevents e he)⟩

/-- An action of which nothing can be on the trace leaves it alone. -/
lemma trace_eq {x : StateM (Traced σ ε) α} (hx : Emits (fun _ => False) x) (t : Traced σ ε) :
    (x t).2.trace = t.trace := by
  obtain ⟨events, htrace, hnone⟩ := hx t
  rw [htrace, List.eq_nil_iff_forall_not_mem.mpr hnone, List.append_nil]

end Emits

/-- Whatever an action puts on the trace satisfies `P`, and whatever it fails with satisfies `Q`. -/
structure Within (P : ε → Prop) (Q : φ → Prop) (action : ExceptT φ (StateM (Traced σ ε)) α) :
    Prop where
  emits : Emits P action.run
  fails : ∀ t e, (action t).1 = .error e → Q e

namespace Within

variable {P : ε → Prop} {Q : φ → Prop}

lemma pure (a : α) : Within P Q (pure a : ExceptT φ (StateM (Traced σ ε)) α) where
  emits := Emits.of_trace_eq fun _ => rfl
  fails := fun _ _ h => by simp at h

lemma throw {e : φ} (h : Q e) : Within P Q (throw e : ExceptT φ (StateM (Traced σ ε)) α) where
  emits := Emits.of_trace_eq fun _ => rfl
  fails := fun _ _ h' => by
    simp only [evalExcept_throw, Except.error.injEq] at h'
    exact h' ▸ h

/-- An action that cannot fail only has to stay in the bound on the trace. -/
lemma lift {x : StateM (Traced σ ε) α} (hx : Emits P x) :
    Within P Q (ExceptT.lift x : ExceptT φ (StateM (Traced σ ε)) α) where
  emits := fun t => hx t
  fails := fun _ _ h => by simp at h

/-- The result of a pure check, failed or not, is put on no trace. -/
lemma ofExcept {r : Except φ α} (h : ∀ e, r = .error e → Q e) :
    Within P Q (ExceptT.mk (Pure.pure r) : ExceptT φ (StateM (Traced σ ε)) α) where
  emits := Emits.of_trace_eq fun _ => rfl
  fails := fun _ e he => h e (by simpa using he)

/-- A bound on both parts is a bound on their sequence. -/
lemma bind {x : ExceptT φ (StateM (Traced σ ε)) α} {f : α → ExceptT φ (StateM (Traced σ ε)) β}
    (hx : Within P Q x) (hf : ∀ a, Within P Q (f a)) : Within P Q (x >>= f) where
  emits := by
    change Emits P (x.run >>= ExceptT.bindCont f)
    refine Emits.bind hx.emits fun r => ?_
    cases r with
    | ok a => exact (hf a).emits
    | error e => exact Emits.pure _
  fails := by
    intro t e h
    rw [evalExcept_bind] at h
    cases hr : (x t).1 with
    | ok a =>
      rw [hr] at h
      exact (hf a).fails _ e h
    | error e' =>
      rw [hr] at h
      exact (Except.error.inj h) ▸ hx.fails t e' hr

lemma map {x : ExceptT φ (StateM (Traced σ ε)) α} (g : α → β) (hx : Within P Q x) :
    Within P Q (g <$> x) := by
  rw [map_eq_pure_bind]
  exact hx.bind fun _ => pure _

/-- A bound may be relaxed. -/
lemma mono {P' : ε → Prop} {Q' : φ → Prop} {x : ExceptT φ (StateM (Traced σ ε)) α}
    (hx : Within P Q x) (hP : ∀ e, P e → P' e) (hQ : ∀ e, Q e → Q' e) : Within P' Q' x where
  emits := hx.emits.mono hP
  fails := fun t e h => hQ e (hx.fails t e h)

end Within

/-- An action puts a single event on the trace, which satisfies `P`, and whatever it fails with
satisfies `Q`. -/
structure Once (P : ε → Prop) (Q : φ → Prop) (action : ExceptT φ (StateM (Traced σ ε)) α) :
    Prop where
  trace : ∀ t, ∃ e, P e ∧ (action t).2.trace = t.trace ++ [e]
  fails : ∀ t e, (action t).1 = .error e → Q e

namespace Once

variable {P : ε → Prop} {Q : φ → Prop}

/-- A single event that satisfies `P` stays in the bound `P`. -/
lemma within {x : ExceptT φ (StateM (Traced σ ε)) α} (hx : Once P Q x) : Within P Q x where
  emits := by
    intro t
    obtain ⟨e, he, htrace⟩ := hx.trace t
    refine ⟨[e], htrace, fun e' he' => ?_⟩
    rw [List.mem_singleton.mp he']
    exact he
  fails := hx.fails

lemma lift {x : StateM (Traced σ ε) α} (hx : ∀ t, ∃ e, P e ∧ (x t).2.trace = t.trace ++ [e]) :
    Once P Q (ExceptT.lift x : ExceptT φ (StateM (Traced σ ε)) α) where
  trace := hx
  fails := fun _ _ h => by simp at h

/-- What leaves the trace alone may follow. -/
lemma followed {x : ExceptT φ (StateM (Traced σ ε)) α} {f : α → ExceptT φ (StateM (Traced σ ε)) β}
    (hx : Once P Q x) (hf : ∀ a, Within (fun _ => False) Q (f a)) : Once P Q (x >>= f) where
  trace := by
    intro t
    obtain ⟨e, he, htrace⟩ := hx.trace t
    refine ⟨e, he, ?_⟩
    rw [evalExcept_bind]
    cases (x t).1 with
    | ok a =>
      dsimp only
      rw [← htrace]
      exact (hf a).emits.trace_eq _
    | error e' => exact htrace
  fails := (hx.within.bind fun a => (hf a).mono (fun _ => False.elim) fun _ => id).fails

/-- An action that cannot fail and leaves the trace alone may go before. -/
lemma after {x : StateM (Traced σ ε) α} {f : α → ExceptT φ (StateM (Traced σ ε)) β}
    (hx : Emits (fun _ => False) x) (hf : ∀ a, Once P Q (f a)) :
    Once P Q ((ExceptT.lift x : ExceptT φ (StateM (Traced σ ε)) α) >>= f) where
  trace := by
    intro t
    obtain ⟨e, he, htrace⟩ := (hf (x t).1).trace (x t).2
    refine ⟨e, he, ?_⟩
    rw [hx.trace_eq] at htrace
    exact htrace
  fails := fun t => (hf (x t).1).fails (x t).2

/-- A bound may be relaxed. -/
lemma mono {P' : ε → Prop} {x : ExceptT φ (StateM (Traced σ ε)) α} (hx : Once P Q x)
    (h : ∀ e, P e → P' e) : Once P' Q x where
  trace := fun t => by
    obtain ⟨e, he, htrace⟩ := hx.trace t
    exact ⟨e, h e he, htrace⟩
  fails := hx.fails

lemma map {x : ExceptT φ (StateM (Traced σ ε)) α} (g : α → β) (hx : Once P Q x) :
    Once P Q (g <$> x) := by
  rw [map_eq_pure_bind]
  exact hx.followed fun _ => Within.pure _

end Once

end Shipyard
