import Shipyard.Proofs.Trace.Event

/-!
# Attempts

What a retried operation does is put together from its attempts. It makes at least one of them and
at most as many as its budget allows, its result is the result of the last of them, and pauses leave
nothing on the trace. Another attempt is made as long as the last one is worth retrying and the
budget lasts. For a session this means that a command line is given to the channel at least once and
nothing else is, and that whatever a command or a copy fails with is the connection.
-/

namespace Shipyard

variable {σ ε φ α β : Type}

/-! ## Retried operations -/

section Retry

variable {pause : StateM σ Unit} {worthRetrying : φ → Bool}
  {operation : Nat → StateM σ (Except φ α)}

/-- What holds of the result of every attempt holds of the result of all of them. -/
lemma attemptFrom_result {Q : Except φ α → Prop} (h : ∀ attempt s, Q (operation attempt s).1)
    (left attempt : Nat) (s : σ) :
    Q (attemptFrom pause worthRetrying operation left attempt s).1 := by
  induction left generalizing attempt s with
  | zero => exact h attempt s
  | succ left ih =>
    have hfirst := h attempt s
    rw [attemptFrom, eval_bind]
    cases hresult : (operation attempt s).1 with
    | ok value =>
      rw [hresult] at hfirst
      exact hfirst
    | error fault =>
      rw [hresult] at hfirst
      dsimp only
      split
      · exact ih _ _
      · exact hfirst

/-- A success is what all attempts come to. -/
lemma attemptFrom_of_ok {left attempt : Nat} {s : σ} {value : α}
    (h : (operation attempt s).1 = .ok value) :
    attemptFrom pause worthRetrying operation left attempt s = operation attempt s := by
  cases left with
  | zero => rfl
  | succ left =>
    rw [attemptFrom, eval_bind, h]
    exact Prod.ext h.symm rfl

/-- Behind a failure that is worth retrying there is a pause, and then the next attempt. -/
lemma attemptFrom_of_error {left attempt : Nat} {s : σ} {fault : φ}
    (h : (operation attempt s).1 = .error fault) (hworth : worthRetrying fault = true) :
    attemptFrom pause worthRetrying operation (left + 1) attempt s =
      attemptFrom pause worthRetrying operation left (attempt + 1)
        (pause (operation attempt s).2).2 := by
  rw [attemptFrom, eval_bind, h]
  dsimp only
  rw [if_pos hworth, eval_bind]

end Retry

section Trace

/-- The answers that the attempts at something get when there may be `left` more behind the first
one: attempts are made as long as the answers call for another one and there may be one. -/
structure Attempts (isRetried : β → Bool) (left : Nat) (failed : List β) (last : β) : Prop where
  retried : ∀ b ∈ failed, isRetried b = true
  length_le : failed.length ≤ left
  ends : failed.length = left ∨ isRetried last = false

/-- A single attempt, behind which there is none. -/
lemma Attempts.single {isRetried : β → Bool} {left : Nat} {last : β}
    (ends : 0 = left ∨ isRetried last = false) : Attempts isRetried left [] last where
  retried _ hb := absurd hb List.not_mem_nil
  length_le := Nat.zero_le left
  ends := ends

/-- One more attempt goes before the others if its answer calls for another one. -/
lemma Attempts.cons {isRetried : β → Bool} {left : Nat} {failed : List β} {last b : β}
    (h : Attempts isRetried left failed last) (hb : isRetried b = true) :
    Attempts isRetried (left + 1) (b :: failed) last where
  retried := List.forall_mem_cons.mpr ⟨hb, h.retried⟩
  length_le := Nat.succ_le_succ h.length_le
  ends := h.ends.imp_left (congrArg Nat.succ)

/-- Attempts last as long as others with answers that agree, place by place, on whether another one
is called for. -/
lemma Attempts.length_le_length {isRetried : β → Bool} {left : Nat} {failed failed' : List β}
    {last last' : β} (h : Attempts isRetried left failed last)
    (h' : Attempts isRetried left failed' last')
    (hagree : ∀ (i : Nat) (b b' : β), (failed ++ [last])[i]? = some b →
      (failed' ++ [last'])[i]? = some b' → isRetried b = isRetried b') :
    failed'.length ≤ failed.length := by
  refine Nat.le_of_not_lt fun hlt => ?_
  -- where the one has ended, the other has an answer that calls for one more
  have hlast : (failed ++ [last])[failed.length]? = some last := List.getElem?_concat_length
  have hretried' : (failed' ++ [last'])[failed.length]? = some failed'[failed.length] := by
    rw [List.getElem?_append_left hlt, List.getElem?_eq_getElem hlt]
  have hretried : isRetried last = true :=
    (hagree _ _ _ hlast hretried').trans (h'.retried _ (List.getElem_mem hlt))
  rcases h.ends with hleft | hends
  · have hle := h'.length_le
    omega
  · rw [hretried] at hends
    cases hends

/-- Answers that agree, place by place, on whether another attempt is called for end together. -/
lemma Attempts.length_eq_length {isRetried : β → Bool} {left : Nat} {failed failed' : List β}
    {last last' : β} (h : Attempts isRetried left failed last)
    (h' : Attempts isRetried left failed' last')
    (hagree : ∀ (i : Nat) (b b' : β), (failed ++ [last])[i]? = some b →
      (failed' ++ [last'])[i]? = some b' → isRetried b = isRetried b') :
    failed.length = failed'.length :=
  Nat.le_antisymm (h'.length_le_length h fun i b b' hb hb' => (hagree i b' b hb' hb).symm)
    (h.length_le_length h' hagree)

/-- What is made of numbered answers without a look at the numbers. -/
lemma map_zipIdx_fst (f : β → ε) (answers : List β) (first : Nat) :
    (answers.zipIdx first).map (fun made => f made.1) = answers.map f := by
  have hanswers := congrArg (List.map f) (List.zipIdx_map_fst first answers)
  rwa [List.map_map] at hanswers

variable {pause : StateM (Traced σ ε) Unit} {worthRetrying : φ → Bool}
  {operation : Nat → StateM (Traced σ ε) (Except φ α)}

/-- Attempts that are put on the trace one by one are on it in a row, with their numbers, and the
last of them is what all of them come to. -/
lemma attemptFrom_attempts (event : Nat → β → ε) {judge : Nat → β → Except φ α}
    {isRetried : β → Bool} (hpause : ∀ t, (pause t).2.trace = t.trace)
    (h : ∀ attempt t, ∃ b, (operation attempt t).2.trace = t.trace ++ [event attempt b] ∧
      (operation attempt t).1 = judge attempt b)
    (hretried : ∀ attempt b, isRetried b = true ↔
      ∃ fault, judge attempt b = .error fault ∧ worthRetrying fault = true)
    (left attempt : Nat) (t : Traced σ ε) :
    ∃ failed last, Attempts isRetried left failed last ∧
      (attemptFrom pause worthRetrying operation left attempt t).2.trace =
        t.trace ++ ((failed ++ [last]).zipIdx attempt).map (fun made => event made.2 made.1) ∧
      (attemptFrom pause worthRetrying operation left attempt t).1 =
        judge (attempt + failed.length) last := by
  induction left generalizing attempt t with
  | zero =>
    obtain ⟨b, htrace, hresult⟩ := h attempt t
    exact ⟨[], b, .single (.inl rfl), htrace, hresult⟩
  | succ left ih =>
    obtain ⟨b, htrace, hresult⟩ := h attempt t
    rw [attemptFrom, eval_bind]
    by_cases hb : isRetried b = true
    · obtain ⟨fault, hfault, hworth⟩ := (hretried attempt b).mp hb
      obtain ⟨failed, last, hattempts, htrace', hresult'⟩ :=
        ih (attempt + 1) (pause (operation attempt t).2).2
      refine ⟨b :: failed, last, hattempts.cons hb, ?_, ?_⟩
      · rw [hresult, hfault]
        dsimp only
        rw [if_pos hworth, eval_bind, htrace', hpause, htrace, List.append_assoc]
        rfl
      · rw [hresult, hfault]
        dsimp only
        rw [if_pos hworth, eval_bind, hresult', List.length_cons]
        congr 1
        omega
    · refine ⟨[], b, .single (.inr (Bool.not_eq_true _ ▸ hb)), ?_⟩
      rw [hresult]
      cases hjudge : judge attempt b with
      | ok value => exact ⟨htrace, rfl⟩
      | error fault =>
        have hworth : ¬ worthRetrying fault = true := fun hworth =>
          hb ((hretried attempt b).mpr ⟨fault, hjudge, hworth⟩)
        dsimp only
        rw [if_neg hworth]
        exact ⟨htrace, rfl⟩

/-- A retried operation stays in the bounds of its attempts. -/
lemma Within.retry {P : ε → Prop} {Q : φ → Prop} {policy : RetryPolicy} (hpause : Emits P pause)
    (h : ∀ attempt, Within P Q (ExceptT.mk (operation attempt))) :
    Within P Q (ExceptT.mk (retry policy pause worthRetrying operation)) where
  emits := by
    have hfrom : ∀ left attempt,
        Emits P (attemptFrom pause worthRetrying operation left attempt) := by
      intro left
      induction left with
      | zero => exact fun attempt => (h attempt).emits
      | succ left ih =>
        intro attempt
        refine Emits.bind (h attempt).emits fun result => ?_
        cases result with
        | ok value => exact Emits.pure _
        | error fault =>
          dsimp only
          split
          · exact Emits.bind hpause fun _ => ih _
          · exact Emits.pure _
    exact hfrom _ _
  fails := by
    intro t
    exact attemptFrom_result (Q := fun result => ∀ e, result = .error e → Q e)
      (fun attempt s => (h attempt).fails s) _ _ t

end Trace

/-! ## Sessions -/

namespace Remote.Session

variable {isTransient : Completion → Bool} {attempt : StateM σ Completion}

/-- A failure that an attempt comes to is the failure of the connection. -/
lemma judge_error {address : String} {number : Nat} {c : Completion} {failure : Failure}
    (h : judge address isTransient number c = .error failure) :
    failure = (Cause.unreachable address number c.exitCode (Text.trim c.stderr)).failure := by
  unfold judge at h
  split at h
  · exact (Except.error.inj h).symm
  · cases h

/-- Whatever a retried attempt fails with is the connection, without hints or tags. -/
lemma withRetry_error (session : Session (StateM σ)) {s : σ} {failure : Failure}
    (h : (session.withRetry isTransient attempt s).1 = .error failure) :
    ∃ number exitCode stderr, failure =
      (Cause.unreachable session.channel.address number exitCode stderr).failure := by
  refine attemptFrom_result (Q := fun result => ∀ failure, result = .error failure →
    ∃ number exitCode stderr, failure =
      (Cause.unreachable session.channel.address number exitCode stderr).failure)
    (fun number s failure h => ?_) _ _ s failure h
  exact ⟨number, _, _, judge_error h⟩

/-- Executing a command line can only fail with the connection. -/
lemma execute_error (session : Session (StateM σ)) {command : String} {s : σ} {failure : Failure}
    (h : (session.execute command s).1 = .error failure) : failure.isConnectionFailure = true := by
  obtain ⟨number, exitCode, stderr, rfl⟩ := session.withRetry_error h
  rfl

variable (session : Session (StateM σ))

/-- A retried attempt stays in the bounds of its attempts, and fails without tags. -/
lemma withRetry_within {P : Event → Prop} {attempt : StateM (Traced σ Event) Completion}
    (h : Emits P attempt) :
    Within P Failure.Untagged (session.traced.withRetry isTransient attempt) := by
  refine Within.retry (Emits.silently _) fun number => ⟨?_, ?_⟩
  · exact h.bind fun _ => Emits.pure _
  · intro t failure hjudge
    rw [judge_error hjudge]
    rfl

/-- Executing a command line gives it to the channel, and nothing else. -/
lemma execute_within (command : String) :
    Within (fun e => ∃ c, e = .ran command c) Failure.Untagged (session.traced.execute command) :=
  session.withRetry_within (Emits.noting _ fun c => ⟨c, rfl⟩)

/-- Running a command line gives it to the channel, and nothing else. -/
lemma run_within (command : String) :
    Within (fun e => ∃ c, e = .ran command c) Failure.Untagged (session.traced.run command) := by
  refine (session.execute_within command).bind fun c => Within.ofExcept fun failure h => ?_
  unfold output at h
  split at h
  · cases h
  · cases h
    rfl

/-- Copying a file gives it to the channel with its place on the host, and nothing else. -/
lemma upload_within (localPath remotePath : String) :
    Within (fun e => ∃ c, e = .copied localPath remotePath c) Failure.Untagged
      (session.traced.upload localPath remotePath) :=
  session.withRetry_within (Emits.noting _ fun c => ⟨c, rfl⟩)

/-- The judgement that calls for another attempt is the one that blames the connection. -/
lemma isTransient_iff_judge (address : String) (isTransient : Completion → Bool) (number : Nat)
    (c : Completion) :
    isTransient c = true ↔ ∃ failure, judge address isTransient number c = .error failure ∧
      failure.isConnectionFailure = true := by
  unfold judge
  cases isTransient c with
  | false => simp
  | true => simp [Failure.isConnectionFailure, Cause.failure, Cause.isConnectionFailure]

/-- A retried attempt that is put on the trace is made as long as the connection is to blame for
what it comes to and the budget lasts, and the last answer decides. -/
lemma withRetry_attempts {ε β : Type} (session : Session (StateM (Traced σ ε)))
    (hpause : ∀ t, (session.pause t).2.trace = t.trace) (isTransient : Completion → Bool)
    {attempt : StateM (Traced σ ε) Completion} {event : β → ε} {comesTo : β → Completion}
    (h : ∀ t, ∃ b, (attempt t).2.trace = t.trace ++ [event b] ∧ (attempt t).1 = comesTo b)
    (t : Traced σ ε) :
    ∃ lost last,
      Attempts (fun b => isTransient (comesTo b)) (session.policy.budget - 1) lost last ∧
      (session.withRetry isTransient attempt t).2.trace =
        t.trace ++ (lost ++ [last]).map event ∧
      (session.withRetry isTransient attempt t).1 =
        judge session.channel.address isTransient (lost.length + 1) (comesTo last) := by
  obtain ⟨lost, last, hattempts, htrace, hresult⟩ : ∃ lost last,
      Attempts (fun b => isTransient (comesTo b)) (session.policy.budget - 1) lost last ∧
      (session.withRetry isTransient attempt t).2.trace =
        t.trace ++ ((lost ++ [last]).zipIdx 1).map (fun made => event made.1) ∧
      (session.withRetry isTransient attempt t).1 =
        judge session.channel.address isTransient (1 + lost.length) (comesTo last) := by
    refine attemptFrom_attempts (fun _ => event) hpause (fun number t => ?_) (fun number b =>
        isTransient_iff_judge session.channel.address isTransient number (comesTo b))
      (session.policy.budget - 1) 1 t
    obtain ⟨b, htrace, hresult⟩ := h t
    exact ⟨b, htrace, congrArg (judge session.channel.address isTransient number) hresult⟩
  refine ⟨lost, last, hattempts, ?_, Nat.add_comm 1 lost.length ▸ hresult⟩
  rw [htrace, map_zipIdx_fst]

/-- The attempts of a traced session, of which each puts its answer on the trace. -/
lemma traced_withRetry_attempts (isTransient : Completion → Bool)
    {attempt : StateM (Traced σ Event) Completion} {event : Completion → Event}
    (h : ∀ t, (attempt t).2.trace = t.trace ++ [event (attempt t).1]) (t : Traced σ Event) :
    ∃ lost last, Attempts isTransient (session.policy.budget - 1) lost last ∧
      (session.traced.withRetry isTransient attempt t).2.trace =
        t.trace ++ (lost ++ [last]).map event ∧
      (session.traced.withRetry isTransient attempt t).1 =
        judge session.channel.address isTransient (lost.length + 1) last :=
  session.traced.withRetry_attempts (fun _ => rfl) isTransient (fun t => ⟨_, h t, rfl⟩) t

/-- An attempt that the connection is not to blame for is the only one. -/
lemma withRetry_eq_ok {s : σ} (h : isTransient (attempt s).1 = false) :
    session.withRetry isTransient attempt s = (.ok (attempt s).1, (attempt s).2) := by
  have hjudge : ∀ number, judge session.channel.address isTransient number (attempt s).1 =
      .ok (attempt s).1 := fun number => by rw [judge, h, if_neg Bool.false_ne_true]
  unfold withRetry retry
  cases session.policy.budget - 1 with
  | zero =>
    rw [evalExcept_mk, attemptFrom, eval_bind, eval_pure, hjudge]
  | succ left =>
    rw [evalExcept_mk, attemptFrom, eval_bind, eval_bind, eval_pure, hjudge]
    rfl

/-- A file is given to the channel at least once, and no more often than the budget allows. -/
lemma upload_trace (localPath remotePath : String) (t : Traced σ Event) :
    ∃ c cs, cs.length ≤ session.policy.budget - 1 ∧
      (session.traced.upload localPath remotePath t).2.trace =
        t.trace ++ (c :: cs).map (Event.copied localPath remotePath) := by
  obtain ⟨lost, last, hattempts, htrace, -⟩ := session.traced_withRetry_attempts
    isTransientCopy (Traced.noting_trace (Event.copied localPath remotePath) _) t
  cases lost with
  | nil => exact ⟨last, [], Nat.zero_le _, htrace⟩
  | cons c cs =>
    refine ⟨c, cs ++ [last], ?_, htrace⟩
    rw [List.length_append, List.length_singleton]
    exact hattempts.length_le

end Remote.Session

end Shipyard
