import Shipyard.Proofs.Remote.Attempts
import Shipyard.Proofs.Trace.Faithful

/-!
# Waiting until a service is ready

Waiting for a service is a row of requests to its health URL. A service that is asked again and
again, with a pause behind each request, gives a sequence of replies. They are taken in turn until
one tells that the service is ready or the budget is spent, and the last of them decides what comes
of it.

The attempts are followed along the sequence by induction on what is left of the budget. The reply
to the first of them is the head of the sequence, and the attempts behind it meet the rest.
-/

namespace Shipyard.Health

open Http (Exchange Reply Service)

variable {σ : Type} (service : Service (StateM σ)) (api : Endpoints)

/-! ## Single attempts -/

/-- What an attempt comes to by its reply: its number if the service is ready. -/
def judge (attempt : Nat) (reply : Reply) : Except Failure Nat :=
  if isReady api.healthExpect reply then .ok attempt
  else .error (Cause.unhealthy api.healthUrl (observation (probe api) reply))

/-- An attempt is judged by the reply to its request. -/
lemma check_eval (attempt : Nat) (s : σ) :
    check service api attempt s =
      (judge api attempt (service.send (probe api) s).1, (service.send (probe api) s).2) := by
  unfold check judge
  rw [eval_bind]
  split <;> rfl

/-! ## The replies in their order -/

/-- The replies to requests to the health URL, one after the other, with a pause behind each of
them. -/
def replyAt (pause : StateM σ Unit) : σ → Nat → Reply
  | s, 0 => (service.send (probe api) s).1
  | s, i + 1 => replyAt pause (pause (service.send (probe api) s).2).2 i

/-- Where the outside is when the service has had its time to settle. -/
def settled (pause : Nat → StateM σ Unit) (s : σ) : σ :=
  if api.settleSecs = 0 then s else (pause api.settleSecs s).2

/-- The attempts at a service get the first replies of the sequence that it gives. -/
lemma attemptFrom_replyAt (pause : StateM σ Unit) (left attempt : Nat) (t : Traced σ Exchange) :
    let reply := replyAt service api pause t.outside
    let ran := attemptFrom (Traced.silently pause) isUnready (check (service.traced id) api) left
      attempt t
    ∃ waited,
      Attempts (fun reply => !isReady api.healthExpect reply) left ((List.range waited).map reply)
        (reply waited) ∧
      ran.2.trace = t.trace ++ (List.range (waited + 1)).map (fun i => ⟨probe api, reply i⟩) ∧
      ran.1 = judge api (attempt + waited) (reply waited) := by
  induction left generalizing attempt t with
  | zero =>
    dsimp only
    rw [attemptFrom, check_eval]
    exact ⟨0, .single (.inl rfl), rfl, rfl⟩
  | succ left ih =>
    dsimp only
    have hchecked := check_eval (service.traced id) api attempt t
    cases hready : isReady api.healthExpect (replyAt service api pause t.outside 0) with
    | true =>
      have hjudge : judge api attempt (replyAt service api pause t.outside 0) = .ok attempt := by
        rw [judge, hready, if_pos rfl]
      rw [attemptFrom_of_ok ((congrArg Prod.fst hchecked).trans hjudge), hchecked]
      refine ⟨0, .single (.inr ?_), rfl, rfl⟩
      rw [hready, Bool.not_true]
    | false =>
      have hjudge : judge api attempt (replyAt service api pause t.outside 0) =
          .error (Cause.unhealthy api.healthUrl
            (observation (probe api) (replyAt service api pause t.outside 0))) := by
        rw [judge, hready, if_neg Bool.false_ne_true]
      rw [attemptFrom_of_error ((congrArg Prod.fst hchecked).trans hjudge) rfl, hchecked]
      -- the attempts behind the first one meet the sequence without its head
      obtain ⟨waited, hattempts, htrace, hresult⟩ := ih (attempt + 1)
        (Traced.silently pause ((service.traced id).send (probe api) t).2).2
      refine ⟨waited + 1, ?_, ?_, ?_⟩
      · rw [List.range_succ_eq_map, List.map_cons, List.map_map]
        exact hattempts.cons (by rw [hready, Bool.not_false])
      · rw [htrace, List.range_succ_eq_map (n := waited + 1), List.map_cons, List.map_map]
        exact List.append_assoc _ _ _
      · rw [hresult, Nat.add_right_comm, Nat.add_assoc]
        rfl

/-- When the service has settled, waiting is a retried check. -/
lemma verify_settled (pause : Nat → StateM σ Unit) (policy : RetryPolicy) (s : σ) :
    (verify service pause api policy s).1 =
        (retry policy (pause policy.delaySecs) isUnready (check service api)
          (settled api pause s)).1.map (fun attempts => ⟨api.healthUrl, attempts, api.settleSecs⟩) ∧
      (verify service pause api policy s).2 =
        (retry policy (pause policy.delaySecs) isUnready (check service api)
          (settled api pause s)).2 := by
  have hrun : verify service pause api policy s =
      ((ExceptT.mk (retry policy (pause policy.delaySecs) isUnready (check service api)) :
        ExceptT Failure (StateM σ) Nat) >>= fun attempts =>
          pure ⟨api.healthUrl, attempts, api.settleSecs⟩) (settled api pause s) := by
    unfold verify settled
    by_cases hsettle : api.settleSecs = 0
    · rw [if_neg (not_not.mpr hsettle), if_pos hsettle]
    · rw [if_pos hsettle, if_neg hsettle]
      rfl
  rw [hrun, evalExcept_bind, evalExcept_mk]
  generalize retry policy (pause policy.delaySecs) isUnready (check service api)
    (settled api pause s) = ran
  cases ran.1 with
  | ok attempts => exact ⟨rfl, rfl⟩
  | error failure => exact ⟨rfl, rfl⟩

/-- What is sent while a service is waited for, with the replies. -/
def sent (pause : Nat → StateM σ Unit) (policy : RetryPolicy) (s : σ) : List Exchange :=
  (verify (service.traced id) (fun seconds => Traced.silently (pause seconds)) api policy
    ⟨s, []⟩).2.trace

/-- Waiting takes the first replies of the sequence that the service gives when it has settled. -/
lemma verify_replyAt (pause : Nat → StateM σ Unit) (policy : RetryPolicy) (s : σ) :
    let reply := replyAt service api (pause policy.delaySecs) (settled api pause s)
    ∃ waited,
      Attempts (fun reply => !isReady api.healthExpect reply) (policy.budget - 1)
        ((List.range waited).map reply) (reply waited) ∧
      sent service api pause policy s =
        (List.range (waited + 1)).map (fun i => ⟨probe api, reply i⟩) ∧
      (verify service pause api policy s).1 =
        (judge api (waited + 1) (reply waited)).map
          fun attempts => ⟨api.healthUrl, attempts, api.settleSecs⟩ := by
  have huntraced : (verify (service.traced id) (fun seconds => Traced.silently (pause seconds)) api
      policy ⟨s, []⟩).1 = (verify service pause api policy s).1 :=
    (verify_alike (service.traced_alike id)
      (fun seconds => Traced.silently_faithful (pause seconds)) api policy ⟨s, []⟩).1
  have hsettled : settled api (fun seconds => Traced.silently (pause seconds)) ⟨s, []⟩ =
      (⟨settled api pause s, []⟩ : Traced σ Exchange) := by
    unfold settled
    split <;> rfl
  obtain ⟨hresult, htrace⟩ := verify_settled (service.traced id) api
    (fun seconds => Traced.silently (pause seconds)) policy ⟨s, []⟩
  rw [hsettled] at hresult htrace
  obtain ⟨waited, hattempts, htrace', hresult'⟩ := attemptFrom_replyAt service api
    (pause policy.delaySecs) (policy.budget - 1) 1 ⟨settled api pause s, []⟩
  refine ⟨waited, hattempts, ?_, ?_⟩
  · exact (congrArg Traced.trace htrace).trans htrace'
  · rw [← huntraced, hresult, Nat.add_comm waited 1]
    exact congrArg (Except.map _) hresult'

/-! ## Replies in any order -/

/-- Something that the service may say when its health URL is asked. -/
def MaySay (reply : Reply) : Prop :=
  ∃ s, (service.send (probe api) s).1 = reply

/-- The replies that a service gives in turn are what it may say. -/
lemma replyAt_maySay (pause : StateM σ Unit) (s : σ) (i : Nat) :
    MaySay service api (replyAt service api pause s i) := by
  induction i generalizing s with
  | zero => exact ⟨s, rfl⟩
  | succ i ih => exact ih _

/-- What is sent while a service is waited for are requests to its health URL, as long as it is not
ready and the budget lasts, and the last reply decides. -/
lemma verify_sent (pause : Nat → StateM σ Unit) (policy : RetryPolicy) (s : σ) :
    ∃ unready last,
      Attempts (fun reply => !isReady api.healthExpect reply) (policy.budget - 1) unready last ∧
      (∀ reply ∈ unready ++ [last], MaySay service api reply) ∧
      sent service api pause policy s =
        (unready ++ [last]).map (fun reply => ⟨probe api, reply⟩) ∧
      (verify service pause api policy s).1 =
        (judge api (unready.length + 1) last).map
          fun attempts => ⟨api.healthUrl, attempts, api.settleSecs⟩ := by
  obtain ⟨waited, hattempts, hsent, hresult⟩ := verify_replyAt service api pause policy s
  have hreplies : (List.range waited).map
        (replyAt service api (pause policy.delaySecs) (settled api pause s)) ++
      [replyAt service api (pause policy.delaySecs) (settled api pause s) waited] =
      (List.range (waited + 1)).map
        (replyAt service api (pause policy.delaySecs) (settled api pause s)) := by
    rw [List.range_succ, List.map_append, List.map_singleton]
  refine ⟨_, _, hattempts, ?_, ?_, ?_⟩
  · rw [hreplies]
    exact List.forall_mem_map.mpr fun i _ => replyAt_maySay service api _ _ i
  · rw [hreplies, hsent, List.map_map]
    rfl
  · rw [hresult, List.length_map, List.length_range]

end Shipyard.Health
