import Shipyard.Proofs.Health.Attempts

/-!
# The gate that a release waits at

A service that is asked for its health again and again, with a pause behind each request, gives a
sequence of replies, and every sequence of replies is given by some service. What the gate comes to
is a matter of this sequence and the budget alone: the first reply with the expected body opens the
gate, and if the budget allows no request that gets such a reply, then it is spent and the last
reply within it is described in the failure.

How far the attempts go is known from the attempts of a retried check. What is left is to read off
whether the last reply is the first healthy one or the budget is spent, and to say how a reply is
described apart from how the description is made.
-/

namespace Shipyard.Health

open Http (Exchange Reply Request Response Service)

variable {σ : Type} (service : Service (StateM σ)) (api : Endpoints)

/-! ## Sequences of replies -/

/-- When it has settled, a service gives a sequence of replies to requests to its health URL,
however long this is gone on with. -/
def Gives (pause : Nat → StateM σ Unit) (policy : RetryPolicy) (replies : Nat → Reply) (s : σ) :
    Prop :=
  ∀ i, replyAt service api (pause policy.delaySecs) (settled api pause s) i = replies i

/-- The service that gives the replies of a sequence in turn, whatever it is asked. -/
def replying (replies : Nat → Reply) : Service (StateM Nat) where
  send _ := fun place => (replies place, place + 1)

/-- Every sequence of replies is given by some service. -/
lemma replying_gives (policy : RetryPolicy) (replies : Nat → Reply) :
    Gives (replying replies) api (fun _ => pure ()) policy replies 0 := by
  have hfrom : ∀ i first, replyAt (replying replies) api (pure ()) first i = replies (first + i) := by
    intro i
    induction i with
    | zero => exact fun first => rfl
    | succ i ih =>
      intro first
      refine (ih (first + 1)).trans ?_
      rw [Nat.add_right_comm, Nat.add_assoc]
  have hsettled : settled api (fun _ => pure ()) 0 = 0 := ite_self 0
  intro i
  rw [hsettled, hfrom, Nat.zero_add]

/-! ## What the gate comes to -/

/-- A reply arrived whose body, without the blanks around it, is the text that is expected. -/
def IsHealthy (reply : Reply) : Prop :=
  ∃ response : Response, reply = .ok response ∧ Text.trim response.body = api.healthExpect

/-- How a reply is described: by the message about what went wrong if there is no response, and
otherwise by its status and its body without the blanks around it, of which no more than 120
characters are shown. -/
inductive Describes : Reply → String → Prop
  | lost (problem : String) :
    Describes (.error problem) ("GET " ++ api.healthUrl ++ " failed: " ++ problem)
  | whole (status : Nat) (body : String) (short : (Text.trim body).length ≤ 120) :
    Describes (.ok ⟨status, body⟩)
      ("HTTP " ++ Cause.integerText status ++ ": " ++ Text.trim body)
  | cut (status : Nat) (body shown hidden : String) (body_eq : Text.trim body = shown ++ hidden)
      (length_shown : shown.length = 120) (hidden_ne : hidden ≠ "") :
    Describes (.ok ⟨status, body⟩)
      ("HTTP " ++ Cause.integerText status ++ ": " ++ (shown ++ "..."))

/-- The first requests to the health URL, with the replies of a sequence. -/
def firstExchanges (replies : Nat → Reply) (count : Nat) : List Exchange :=
  (List.range count).map fun i => ⟨⟨.get, api.healthUrl, none, none⟩, replies i⟩

/-- What the gate comes to when at most `most` requests may be made and the service gives a sequence
of replies: the requests that are made, with their replies, and the result. -/
inductive Gated (most : Nat) (replies : Nat → Reply) :
    List Exchange → Except Failure Report → Prop
  | opened (first : Nat) (within : first < most) (before : ∀ i < first, ¬ IsHealthy api (replies i))
      (healthy : IsHealthy api (replies first)) :
    Gated most replies (firstExchanges api replies (first + 1))
      (.ok ⟨api.healthUrl, first + 1, api.settleSecs⟩)
  | spent (last : Nat) (budget : last + 1 = most) (never : ∀ i < most, ¬ IsHealthy api (replies i))
      {observed : String} (described : Describes api (replies last) observed) {failure : Failure}
      (code : failure.code = "health.check_failed")
      (details : failure.details = [("url", .text api.healthUrl), ("observed", .text observed)])
      (cause : failure = (Cause.unhealthy api.healthUrl observed).failure) :
    Gated most replies (firstExchanges api replies most) (.error failure)

variable {api}

/-- The test that is made of a reply. -/
lemma isReady_iff_isHealthy {reply : Reply} :
    isReady api.healthExpect reply = true ↔ IsHealthy api reply := by
  unfold IsHealthy
  cases reply with
  | error problem => simp [isReady]
  | ok response => simp [isReady]

/-- What is shown of a text that is too long are its first characters. -/
lemma exists_shorten_eq {length : Nat} {text : String} (h : length < text.length) :
    ∃ shown hidden, text = shown ++ hidden ∧ shown.length = length ∧ hidden ≠ "" ∧
      shorten length text = shown ++ "..." := by
  refine ⟨String.ofList (text.toList.take length), String.ofList (text.toList.drop length),
    ?_, ?_, ?_, ?_⟩
  · rw [← String.ofList_append, List.take_append_drop, String.ofList_toList]
  · rw [String.length_ofList, List.length_take, String.length_toList]
    omega
  · intro hempty
    have hnil : text.toList.drop length = [] := by simpa using hempty
    rw [List.drop_eq_nil_iff, String.length_toList] at hnil
    omega
  · unfold shorten
    rw [if_neg (Nat.not_le.mpr h)]

/-- What is observed of a reply describes it. -/
lemma describes_observation (reply : Reply) : Describes api reply (observation (probe api) reply) := by
  cases reply with
  | error problem => exact .lost problem
  | ok response =>
    by_cases hshort : (Text.trim response.body).length ≤ shownLength
    · have hobservation : observation (probe api) (.ok response) =
          "HTTP " ++ Cause.integerText response.status ++ ": " ++ Text.trim response.body := by
        dsimp only [observation]
        rw [shorten, if_pos hshort]
      rw [hobservation]
      exact .whole response.status response.body hshort
    · obtain ⟨shown, hidden, hbody, hlength, hhidden, hshown⟩ :=
        exists_shorten_eq (Nat.lt_of_not_le hshort)
      have hobservation : observation (probe api) (.ok response) =
          "HTTP " ++ Cause.integerText response.status ++ ": " ++ (shown ++ "...") := by
        dsimp only [observation]
        rw [hshown]
      rw [hobservation]
      exact .cut response.status response.body shown hidden hbody hlength hhidden

/-- The gate is opened by the first reply with the expected body, if the budget allows a request
that gets it, and every request goes to the health URL. Otherwise the whole budget is spent, and
what comes of it is the failure of the health check that describes the last reply. -/
theorem verify_opens_at_first_healthy (pause : Nat → StateM σ Unit) (policy : RetryPolicy)
    {replies : Nat → Reply} {s : σ} (h : Gives service api pause policy replies s) :
    Gated api (max 1 policy.maxAttempts) replies (sent service api pause policy s)
      (verify service pause api policy s).1 := by
  obtain ⟨waited, hattempts, hsent, hresult⟩ := verify_replyAt service api pause policy s
  have hreplies : replyAt service api (pause policy.delaySecs) (settled api pause s) = replies :=
    funext h
  rw [hreplies] at hattempts hsent hresult
  have hbudget : policy.budget = max 1 policy.maxAttempts := Nat.max_comm policy.maxAttempts 1
  have hlength : waited ≤ policy.budget - 1 := by
    simpa using hattempts.length_le
  have hbefore : ∀ i < waited, ¬ IsHealthy api (replies i) := by
    intro i hi hhealthy
    have hretried := hattempts.retried (replies i) (List.mem_map_of_mem (List.mem_range.mpr hi))
    rw [isReady_iff_isHealthy.mpr hhealthy] at hretried
    cases hretried
  rw [hsent, hresult]
  cases hready : isReady api.healthExpect (replies waited) with
  | true =>
    rw [judge, hready, if_pos rfl]
    exact .opened waited (by omega) hbefore (isReady_iff_isHealthy.mp hready)
  | false =>
    have hspent : waited + 1 = max 1 policy.maxAttempts := by
      have hends := hattempts.ends
      rw [hready, List.length_map, List.length_range] at hends
      rcases hends with hends | hends
      · omega
      · cases hends
    have hnever : ∀ i < max 1 policy.maxAttempts, ¬ IsHealthy api (replies i) := by
      intro i hi hhealthy
      rcases Nat.lt_succ_iff_lt_or_eq.mp (hspent ▸ hi) with hlt | rfl
      · exact hbefore i hlt hhealthy
      · rw [isReady_iff_isHealthy.mpr hhealthy] at hready
        cases hready
    rw [judge, hready, if_neg Bool.false_ne_true, hspent]
    exact .spent waited hspent hnever (describes_observation (replies waited)) rfl rfl rfl

/-- A service that first is out of reach behind its gateway, and then of the client, opens the gate
at the third request. -/
theorem verify_opens_at_third_reply :
    let api : Endpoints := ⟨"http://svc", "http://svc/gotrue", "/health", "OK", 0, 3⟩
    let replies : Nat → Reply := fun i =>
      if i = 0 then .ok ⟨502, "Bad Gateway"⟩
      else if i = 1 then .error "connection closed"
      else .ok ⟨200, "OK\n"⟩
    Gives (replying replies) api (fun _ => pure ()) ⟨3, 0⟩ replies 0 ∧
      sent (replying replies) api (fun _ => pure ()) ⟨3, 0⟩ 0 = firstExchanges api replies 3 ∧
      (verify (replying replies) (fun _ => pure ()) api ⟨3, 0⟩ 0).1 =
        .ok ⟨"http://svc/health", 3, 0⟩ := by
  intro api replies
  have hgives : Gives (replying replies) api (fun _ => pure ()) ⟨3, 0⟩ replies 0 :=
    replying_gives api ⟨3, 0⟩ replies
  have hgateway : ¬ IsHealthy api (replies 0) := mt isReady_iff_isHealthy.mpr (by decide)
  have hlost : ¬ IsHealthy api (replies 1) := mt isReady_iff_isHealthy.mpr (by decide)
  have hready : IsHealthy api (replies 2) := isReady_iff_isHealthy.mp (by decide)
  have hgated := verify_opens_at_first_healthy (replying replies) (fun _ => pure ()) ⟨3, 0⟩ hgives
  refine ⟨hgives, ?_⟩
  generalize sent (replying replies) api (fun _ => pure ()) ⟨3, 0⟩ 0 = exchanges at hgated ⊢
  generalize (verify (replying replies) (fun _ => pure ()) api ⟨3, 0⟩ 0).1 = result at hgated ⊢
  cases hgated with
  | opened first within before healthy =>
    have hfirst : first < 3 := within
    have hne_zero : first ≠ 0 := fun hzero => hgateway (hzero ▸ healthy)
    have hne_one : first ≠ 1 := fun hone => hlost (hone ▸ healthy)
    obtain rfl : first = 2 := by omega
    have hurl : api.healthUrl = "http://svc/health" := by decide
    rw [hurl]
    exact ⟨rfl, rfl⟩
  | spent last budget never => exact absurd hready (never 2 (by decide))

end Shipyard.Health
