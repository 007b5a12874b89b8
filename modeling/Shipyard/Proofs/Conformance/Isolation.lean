import Shipyard.CommandLine.Commands
import Shipyard.Proofs.Conformance.Confidential

/-!
# Identities do not touch one another

What is done for an identity goes by the suite, the endpoints, the identity itself and the replies
to its own requests. Two runs are compared here that may have different services and different
identities around the one that is looked at. As long as its requests are answered alike, its part is
the same in both: the same requests, and the same lines in the report.

Both parts take the course of an identity that is served. So it is shown that such a course is
determined by its replies, and this is shown for its steps one after the other: what is done up to a
request determines the request, and the request and its reply determine what is known behind it.

A service that answers every request in one way answers the requests of each identity alike, whoever
else is served. The report of some of the identities is then what the report of all of them has
about these.
-/

namespace Shipyard.Conformance

open CommandLine (selectIdentities)
open Http (Exchange Reply Request Service)

/-! ## Alike replies -/

/-- Two lists of exchanges are answered alike: where they make the same request at the same place,
they get the same reply. This asks less than the same reply at every place. -/
def AnsweredAlike (es es' : List Exchange) : Prop :=
  ∀ (i : Nat) (e e' : Exchange), es[i]? = some e → es'[i]? = some e' →
    e.request = e'.request → e.reply = e'.reply

/-- What is behind equal exchanges is answered alike if all is. -/
lemma AnsweredAlike.of_append {es later later' : List Exchange}
    (h : AnsweredAlike (es ++ later) (es ++ later')) : AnsweredAlike later later' := by
  intro i e e' he he'
  refine h (es.length + i) e e' ?_ ?_
  · rw [List.getElem?_append_right (Nat.le_add_right _ _), Nat.add_sub_cancel_left, he]
  · rw [List.getElem?_append_right (Nat.le_add_right _ _), Nat.add_sub_cancel_left, he']

/-- Exchanges about one request are equal if they come first in lists that are answered alike. -/
lemma AnsweredAlike.head_eq {e e' : Exchange} {later later' : List Exchange}
    (h : AnsweredAlike (e :: later) (e' :: later')) (hrequest : e.request = e'.request) : e = e' := by
  have hreply : e.reply = e'.reply := h 0 e e' rfl rfl hrequest
  cases e
  cases e'
  cases hrequest
  cases hreply
  rfl

/-! ## Courses are determined by their replies -/

variable {api : Endpoints} {identity token : Option String} {values values₁ values₂ : Values}
  {later later' : List Exchange}

/-- A case that is run with the same values and answered alike comes to the same. -/
lemma Case.Runs.determined {case : Case} {step step' : Step}
    (h : case.Runs api identity token values step values₁)
    (h' : case.Runs api identity token values step' values₂)
    (halike : AnsweredAlike (step.exchange.toList ++ later) (step'.exchange.toList ++ later')) :
    step = step' ∧ values₁ = values₂ := by
  cases h with
  | leftOut missing =>
    cases h' with
    | leftOut missing' => exact ⟨rfl, rfl⟩
    | asked exchange' filled' request' =>
      exact absurd (Values.missing_eq_nil_iff.mpr (Template.known_of_render filled')) missing
  | asked exchange filled request =>
    cases h' with
    | leftOut missing' =>
      exact absurd (Values.missing_eq_nil_iff.mpr (Template.known_of_render filled)) missing'
    | asked exchange' filled' request' =>
      rw [filled] at filled'
      cases filled'
      obtain rfl : exchange = exchange' :=
        AnsweredAlike.head_eq halike (request.trans request'.symm)
      exact ⟨rfl, rfl⟩

/-- A chain that begins with the same values and is answered alike comes to the same. -/
lemma Chain.determined {cases : List Case} {steps steps' : List Step}
    (h : Chain api identity token values cases steps)
    (h' : Chain api identity token values cases steps')
    (halike : AnsweredAlike (exchanges steps ++ later) (exchanges steps' ++ later')) :
    steps = steps' := by
  induction h generalizing steps' with
  | nil =>
    cases h'
    rfl
  | cons first rest ih =>
    cases h' with
    | cons first' rest' =>
      rw [exchanges_cons, exchanges_cons, List.append_assoc, List.append_assoc] at halike
      -- the first step is the same, and so the rest begins with the same values
      obtain ⟨rfl, rfl⟩ := first.determined first' halike
      rw [ih rest' halike.of_append]

/-- A refresh that is answered alike comes to the same. -/
lemma Refreshed.determined {name : String} {tokens : Tokens} {step step' : Step}
    (h : Refreshed api name tokens step) (h' : Refreshed api name tokens step')
    (halike : AnsweredAlike step.exchange.toList step'.exchange.toList) : step = step' := by
  cases h with
  | leftOut absent =>
    cases h' with
    | leftOut absent' => rfl
    | asked exchange' held' request' =>
      rw [absent] at held'
      cases held'
  | asked exchange held request =>
    cases h' with
    | leftOut absent' =>
      rw [absent'] at held
      cases held
    | asked exchange' held' request' =>
      rw [held] at held'
      cases held'
      obtain rfl : exchange = exchange' :=
        AnsweredAlike.head_eq halike (request.trans request'.symm)
      rfl

/-- Logins of one identity that are answered alike are equal, and what is behind them is answered
alike. -/
lemma AnsweredAlike.login_eq {identity : Identity} {login login' : Exchange}
    {rest rest' : List Step}
    (h : AnsweredAlike (exchanges (loginStep identity.name login :: rest))
      (exchanges (loginStep identity.name login' :: rest')))
    (request : login.request = loginRequest api.authUrl identity)
    (request' : login'.request = loginRequest api.authUrl identity) :
    login = login' ∧ AnsweredAlike (exchanges rest) (exchanges rest') := by
  rw [exchanges_cons, exchanges_cons] at h
  obtain rfl : login = login' := AnsweredAlike.head_eq h (request.trans request'.symm)
  exact ⟨rfl, h.of_append⟩

/-- An identity whose requests are answered alike is served in the same way. -/
lemma Served.determined {cases : List Case} {identity : Identity} {steps steps' : List Step}
    (h : Served api cases identity steps) (h' : Served api cases identity steps')
    (halike : AnsweredAlike (exchanges steps) (exchanges steps')) : steps = steps' := by
  cases h with
  | admitted login request accepted chain refreshed =>
    cases h' with
    | admitted login' request' accepted' chain' refreshed' =>
      obtain ⟨rfl, hrest⟩ := halike.login_eq request request'
      rw [accepted] at accepted'
      cases accepted'
      rw [exchanges_append, exchanges_append] at hrest
      -- what is asked after the chain comes at the same place only because the chains are equal
      obtain rfl := chain.determined chain' hrest
      have hrefresh := hrest.of_append
      rw [exchanges_cons, exchanges_cons, exchanges_nil, List.append_nil, List.append_nil]
        at hrefresh
      rw [refreshed.determined refreshed' hrefresh]
    | refused login' request' rejected' =>
      obtain ⟨rfl, -⟩ := halike.login_eq request request'
      rw [accepted] at rejected'
      cases rejected'
  | refused login request rejected =>
    cases h' with
    | admitted login' request' accepted' chain' refreshed' =>
      obtain ⟨rfl, -⟩ := halike.login_eq request request'
      rw [rejected] at accepted'
      cases accepted'
    | refused login' request' rejected' =>
      obtain ⟨rfl, -⟩ := halike.login_eq request request'
      rfl

/-! ## The part of an identity -/

/-- A part is behind the run as the part of an identity: in front of it are the steps that stand for
the open cases and the identities in front, its own steps stand for the probes of the identity, and
those of the identities behind it follow. -/
structure IsPart {σ : Type} (service : Service (StateM σ)) (api : Endpoints) (cases : List Case)
    (before : List Identity) (identity : Identity) (after : List Identity) (s : σ)
    (part : List Step) : Prop where
  behind : ∃ front back,
    Behind service api cases (before ++ identity :: after) s (front ++ part ++ back) ∧
      StandFor front (Probe.all cases before)
  standFor : StandFor part (Probe.ofIdentity cases identity)

/-- The parts of identities that are served are those in front of one of them, its own, and those
behind it. -/
lemma exists_part_of_served {cases : List Case} {before : List Identity} {identity : Identity}
    {after : List Identity} {parts : List (List Step)}
    (h : List.Forall₂ (Served api cases) (before ++ identity :: after) parts) :
    ∃ front part back, parts = front ++ part :: back ∧
      List.Forall₂ (Served api cases) before front ∧ Served api cases identity part := by
  induction before generalizing parts with
  | nil =>
    obtain ⟨part, back, hpart, -, rfl⟩ := List.forall₂_cons_left_iff.mp h
    exact ⟨[], part, back, rfl, .nil, hpart⟩
  | cons _ before ih =>
    obtain ⟨first, rest, hfirst, hrest, rfl⟩ := List.forall₂_cons_left_iff.mp h
    obtain ⟨front, part, back, rfl, hfront, hpart⟩ := ih hrest
    exact ⟨first :: front, part, back, rfl, .cons hfirst hfront, hpart⟩

/-- Every identity of a run has a part, and it is the course of an identity that is served. -/
lemma exists_isPart {σ : Type} (service : Service (StateM σ)) (api : Endpoints) (cases : List Case)
    (before : List Identity) (identity : Identity) (after : List Identity) (s : σ) :
    ∃ part, IsPart service api cases before identity after s part ∧
      Served api cases identity part := by
  obtain ⟨opening, parts, hbehind, hopened, hserved⟩ :=
    exists_course service api cases (before ++ identity :: after) s
  obtain ⟨front, part, back, rfl, hfront, hpart⟩ := exists_part_of_served hserved
  refine ⟨part, ⟨⟨opening ++ front.flatten, back.flatten, ?_, ?_⟩, hpart.standFor⟩, hpart⟩
  · rw [List.flatten_append, List.flatten_cons, ← List.append_assoc, ← List.append_assoc] at hbehind
    exact hbehind
  · exact (Chain.standFor none hopened).append (standFor_of_served hfront)

section Unique

variable {σ : Type} {service : Service (StateM σ)} {cases : List Case} {s : σ}

/-- What the steps of a run have for an identity is its part. -/
lemma IsPart.of_runSteps {before after : List Identity} {identity : Identity}
    {front part back : List Step}
    (h : (runSteps (service.traced id) api cases (before ++ identity :: after) ⟨s, []⟩).1 =
      front ++ part ++ back)
    (hfront : StandFor front (Probe.all cases before))
    (hpart : StandFor part (Probe.ofIdentity cases identity)) :
    IsPart service api cases before identity after s part := by
  have hbehind := runSteps_behind service api cases (before ++ identity :: after) s
  rw [h] at hbehind
  exact ⟨⟨front, back, hbehind, hfront⟩, hpart⟩

/-- The part of an identity is determined by the run. -/
lemma IsPart.unique {before after : List Identity} {identity : Identity} {part part' : List Step}
    (h : IsPart service api cases before identity after s part)
    (h' : IsPart service api cases before identity after s part') : part = part' := by
  obtain ⟨⟨front, back, hbehind, hfront⟩, hpart⟩ := h
  obtain ⟨⟨front', back', hbehind', hfront'⟩, hpart'⟩ := h'
  have hsteps := hbehind.unique hbehind'
  rw [List.append_assoc, List.append_assoc] at hsteps
  obtain ⟨-, hbehindFront⟩ :=
    List.append_inj hsteps (hfront.length_eq.trans hfront'.length_eq.symm)
  exact (List.append_inj hbehindFront (hpart.length_eq.trans hpart'.length_eq.symm)).1

/-- The part of an identity is the course of an identity that is served. -/
lemma IsPart.served {before after : List Identity} {identity : Identity} {part : List Step}
    (h : IsPart service api cases before identity after s part) :
    Served api cases identity part := by
  obtain ⟨part', hpart', hserved⟩ := exists_isPart service api cases before identity after s
  rwa [h.unique hpart']

end Unique

/-! ## Services that answer in one way -/

/-- A service answers in one way: its reply depends on the request alone. -/
def Answers {σ : Type} (service : Service (StateM σ)) (answer : Request → Reply) : Prop :=
  ∀ request s, (service.send request s).1 = answer request

/-- The relation between actions and what they come to in every state. -/
def constancy (σ : Type) : ActionRelation (StateM σ) Id where
  Alike x y := ∀ s, (x s).1 = y
  pure _ _ := rfl
  bind {α β x y f g} hx hf s := by
    rw [eval_bind, hf _ _, hx s]
    rfl

/-- The service that answers in one way and has no state. -/
def answering (answer : Request → Reply) : Service Id := ⟨answer⟩

variable {σ : Type} {service : Service (StateM σ)} {answer : Request → Reply}

/-- A service that answers in one way does what the service without a state does. -/
lemma Answers.alike (h : Answers service answer) :
    service.Alike (constancy σ) (answering answer) := ⟨h⟩

/-- The lines of an identity with a service that answers in one way. -/
def linesOf (answer : Request → Reply) (api : Endpoints) (cases : List Case)
    (identity : Identity) : List Entry :=
  (Id.run (runIdentity (answering answer) api cases identity)).map Step.entry

/-- The lines of the open cases with a service that answers in one way. -/
def openingOf (answer : Request → Reply) (api : Endpoints) (cases : List Case) : List Entry :=
  (Id.run (runChain (answering answer) api none none [] (openCases cases))).map Step.entry

/-- Without a state, identities are served one by one. -/
lemma runIdentities_answering (identities : List Identity) (cases : List Case) :
    Id.run (runIdentities (answering answer) api cases identities) =
      identities.flatMap fun identity =>
        Id.run (runIdentity (answering answer) api cases identity) := by
  induction identities with
  | nil => rfl
  | cons identity identities ih =>
    rw [List.flatMap_cons, ← ih]
    rfl

/-- The report of a service that answers in one way has the lines of the open cases and those of
each identity. -/
lemma Answers.run_eq (h : Answers service answer) (cases : List Case) (identities : List Identity)
    (s : σ) : (run service api cases identities s).1 =
      .ofEntries (openingOf answer api cases ++ identities.flatMap (linesOf answer api cases)) := by
  have hlines : ((runIdentities (answering answer) api cases identities : Id _)).map Step.entry =
      identities.flatMap (linesOf answer api cases) := by
    change (Id.run (runIdentities (answering answer) api cases identities)).map Step.entry = _
    rw [runIdentities_answering, List.map_flatMap]
    rfl
  rw [run_alike h.alike api cases identities s, ← hlines]
  change Report.ofEntries (List.map Step.entry (_ ++ _)) = _
  rw [List.map_append]
  rfl

/-- The lines of the open cases are about nobody in particular. -/
lemma Answers.identity_of_mem_openingOf (h : Answers service answer) (cases : List Case) (s : σ)
    {e : Entry} (he : e ∈ openingOf answer api cases) : e.identity = none := by
  have hlines : openingOf answer api cases =
      (runChain service api none none [] (openCases cases) s).1.map Step.entry :=
    congrArg (List.map Step.entry) (runChain_alike h.alike api none none [] (openCases cases) s).symm
  rw [hlines] at he
  obtain ⟨step, hstep, rfl⟩ := List.mem_map.mp he
  have hstandFor := Chain.standFor none (runChain_chain service api none none [] (openCases cases) s)
  obtain ⟨probe, hprobe, heq⟩ := hstandFor.exists_label_eq hstep
  obtain ⟨case, -, rfl⟩ := List.mem_map.mp hprobe
  exact congrArg Prod.fst heq

/-- The probes of an identity are made for it. -/
lemma Probe.identity_of_mem_ofIdentity {cases : List Case} {identity : Identity} {probe : Probe}
    (h : probe ∈ Probe.ofIdentity cases identity) : probe.identity = some identity.name := by
  rcases List.mem_cons.mp h with rfl | h
  · rfl
  · rcases List.mem_append.mp h with h | h
    · obtain ⟨case, -, rfl⟩ := List.mem_map.mp h
      rfl
    · obtain rfl := List.mem_singleton.mp h
      rfl

/-- The lines of an identity are about it. -/
lemma Answers.identity_of_mem_linesOf (h : Answers service answer) (cases : List Case) (s : σ)
    {identity : Identity} {e : Entry} (he : e ∈ linesOf answer api cases identity) :
    e.identity = some identity.name := by
  have hlines : linesOf answer api cases identity =
      (runIdentity service api cases identity s).1.map Step.entry :=
    congrArg (List.map Step.entry) (runIdentity_alike h.alike api cases identity s).symm
  rw [hlines] at he
  obtain ⟨step, hstep, rfl⟩ := List.mem_map.mp he
  have hstandFor := (runIdentity_served service api cases identity s).standFor
  obtain ⟨probe, hprobe, heq⟩ := hstandFor.exists_label_eq hstep
  exact (congrArg Prod.fst heq).trans (Probe.identity_of_mem_ofIdentity hprobe)

/-- If a choice among lines is a choice among identities, the chosen lines are the lines of the
chosen identities. -/
lemma filter_flatMap_of_forall {lines : Identity → List Entry} {keeps : Entry → Bool}
    {chosen : Identity → Bool} {identities : List Identity}
    (h : ∀ identity ∈ identities, ∀ e ∈ lines identity, keeps e = chosen identity) :
    (identities.flatMap lines).filter keeps = (identities.filter chosen).flatMap lines := by
  induction identities with
  | nil => rfl
  | cons identity identities ih =>
    have hfirst := h identity List.mem_cons_self
    rw [List.flatMap_cons, List.filter_append, ih fun x hx => h x (List.mem_cons_of_mem _ hx)]
    by_cases hchosen : chosen identity = true
    · rw [List.filter_cons_of_pos hchosen, List.flatMap_cons,
        List.filter_eq_self.mpr fun e he => (hfirst e he).trans hchosen]
    · rw [List.filter_cons_of_neg hchosen,
        List.filter_eq_nil_iff.mpr fun e he => (hfirst e he).symm ▸ hchosen, List.nil_append]

/-- The identities that are selected by their names: all or those with one of the names. -/
lemma selectIdentities_eq {identities selected : List Identity} {names : List String}
    (h : selectIdentities identities names = .ok selected) :
    ∃ chosen : String → Bool, selected = identities.filter fun identity => chosen identity.name := by
  unfold selectIdentities at h
  split at h
  · cases h
    exact ⟨fun _ => true, (List.filter_eq_self.mpr fun _ _ => rfl).symm⟩
  · dsimp only at h
    split at h
    · cases h
    · cases h
      exact ⟨names.contains, rfl⟩

/-- Whether a line is about nobody in particular or about one of some identities. -/
def Entry.isAbout (identities : List Identity) (e : Entry) : Bool :=
  e.identity.all fun name => identities.any fun identity => identity.name = name

/-- The report of the identities that are selected has the lines of the whole report that are about
nobody in particular or about one of them. -/
lemma Answers.run_selected (h : Answers service answer) (cases : List Case)
    {identities selected : List Identity} {names : List String}
    (hselected : selectIdentities identities names = .ok selected) (s s' : σ) :
    (run service api cases selected s').1 =
      .ofEntries ((run service api cases identities s).1.entries.filter
        (Entry.isAbout selected)) := by
  obtain ⟨chosen, rfl⟩ := selectIdentities_eq hselected
  rw [h.run_eq, h.run_eq, Report.ofEntries_entries, List.filter_append]
  congr 2
  · refine (List.filter_eq_self.mpr fun e he => ?_).symm
    unfold Entry.isAbout
    rw [h.identity_of_mem_openingOf cases s he]
    rfl
  · -- identities of one name are selected together, so the name tells whether a line is kept
    refine (filter_flatMap_of_forall fun identity hidentity e he => ?_).symm
    unfold Entry.isAbout
    rw [h.identity_of_mem_linesOf cases s he, Option.all_some, Bool.eq_iff_iff, List.any_eq_true]
    constructor
    · rintro ⟨other, hother, hname⟩
      rw [← of_decide_eq_true hname]
      exact (List.mem_filter.mp hother).2
    · intro hchosen
      exact ⟨identity, List.mem_filter.mpr ⟨hidentity, hchosen⟩, decide_eq_true rfl⟩

/-- Identities are isolated. In every run each identity has its part. In two runs with any services,
and with any identities in front of an identity and behind it, its parts are the same if its
requests are answered alike. With a service that answers in one way, the report of a run is made up
of the lines of the open cases and those of each identity, and the report of selected identities is
the whole report without the lines of the others. -/
theorem identities_are_isolated (api : Endpoints) (cases : List Case) :
    (∀ {σ : Type} (service : Service (StateM σ)) (before : List Identity) (identity : Identity)
        (after : List Identity) (s : σ),
      ∃! part, IsPart service api cases before identity after s part) ∧
    (∀ {σ τ : Type} (service : Service (StateM σ)) (service' : Service (StateM τ))
        (identity : Identity) (before after before' after' : List Identity) (s : σ) (s' : τ)
        (part part' : List Step),
      IsPart service api cases before identity after s part →
      IsPart service' api cases before' identity after' s' part' →
      AnsweredAlike (exchanges part) (exchanges part') → part = part') ∧
    (∀ {σ : Type} (service : Service (StateM σ)) (answer : Request → Reply),
      Answers service answer →
      (∃ (opening : List Entry) (lines : Identity → List Entry), ∀ identities s,
        (run service api cases identities s).1 =
          .ofEntries (opening ++ identities.flatMap lines)) ∧
      ∀ identities names selected, selectIdentities identities names = .ok selected → ∀ s s',
        (run service api cases selected s').1 =
          .ofEntries ((run service api cases identities s).1.entries.filter
            (Entry.isAbout selected))) := by
  refine ⟨?_, ?_, ?_⟩
  · intro σ service before identity after s
    obtain ⟨part, hpart, -⟩ := exists_isPart service api cases before identity after s
    exact ⟨part, hpart, fun part' hpart' => hpart'.unique hpart⟩
  · intro σ τ service service' identity before after before' after' s s' part part' hpart hpart'
    exact hpart.served.determined hpart'.served
  · intro σ service answer hanswers
    refine ⟨⟨openingOf answer api cases, linesOf answer api cases, hanswers.run_eq cases⟩, ?_⟩
    intro identities names selected hselected s s'
    exact hanswers.run_selected cases hselected s s'

/-- The part of an identity is the same behind one whose login gets no response as when nobody else
is served. With a service that answers in one way the report of the second of two identities is that
of both without the lines of the first. -/
theorem part_behind_lost_login :
    let ann : Identity := ⟨"ann", .email, "ann@svc", "first"⟩
    let bob : Identity := ⟨"bob", .email, "bob@svc", "second"⟩
    let api : Endpoints := ⟨"http://svc", "http://svc/gotrue", "/health", "OK", 0, 1⟩
    let granted := tokenResponse "access-token-of-bob-at-svc" "refresh-token-of-bob"
    let replies : List Reply := [.ok granted, .ok ⟨200, "bob"⟩, .ok granted]
    let answer : Request → Reply := fun _ => .ok granted
    let steady : Service (StateM Unit) := ⟨fun request => pure (answer request)⟩
    (∃ part part',
      IsPart scripted api [ownCase] [ann] bob [] (.error "timeout" :: replies) part ∧
      IsPart scripted api [ownCase] [] bob [] replies part' ∧
      AnsweredAlike (exchanges part) (exchanges part') ∧ part = part') ∧
    Answers steady answer ∧ selectIdentities [ann, bob] ["bob"] = .ok [bob] ∧
      (run steady api [ownCase] [bob] ()).1 =
        .ofEntries ((run steady api [ownCase] [ann, bob] ()).1.entries.filter
          (Entry.isAbout [bob])) := by
  intro ann bob api granted replies answer steady
  have hlogin : Tokens.ofResponse granted =
      .ok ⟨"access-token-of-bob-at-svc", some "refresh-token-of-bob"⟩ :=
    ofResponse_tokenResponse (by decide) (by decide)
  let own := ownSteps api bob ("access-token-of-bob-at-svc", "refresh-token-of-bob") granted
    (.ok ⟨200, "bob"⟩) granted
  have hpart : IsPart scripted api [ownCase] [ann] bob [] (.error "timeout" :: replies) own := by
    let lost : Exchange := ⟨loginRequest api.authUrl ann, .error "timeout"⟩
    have hann : runIdentity (scripted.traced id) api [ownCase] ann
        ⟨.error "timeout" :: replies, []⟩ =
          (loginStep ann.name lost :: blockedSteps [ownCase] ann.name, ⟨replies, [lost]⟩) := rfl
    have hopen : openCases [ownCase] = [] := rfl
    have hrun : (runSteps (scripted.traced id) api [ownCase] ([ann] ++ [bob])
        ⟨.error "timeout" :: replies, []⟩).1 =
          loginStep ann.name lost :: blockedSteps [ownCase] ann.name ++ own ++ [] := by
      simp only [runSteps, runIdentities, runChain, hopen, eval_bind, eval_pure, hann, replies,
        runIdentity_scripted api bob hlogin, List.singleton_append, List.nil_append,
        List.append_nil, own]
    exact .of_runSteps hrun rfl rfl
  have hpart' : IsPart scripted api [ownCase] [] bob [] replies own := by
    have hrun : (runSteps (scripted.traced id) api [ownCase] ([] ++ [bob]) ⟨replies, []⟩).1 =
        [] ++ own ++ [] := runSteps_scripted api bob hlogin _
    exact .of_runSteps hrun rfl rfl
  have halike : AnsweredAlike (exchanges own) (exchanges own) := by
    intro i e e' he he' _
    rw [he] at he'
    rw [Option.some.inj he']
  have hanswers : Answers steady answer := fun _ _ => rfl
  have hbob : selectIdentities [ann, bob] ["bob"] = .ok [bob] := by rfl
  obtain ⟨-, hsame, hselected⟩ := identities_are_isolated api [ownCase]
  have hequal := hsame scripted scripted bob [ann] [] [] [] _ _ own own hpart hpart' halike
  exact ⟨⟨own, own, hpart, hpart', halike, hequal⟩, hanswers, hbob,
    (hselected steady answer hanswers).2 _ _ _ hbob () ()⟩

end Shipyard.Conformance
