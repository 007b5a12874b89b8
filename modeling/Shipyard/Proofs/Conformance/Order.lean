import Shipyard.Proofs.Conformance.Account
import Shipyard.Proofs.Trace.Faithful

/-!
# The order of a report

The lines of a report stand in an order that the suite and the identities fix, whatever the service
answers: the open cases, and then for each identity its login, its cases and its refresh. The
requests of a run are the exchanges behind those of its lines that are not skipped, one for each and
in the same order. An identity whose login does not pass has nothing behind it but skipped lines.

The proof runs along the identities. The part of one of them covers its probes, and whether it is
blocked is decided by its login alone, so parts can be put together without looking into them again.
-/

namespace Shipyard.Conformance

open Http (Exchange Service)

/-! ## The part of one identity -/

/-- The steps of an identity settle its probes. Behind a login that does not pass, each of them says
that the access token is missing. -/
structure IdentitySteps (api : Endpoints) (cases : List Case) (identity : Identity)
    (steps : List Step) : Prop where
  settle : List.Forall₂ (Settles api) (Probe.ofIdentity cases identity) steps
  blocked : ∀ login later, steps = login :: later → login.entry.outcome ≠ .pass →
    ∀ step ∈ later, step.entry.outcome = .skipped [accessTokenName]

variable {σ ε : Type} (service : Service (StateM σ)) (event : Exchange → ε) (api : Endpoints)
  (cases : List Case)

/-- A login passes if its exchange gives tokens. -/
lemma loginStep_outcome_of_ok {identity : String} {login : Exchange} {tokens : Tokens}
    (h : tokensOf login = .ok tokens) : (loginStep identity login).entry.outcome = .pass := by
  change tokenOutcome login = .pass
  unfold tokenOutcome
  rw [h]

/-- A login that gives no tokens has failed. -/
lemma loginStep_outcome_of_error {identity : String} {login : Exchange} {reason : Reason}
    (h : tokensOf login = .error reason) :
    (loginStep identity login).entry.outcome = .fail reason := by
  change tokenOutcome login = .fail reason
  unfold tokenOutcome
  rw [h]

/-- An identity that is let in has its cases run in order, and then its refresh. -/
lemma runBehindLogin_covers (identity : Identity) (tokens : Tokens) :
    Covers event api (Probe.behindLogin cases identity) (do
      let steps ← runChain (service.traced event) api (some identity.name) (some tokens.access) []
        (bearerCases cases)
      let refresh ← runRefresh (service.traced event) api identity.name tokens
      return steps ++ [refresh]) := by
  intro t
  obtain ⟨hcases, htrace⟩ :=
    runChain_covers service event api (some identity) (some tokens.access) rfl []
      (bearerCases cases) t
  simp only [eval_bind, eval_pure, Option.map_some] at hcases htrace ⊢
  obtain ⟨hrefresh, htrace'⟩ := runRefresh_covers service event api identity tokens
    (runChain (service.traced event) api (some identity.name) (some tokens.access) []
      (bearerCases cases) t).2
  refine ⟨List.rel_append hcases (.cons hrefresh .nil), ?_⟩
  rw [htrace', htrace, exchanges_append, exchanges_cons, exchanges_nil, List.append_nil,
    List.map_append, List.append_assoc]

/-- The run of an identity settles its probes, and its exchanges are put on the trace. -/
lemma runIdentity_steps (identity : Identity) (t : Traced σ ε) :
    IdentitySteps api cases identity (runIdentity (service.traced event) api cases identity t).1 ∧
      (runIdentity (service.traced event) api cases identity t).2.trace = t.trace ++
        (exchanges (runIdentity (service.traced event) api cases identity t).1).map event := by
  obtain ⟨⟨login, t'⟩, hlogin⟩ : ∃ ran, (service.traced event).exchange
      (loginRequest api.authUrl identity) t = ran := ⟨_, rfl⟩
  have hrequest : login.request = loginRequest api.authUrl identity := by
    rw [← Service.traced_exchange_request service event (loginRequest api.authUrl identity) t,
      hlogin]
  have htrace : t'.trace = t.trace ++ [event login] := by
    have h := Service.traced_exchange_trace service event (loginRequest api.authUrl identity) t
    rwa [hlogin] at h
  have hsettles : Settles api (.login identity) (loginStep identity.name login) :=
    .made login hrequest
  unfold runIdentity
  rw [eval_bind, hlogin]
  cases htokens : tokensOf login with
  | ok tokens =>
    obtain ⟨hsteps, htrace'⟩ := runBehindLogin_covers service event api cases identity tokens t'
    simp only [eval_bind, eval_pure] at hsteps htrace' ⊢
    refine ⟨⟨.cons hsettles hsteps, ?_⟩, ?_⟩
    · -- the login has passed
      rintro _ _ ⟨⟩ hfailed
      exact absurd (loginStep_outcome_of_ok htokens) hfailed
    · rw [htrace', htrace, List.append_assoc]
      rfl
  | error reason =>
    refine ⟨⟨.cons hsettles (blockedSteps_settle api cases identity), ?_⟩, ?_⟩
    · rintro _ _ ⟨⟩ _ step hstep
      exact blockedSteps_outcome hstep
    · simp only [eval_pure]
      rw [htrace, exchanges_cons, blockedSteps_exchanges]
      rfl

/-! ## A whole run -/

/-- The runs of identities are their parts, one behind the other. -/
lemma runIdentities_steps (identities : List Identity) (t : Traced σ ε) :
    ∃ parts, (runIdentities (service.traced event) api cases identities t).1 = parts.flatten ∧
      List.Forall₂ (IdentitySteps api cases) identities parts ∧
      (runIdentities (service.traced event) api cases identities t).2.trace =
        t.trace ++ (exchanges parts.flatten).map event := by
  induction identities generalizing t with
  | nil => exact ⟨[], rfl, .nil, (List.append_nil _).symm⟩
  | cons identity identities ih =>
    obtain ⟨hpart, htrace⟩ := runIdentity_steps service event api cases identity t
    obtain ⟨parts, hsteps, hparts, htrace'⟩ :=
      ih (runIdentity (service.traced event) api cases identity t).2
    refine ⟨_ :: parts, ?_, .cons hpart hparts, ?_⟩
    · simp only [runIdentities, eval_bind, eval_pure, hsteps, List.flatten_cons]
    · simp only [runIdentities, eval_bind, eval_pure, htrace', htrace, List.flatten_cons,
        exchanges_append, List.map_append, List.append_assoc]

/-- A run is the opening, in which nobody in particular is served, and the parts of the identities.
Its exchanges are all that is put on the trace. -/
lemma runSteps_parts (identities : List Identity) (t : Traced σ ε) :
    ∃ opening parts,
      (runSteps (service.traced event) api cases identities t).1 = opening ++ parts.flatten ∧
        List.Forall₂ (Settles api) ((openCases cases).map (.ofCase none)) opening ∧
        List.Forall₂ (IdentitySteps api cases) identities parts ∧
        (runSteps (service.traced event) api cases identities t).2.trace =
          t.trace ++ (exchanges (opening ++ parts.flatten)).map event := by
  obtain ⟨hopening, htrace⟩ :=
    runChain_covers service event api none none rfl [] (openCases cases) t
  rw [Option.map_none] at hopening htrace
  obtain ⟨parts, hsteps, hparts, htrace'⟩ := runIdentities_steps service event api cases identities
    (runChain (service.traced event) api none none [] (openCases cases) t).2
  refine ⟨_, parts, ?_, hopening, hparts, ?_⟩
  · simp only [runSteps, eval_bind, eval_pure, hsteps]
  · simp only [runSteps, eval_bind, eval_pure, htrace', htrace, exchanges_append, List.map_append,
      List.append_assoc]

/-- The lines of a report are the lines that were recorded, in the same order. -/
lemma Report.ofEntries_entries (entries : List Entry) :
    (Report.ofEntries entries).entries = entries := by
  have hfold : ∀ r : Report, (entries.foldl Report.record r).entries = r.entries ++ entries := by
    induction entries with
    | nil => exact fun r => (List.append_nil _).symm
    | cons e entries ih =>
      intro r
      rw [List.foldl_cons, ih]
      change r.entries ++ [e] ++ entries = r.entries ++ e :: entries
      rw [List.append_assoc, List.singleton_append]
  exact hfold {}

/-- The steps of a run settle all its probes. -/
lemma settles_all {identities : List Identity} {opening : List Step} {parts : List (List Step)}
    (hopening : List.Forall₂ (Settles api) ((openCases cases).map (.ofCase none)) opening)
    (hparts : List.Forall₂ (IdentitySteps api cases) identities parts) :
    List.Forall₂ (Settles api) (Probe.all cases identities) (opening ++ parts.flatten) := by
  refine List.rel_append hopening ?_
  induction hparts with
  | nil => exact .nil
  | cons hpart _ ih =>
    rw [List.flatMap_cons, List.flatten_cons]
    exact List.rel_append hpart.settle ih

/-- A step among steps that settle probes settles one of the probes. -/
lemma exists_settles_of_mem {probes : List Probe} {steps : List Step}
    (h : List.Forall₂ (Settles api) probes steps) {step : Step} (hstep : step ∈ steps) :
    ∃ probe ∈ probes, Settles api probe step := by
  induction h with
  | nil => cases hstep
  | cons hfirst _ ih =>
    rcases List.mem_cons.mp hstep with rfl | hstep
    · exact ⟨_, List.mem_cons_self, hfirst⟩
    · obtain ⟨probe, hprobe, hsettles⟩ := ih hstep
      exact ⟨probe, List.mem_cons_of_mem _ hprobe, hsettles⟩

/-- The lines of steps that settle probes bear the labels of the probes. -/
lemma labels_eq {probes : List Probe} {steps : List Step}
    (h : List.Forall₂ (Settles api) probes steps) :
    (steps.map Step.entry).map Entry.label = probes.map Probe.label := by
  induction h with
  | nil => rfl
  | cons hstep _ ih => rw [List.map_cons, List.map_cons, List.map_cons, ih, hstep.label]

/-- A run asks nothing but what is asked for its probes. -/
lemma run_emits (identities : List Identity) :
    Emits (fun e => ∃ exchange, e = event exchange ∧
        ∃ probe ∈ Probe.all cases identities, probe.Asks api exchange.request)
      (run (service.traced event) api cases identities) := by
  intro t
  obtain ⟨opening, parts, -, hopening, hparts, htrace⟩ :=
    runSteps_parts service event api cases identities t
  have hsettle := settles_all api cases hopening hparts
  refine ⟨_, htrace, fun e he => ?_⟩
  obtain ⟨exchange, hexchange, rfl⟩ := List.mem_map.mp he
  obtain ⟨step, hstep, hsome⟩ := List.mem_filterMap.mp hexchange
  obtain ⟨probe, hprobe, hsettles⟩ := exists_settles_of_mem api hsettle hstep
  exact ⟨exchange, rfl, probe, hprobe, hsettles.asks hsome⟩

/-- A traced run of a suite is the run without a trace. Its report has a line for every probe of the
run and no others, in their order. Behind the lines are steps. Each of them settles its probe, with
the one request that was made for it or, if its line is a skipped one, without a request; the
requests of the steps are all that is sent. The steps of an identity whose login does not pass are
skipped for want of its access token. -/
theorem run_accounts_for_probes (identities : List Identity) (t : Traced σ ε) :
    Traced.Faithful (run (service.traced event) api cases identities)
        (run service api cases identities) ∧
      (run (service.traced event) api cases identities t).1.entries.map Entry.label =
        (Probe.all cases identities).map Probe.label ∧
      ∃ (opening : List Step) (parts : List (List Step)),
        (run (service.traced event) api cases identities t).1.entries =
            (opening ++ parts.flatten).map Step.entry ∧
          (run (service.traced event) api cases identities t).2.trace =
            t.trace ++ (exchanges (opening ++ parts.flatten)).map event ∧
          (∀ step ∈ opening ++ parts.flatten,
            step.entry.isSkipped = step.exchange.isNone) ∧
          List.Forall₂ (Settles api) ((openCases cases).map (.ofCase none)) opening ∧
          List.Forall₂ (IdentitySteps api cases) identities parts := by
  obtain ⟨opening, parts, hsteps, hopening, hparts, htrace⟩ :=
    runSteps_parts service event api cases identities t
  have hsettle := settles_all api cases hopening hparts
  have hentries : (run (service.traced event) api cases identities t).1.entries =
      (opening ++ parts.flatten).map Step.entry := by
    simp only [run, eval_bind, eval_pure, hsteps, Report.ofEntries_entries]
  refine ⟨run_faithful service event api cases identities, ?_, opening, parts, hentries, ?_, ?_,
    hopening, hparts⟩
  · rw [hentries]
    exact labels_eq api hsettle
  · simp only [run, eval_bind, eval_pure, htrace]
  · intro step hstep
    obtain ⟨probe, -, hsettles⟩ := exists_settles_of_mem api hsettle hstep
    exact hsettles.isSkipped

end Shipyard.Conformance
