import Shipyard.Proofs.Conformance.Order
import Shipyard.Proofs.Template.Filling

/-!
# The course of a run of a suite

The course of a run says how its steps come about. A case that is run is left out or asked, by what
is known when its turn comes, and what it has found is known behind it. A chain is its cases run one
after the other. An identity is served by a login and, if that gives tokens, by its chain and its
refresh.

A run against any service takes such a course. Nothing in it depends on the state of the service, so
what is shown of all courses holds whatever is outside.
-/

namespace Shipyard.Conformance

open Http (Exchange Service)

/-! ## Chains -/

/-- A case is run with what is known: the step that comes of it, and what is known then. It is left
out if something is missing. Otherwise it is asked, and what it has found is learned. -/
inductive Case.Runs (api : Endpoints) (identity token : Option String) (values : Values)
    (case : Case) : Step → Values → Prop where
  | leftOut (missing : values.missing case.requires ≠ []) :
      Runs api identity token values case
        (.skip identity case.name (values.missing case.requires)) values
  | asked {path : String} (exchange : Exchange)
      (filled : Template.render case.path (Dictionary.get? values) = .ok path)
      (request : exchange.request = case.request api path token) :
      Runs api identity token values case (case.step identity exchange)
        (values.learn (case.learned exchange))

/-- Cases are run one after the other, each with what is known behind the one before. -/
inductive Chain (api : Endpoints) (identity token : Option String) :
    Values → List Case → List Step → Prop where
  | nil (values : Values) : Chain api identity token values [] []
  | cons {values values' : Values} {case : Case} {cases : List Case} {step : Step}
      {steps : List Step} (first : case.Runs api identity token values step values')
      (later : Chain api identity token values' cases steps) :
      Chain api identity token values (case :: cases) (step :: steps)

/-- Nothing is missing if there is a value for each name. -/
lemma Values.missing_eq_nil_iff {values : Values} {names : List String} :
    values.missing names = [] ↔ ∀ name ∈ names, (Dictionary.get? values name).isSome := by
  unfold Values.missing
  simp [List.filter_eq_nil_iff, Option.isSome_iff_ne_none]

variable {σ : Type} (service : Service (StateM σ)) (api : Endpoints)

/-- A case that is run takes its course. -/
lemma runCase_runs (identity token : Option String) (values : Values) (case : Case) (s : σ) :
    case.Runs api identity token values (runCase service api identity token values case s).1.1
      (runCase service api identity token values case s).1.2 := by
  cases hmissing : values.missing case.requires with
  | nil =>
    obtain ⟨path, hpath⟩ : ∃ path, Template.render case.path (Dictionary.get? values) = .ok path :=
      ⟨_, Template.render_of_known (Values.missing_eq_nil_iff.mp hmissing)⟩
    simp only [runCase, hmissing, hpath, eval_bind, eval_pure]
    exact .asked _ hpath rfl
  | cons name names =>
    simp only [runCase, hmissing, eval_pure]
    rw [← hmissing]
    exact .leftOut (by simp [hmissing])

/-- A chain that is run takes its course. -/
lemma runChain_chain (identity token : Option String) (values : Values) (cases : List Case)
    (s : σ) : Chain api identity token values cases
      (runChain service api identity token values cases s).1 := by
  induction cases generalizing values s with
  | nil => exact .nil values
  | cons case cases ih =>
    simp only [runChain, eval_bind, eval_pure]
    exact .cons (runCase_runs service api identity token values case s) (ih _ _)

/-! ## Identities -/

/-- The end of an identity that was let in: it is left out without a refresh token. -/
inductive Refreshed (api : Endpoints) (identity : String) (tokens : Tokens) : Step → Prop where
  | leftOut (absent : tokens.refresh = none) :
      Refreshed api identity tokens (.skip (some identity) refreshProbe [refreshTokenName])
  | asked {token : String} (exchange : Exchange) (held : tokens.refresh = some token)
      (request : exchange.request = refreshRequest api.authUrl token) :
      Refreshed api identity tokens (refreshStep identity exchange)

/-- An identity is served: it is let in, and its cases are run with its token and with nothing else
known, or it is refused, and all that is behind its login is left out. -/
inductive Served (api : Endpoints) (cases : List Case) (identity : Identity) :
    List Step → Prop where
  | admitted {tokens : Tokens} {steps : List Step} {refresh : Step} (login : Exchange)
      (request : login.request = loginRequest api.authUrl identity)
      (accepted : tokensOf login = .ok tokens)
      (chain : Chain api (some identity.name) (some tokens.access) [] (bearerCases cases) steps)
      (refreshed : Refreshed api identity.name tokens refresh) :
      Served api cases identity (loginStep identity.name login :: (steps ++ [refresh]))
  | refused {reason : Reason} (login : Exchange)
      (request : login.request = loginRequest api.authUrl identity)
      (rejected : tokensOf login = .error reason) :
      Served api cases identity (loginStep identity.name login :: blockedSteps cases identity.name)

/-- What is left out behind a login is a chain and a refresh, and nothing is asked in them. -/
lemma exists_blocked (cases : List Case) (identity : String) :
    ∃ chain refresh, blockedSteps cases identity = chain ++ [refresh] ∧
      exchanges chain = [] ∧ refresh.exchange = none := by
  obtain ⟨chain, refresh, hblocked⟩ : ∃ chain refresh,
      blockedSteps cases identity = chain ++ [refresh] := ⟨_, _, List.map_append⟩
  have hexchanges := blockedSteps_exchanges cases identity
  rw [hblocked, exchanges_append, List.append_eq_nil_iff] at hexchanges
  refine ⟨chain, refresh, hblocked, hexchanges.1, ?_⟩
  rw [exchanges_cons, exchanges_nil, List.append_nil] at hexchanges
  exact Option.toList_eq_nil_iff.mp hexchanges.2

/-- A refresh that is run takes its course. -/
lemma runRefresh_refreshed (identity : String) (tokens : Tokens) (s : σ) :
    Refreshed api identity tokens (runRefresh service api identity tokens s).1 := by
  cases htoken : tokens.refresh with
  | some token =>
    simp only [runRefresh, htoken, eval_bind, eval_pure]
    exact .asked _ htoken rfl
  | none =>
    simp only [runRefresh, htoken, eval_pure]
    exact .leftOut htoken

variable (cases : List Case)

/-- An identity that is run for takes its course. -/
lemma runIdentity_served (identity : Identity) (s : σ) :
    Served api cases identity (runIdentity service api cases identity s).1 := by
  obtain ⟨⟨login, s'⟩, hlogin⟩ : ∃ ran, service.exchange (loginRequest api.authUrl identity) s =
      ran := ⟨_, rfl⟩
  have hrequest : login.request = loginRequest api.authUrl identity :=
    congrArg (fun ran => ran.1.request) hlogin.symm
  unfold runIdentity
  rw [eval_bind, hlogin]
  cases htokens : tokensOf login with
  | ok tokens =>
    exact .admitted login hrequest htokens (runChain_chain service api _ _ _ _ _)
      (runRefresh_refreshed service api _ _ _)
  | error reason => exact .refused login hrequest htokens

/-- Identities are served one after the other. -/
lemma runIdentities_served (identities : List Identity) (s : σ) :
    ∃ parts, (runIdentities service api cases identities s).1 = parts.flatten ∧
      List.Forall₂ (Served api cases) identities parts := by
  induction identities generalizing s with
  | nil => exact ⟨[], rfl, .nil⟩
  | cons identity identities ih =>
    obtain ⟨parts, hparts, hserved⟩ := ih (runIdentity service api cases identity s).2
    refine ⟨_ :: parts, ?_, .cons (runIdentity_served service api cases identity s) hserved⟩
    simp only [runIdentities, eval_bind, eval_pure, hparts, List.flatten_cons]

/-! ## Labels -/

/-- Steps stand for probes if their lines bear the labels of the probes, in the same order. -/
def StandFor (steps : List Step) (probes : List Probe) : Prop :=
  (steps.map Step.entry).map Entry.label = probes.map Probe.label

namespace StandFor

variable {steps later : List Step} {probes others : List Probe}

/-- Steps that stand for probes are as many as these. -/
lemma length_eq (h : StandFor steps probes) : steps.length = probes.length := by
  have hlength := congrArg List.length h
  rwa [List.length_map, List.length_map, List.length_map] at hlength

/-- Each of the steps stands for one of the probes. -/
lemma exists_label_eq (h : StandFor steps probes) {step : Step} (hstep : step ∈ steps) :
    ∃ probe ∈ probes, step.entry.label = probe.label := by
  have hlabel : step.entry.label ∈ (steps.map Step.entry).map Entry.label :=
    List.mem_map_of_mem (List.mem_map_of_mem hstep)
  rw [h] at hlabel
  obtain ⟨probe, hprobe, heq⟩ := List.mem_map.mp hlabel
  exact ⟨probe, hprobe, heq.symm⟩

/-- Steps behind one another stand for probes behind one another. -/
lemma append (h : StandFor steps probes) (h' : StandFor later others) :
    StandFor (steps ++ later) (probes ++ others) := by
  unfold StandFor at h h' ⊢
  rw [List.map_append, List.map_append, List.map_append, h, h']

end StandFor

/-- A chain stands for the probes of its cases. -/
lemma Chain.standFor {api : Endpoints} {token : Option String} {values : Values}
    {cases : List Case} {steps : List Step} (identity : Option Identity)
    (h : Chain api (identity.map Identity.name) token values cases steps) :
    StandFor steps (cases.map (.ofCase identity)) := by
  induction h with
  | nil => rfl
  | @cons _ _ case _ step _ first _ ih =>
    have hfirst : StandFor [step] [.ofCase identity case] := by cases first <;> rfl
    exact hfirst.append ih

/-- The steps of an identity stand for its probes. -/
lemma Served.standFor {api : Endpoints} {cases : List Case} {identity : Identity}
    {steps : List Step} (h : Served api cases identity steps) :
    StandFor steps (Probe.ofIdentity cases identity) := by
  cases h with
  | @admitted _ _ refresh login request accepted chain refreshed =>
    have hlogin : StandFor [loginStep identity.name login] [.login identity] := rfl
    have hrefresh : StandFor [refresh] [.refresh identity] := by cases refreshed <;> rfl
    exact hlogin.append ((chain.standFor (some identity)).append hrefresh)
  | refused login request rejected =>
    have hlogin : StandFor [loginStep identity.name login] [.login identity] := rfl
    exact hlogin.append (labels_eq api (blockedSteps_settle api cases identity))

/-- The steps of identities that are served stand for their probes. -/
lemma standFor_of_served {api : Endpoints} {cases : List Case} {identities : List Identity}
    {parts : List (List Step)} (h : List.Forall₂ (Served api cases) identities parts) :
    StandFor parts.flatten (identities.flatMap (Probe.ofIdentity cases)) := by
  induction h with
  | nil => rfl
  | cons hpart _ ih =>
    rw [List.flatten_cons, List.flatMap_cons]
    exact hpart.standFor.append ih

/-! ## Whole runs -/

/-- The course of a run: the open cases are run for nobody, and then the identities are served. -/
structure Course (identities : List Identity) (opening : List Step) (parts : List (List Step)) :
    Prop where
  opened : Chain api none none [] (openCases cases) opening
  served : List.Forall₂ (Served api cases) identities parts

/-- The steps of a run take its course. -/
lemma runSteps_course (identities : List Identity) (s : σ) :
    ∃ opening parts,
      (runSteps service api cases identities s).1 = opening ++ parts.flatten ∧
        Course api cases identities opening parts := by
  obtain ⟨opening, hopening⟩ : ∃ ran,
      runChain service api none none [] (openCases cases) s = ran := ⟨_, rfl⟩
  obtain ⟨parts, hparts, hserved⟩ := runIdentities_served service api cases identities opening.2
  refine ⟨opening.1, parts, ?_, ?_, hserved⟩
  · simp only [runSteps, eval_bind, eval_pure, hopening, hparts]
  · rw [← hopening]
    exact runChain_chain service api none none [] (openCases cases) s

/-- Steps are behind a run from a state: its report has their lines, and what it sends are their
exchanges, one for each of them whose line is not a skipped one. -/
structure Behind (identities : List Identity) (s : σ) (steps : List Step) : Prop where
  report : (run service api cases identities s).1 = .ofEntries (steps.map Step.entry)
  sent : (run (service.traced id) api cases identities ⟨s, []⟩).2.trace = exchanges steps
  skipped : ∀ step ∈ steps, step.entry.isSkipped = step.exchange.isNone

/-- Steps are determined by their lines and their exchanges, if it can be seen from a line whether
there is an exchange behind it. -/
lemma steps_eq_of_lines {steps steps' : List Step}
    (hskipped : ∀ step ∈ steps, step.entry.isSkipped = step.exchange.isNone)
    (hskipped' : ∀ step ∈ steps', step.entry.isSkipped = step.exchange.isNone)
    (hlines : steps.map Step.entry = steps'.map Step.entry)
    (hexchanges : exchanges steps = exchanges steps') : steps = steps' := by
  induction steps generalizing steps' with
  | nil => exact (List.map_eq_nil_iff.mp hlines.symm).symm
  | cons step steps ih =>
    cases steps' with
    | nil => cases hlines
    | cons step' steps' =>
      obtain ⟨entry, exchange⟩ := step
      obtain ⟨entry', exchange'⟩ := step'
      obtain ⟨rfl, hlater⟩ : entry = entry' ∧ steps.map Step.entry = steps'.map Step.entry :=
        List.cons.inj hlines
      have hnone : exchange.isNone = exchange'.isNone :=
        (hskipped _ List.mem_cons_self).symm.trans (hskipped' _ List.mem_cons_self)
      have hrest : exchanges steps = exchanges steps' → steps = steps' :=
        ih (fun x hx => hskipped x (List.mem_cons_of_mem _ hx))
          (fun x hx => hskipped' x (List.mem_cons_of_mem _ hx)) hlater
      cases exchange with
      | none =>
        cases exchange' with
        | none => rw [hrest hexchanges]
        | some e' => cases hnone
      | some e =>
        cases exchange' with
        | none => cases hnone
        | some e' =>
          obtain ⟨rfl, htail⟩ : e = e' ∧ exchanges steps = exchanges steps' :=
            List.cons.inj hexchanges
          rw [hrest htail]

/-- The steps behind a run are determined by it. -/
lemma Behind.unique {service : Service (StateM σ)} {api : Endpoints} {cases : List Case}
    {identities : List Identity} {s : σ} {steps steps' : List Step}
    (h : Behind service api cases identities s steps)
    (h' : Behind service api cases identities s steps') : steps = steps' := by
  refine steps_eq_of_lines h.skipped h'.skipped ?_ (h.sent.symm.trans h'.sent)
  have hreports := congrArg Report.entries (h.report.symm.trans h'.report)
  rwa [Report.ofEntries_entries, Report.ofEntries_entries] at hreports

/-- The steps of a traced run are behind the run. -/
lemma runSteps_behind (identities : List Identity) (s : σ) :
    Behind service api cases identities s
      (runSteps (service.traced id) api cases identities ⟨s, []⟩).1 := by
  obtain ⟨opening, parts, hsteps, hopening, hparts, htrace⟩ :=
    runSteps_parts service id api cases identities ⟨s, []⟩
  rw [← hsteps, List.map_id, List.nil_append] at htrace
  refine ⟨?_, htrace, ?_⟩
  · rw [← (run_faithful service id api cases identities ⟨s, []⟩).1]
    rfl
  · intro step hstep
    rw [hsteps] at hstep
    obtain ⟨probe, -, hsettles⟩ :=
      exists_settles_of_mem api (settles_all api cases hopening hparts) hstep
    exact hsettles.isSkipped

/-- Behind every run there are steps that take the course of a run. -/
lemma exists_course (identities : List Identity) (s : σ) :
    ∃ opening parts, Behind service api cases identities s (opening ++ parts.flatten) ∧
      Course api cases identities opening parts := by
  obtain ⟨opening, parts, hsteps, hcourse⟩ :=
    runSteps_course (service.traced id) api cases identities ⟨s, []⟩
  refine ⟨opening, parts, ?_, hcourse⟩
  rw [← hsteps]
  exact runSteps_behind service api cases identities s

end Shipyard.Conformance
