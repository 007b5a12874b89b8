import Mathlib.Data.List.Basic
import Mathlib.Data.List.Forall2
import Shipyard.Proofs.Trace.Event

/-!
# What a run of a suite accounts for

The probes of a run are laid down before anything is sent: the open cases, and for each identity its
login, its cases and its refresh. Every probe is *settled* by one step of the run. Either a request
was made for it, and the line of the report is what becomes of the answer, or the line says that the
probe was skipped.

Each part of a run is shown to cover the probes that it is there for: its steps settle them one by
one and in order, and what it puts on the trace are the exchanges of its steps. Parts are put
together as the lists of their probes are, so the whole run covers all probes.
-/

namespace Shipyard.Conformance

open Http (Exchange Request Service)

/-! ## Probes -/

/-- Something that a run has to have a line for. -/
inductive Probe where
  /-- A case, for an identity or for nobody in particular. -/
  | ofCase (identity : Option Identity) (case : Case)
  | login (identity : Identity)
  | refresh (identity : Identity)

namespace Probe

/-- Whom a probe is made for. -/
def identity : Probe → Option String
  | .ofCase identity _ => identity.map Identity.name
  | .login identity => some identity.name
  | .refresh identity => some identity.name

/-- What a probe is called. -/
def name : Probe → String
  | .ofCase _ case => case.name
  | .login _ => loginProbe
  | .refresh _ => refreshProbe

/-- The label of the line that a probe has in a report. -/
def label (p : Probe) : Option String × String := (p.identity, p.name)

/-- The requests that may be made for a probe. A case is asked with a token exactly if it is asked
for an identity. -/
def Asks (api : Endpoints) : Probe → Request → Prop
  | .ofCase identity case, request =>
    ∃ path token, token.isSome = identity.isSome ∧ request = case.request api path token
  | .login identity, request => request = loginRequest api.authUrl identity
  | .refresh _, request => ∃ token, request = refreshRequest api.authUrl token

/-- Whether a probe may be left out: all but a login may. -/
def isOptional : Probe → Bool
  | .login _ => false
  | _ => true

/-- The step in which a probe is made. -/
def step : Probe → Exchange → Step
  | .ofCase identity case, exchange => case.step (identity.map Identity.name) exchange
  | .login identity, exchange => loginStep identity.name exchange
  | .refresh identity, exchange => refreshStep identity.name exchange

/-- The probes that are made with the token of an identity. -/
def behindLogin (cases : List Case) (identity : Identity) : List Probe :=
  (bearerCases cases).map (.ofCase (some identity)) ++ [.refresh identity]

/-- The probes of an identity. -/
def ofIdentity (cases : List Case) (identity : Identity) : List Probe :=
  .login identity :: behindLogin cases identity

/-- The probes of a run. -/
def all (cases : List Case) (identities : List Identity) : List Probe :=
  (openCases cases).map (.ofCase none) ++ identities.flatMap (ofIdentity cases)

end Probe

/-- A step settles a probe: with an exchange about a request that is made for the probe, or by
leaving it out. -/
inductive Settles (api : Endpoints) (probe : Probe) : Step → Prop where
  | made (exchange : Exchange) (asks : probe.Asks api exchange.request) :
      Settles api probe (probe.step exchange)
  | skipped (missing : List String) (optional : probe.isOptional = true) :
      Settles api probe (.skip probe.identity probe.name missing)

/-- The label of a line. -/
def Entry.label (e : Entry) : Option String × String := (e.identity, e.case)

/-- A case that was asked is not reported as skipped. -/
lemma Case.outcome_ne_skipped (case : Case) (exchange : Exchange) (missing : List String) :
    case.outcome exchange ≠ .skipped missing := by
  unfold Case.outcome
  split
  · split <;> simp
  · simp

/-- A token endpoint that was asked is not reported as skipped. -/
lemma tokenOutcome_ne_skipped (exchange : Exchange) (missing : List String) :
    tokenOutcome exchange ≠ .skipped missing := by
  unfold tokenOutcome
  split <;> simp

/-- A line is a skipped one exactly if its outcome says so. -/
lemma Entry.isSkipped_eq_false {e : Entry} (h : ∀ missing, e.outcome ≠ .skipped missing) :
    e.isSkipped = false := by
  unfold Entry.isSkipped
  split
  · rename_i missing houtcome
    exact absurd houtcome (h missing)
  · rfl

/-- A probe that was made is not reported as skipped. -/
lemma Probe.step_isSkipped (probe : Probe) (exchange : Exchange) :
    (probe.step exchange).entry.isSkipped = false := by
  apply Entry.isSkipped_eq_false
  intro missing
  cases probe with
  | ofCase identity case => exact Case.outcome_ne_skipped case exchange missing
  | login identity => exact tokenOutcome_ne_skipped exchange missing
  | refresh identity => exact tokenOutcome_ne_skipped exchange missing

namespace Settles

variable {api : Endpoints} {probe : Probe} {step : Step}

/-- A line bears the label of the probe that it settles. -/
lemma label (h : Settles api probe step) : step.entry.label = probe.label := by
  cases h with
  | made exchange asks =>
    unfold Entry.label Probe.label
    cases probe <;> rfl
  | skipped missing optional => rfl

/-- A line is a skipped one exactly if there is no exchange behind it. -/
lemma isSkipped (h : Settles api probe step) :
    step.entry.isSkipped = step.exchange.isNone := by
  cases h with
  | made exchange asks =>
    rw [probe.step_isSkipped exchange]
    cases probe <;> rfl
  | skipped missing optional => rfl

/-- The exchange behind a line is about a request that is made for the probe it settles. -/
lemma asks (h : Settles api probe step) {exchange : Exchange}
    (hexchange : step.exchange = some exchange) : probe.Asks api exchange.request := by
  cases h with
  | made exchange' asks =>
    have heq : exchange' = exchange := by
      cases probe <;> exact Option.some.inj hexchange
    exact heq ▸ asks
  | skipped missing optional => cases hexchange

end Settles

/-! ## Covering probes -/

variable {σ ε : Type}

/-- The exchanges behind steps, in their order. -/
def exchanges (steps : List Step) : List Exchange :=
  steps.filterMap Step.exchange

@[simp] lemma exchanges_nil : exchanges [] = [] := rfl

/-- The exchanges of a run begin with the exchange of its first step, if there is one. -/
lemma exchanges_cons (step : Step) (steps : List Step) :
    exchanges (step :: steps) = step.exchange.toList ++ exchanges steps := by
  unfold exchanges
  rw [List.filterMap_cons]
  cases step.exchange <;> rfl

@[simp] lemma exchanges_append (steps others : List Step) :
    exchanges (steps ++ others) = exchanges steps ++ exchanges others :=
  List.filterMap_append

/-- An action covers probes: its steps settle them in order, and the exchanges of its steps are what
it puts on the trace. -/
def Covers (event : Exchange → ε) (api : Endpoints) (probes : List Probe)
    (action : StateM (Traced σ ε) (List Step)) : Prop :=
  ∀ t, List.Forall₂ (Settles api) probes (action t).1 ∧
    (action t).2.trace = t.trace ++ (exchanges (action t).1).map event

/-- An action covers a single probe: its step settles it, and the exchange of its step, if there is
one, is what it puts on the trace. -/
def CoversOne (event : Exchange → ε) (api : Endpoints) (probe : Probe)
    (action : StateM (Traced σ ε) Step) : Prop :=
  ∀ t, Settles api probe (action t).1 ∧
    (action t).2.trace = t.trace ++ (action t).1.exchange.toList.map event

variable (service : Service (StateM σ)) (event : Exchange → ε) (api : Endpoints)

/-- A case is settled whatever is known, and asked at most once. -/
lemma runCase_covers (identity : Option Identity) (token : Option String)
    (htoken : token.isSome = identity.isSome) (values : Values) (case : Case) :
    CoversOne event api (.ofCase identity case) (Prod.fst <$>
      runCase (service.traced event) api (identity.map Identity.name) token values case) := by
  intro t
  cases hmissing : values.missing case.requires with
  | nil =>
    cases hpath : Template.render case.path (Dictionary.get? values) with
    | ok path =>
      simp only [runCase, hmissing, hpath, eval_map, eval_bind, eval_pure]
      refine ⟨.made _ ⟨path, token, htoken, ?_⟩, ?_⟩
      · exact Service.traced_exchange_request service event (case.request api path token) t
      · exact Service.traced_exchange_trace service event (case.request api path token) t
    | error name =>
      simp only [runCase, hmissing, hpath, eval_map, eval_pure]
      exact ⟨.skipped _ rfl, (List.append_nil _).symm⟩
  | cons name names =>
    simp only [runCase, hmissing, eval_map, eval_pure]
    exact ⟨.skipped _ rfl, (List.append_nil _).symm⟩

/-- A chain of cases settles them in order. -/
lemma runChain_covers (identity : Option Identity) (token : Option String)
    (htoken : token.isSome = identity.isSome) (values : Values) (cases : List Case) :
    Covers event api (cases.map (.ofCase identity))
      (runChain (service.traced event) api (identity.map Identity.name) token values cases) := by
  induction cases generalizing values with
  | nil => exact fun t => ⟨.nil, (List.append_nil _).symm⟩
  | cons case cases ih =>
    intro t
    obtain ⟨hstep, htrace⟩ := runCase_covers service event api identity token htoken values case t
    simp only [eval_map] at hstep htrace
    simp only [runChain, eval_bind, eval_pure, List.map_cons]
    obtain ⟨hsteps, htrace'⟩ := ih _ _
    refine ⟨.cons hstep hsteps, ?_⟩
    rw [htrace', htrace, List.append_assoc, exchanges_cons, List.map_append]

/-- A refresh is settled with or without a refresh token. -/
lemma runRefresh_covers (identity : Identity) (tokens : Tokens) :
    CoversOne event api (.refresh identity)
      (runRefresh (service.traced event) api identity.name tokens) := by
  intro t
  cases htoken : tokens.refresh with
  | some token =>
    simp only [runRefresh, htoken, eval_bind, eval_pure]
    refine ⟨.made _ ⟨token, ?_⟩, ?_⟩
    · exact Service.traced_exchange_request service event (refreshRequest api.authUrl token) t
    · exact Service.traced_exchange_trace service event (refreshRequest api.authUrl token) t
  | none =>
    simp only [runRefresh, htoken, eval_pure]
    exact ⟨.skipped _ rfl, (List.append_nil _).symm⟩

/-- The steps of an identity that could not log in settle what is behind the login. -/
lemma blockedSteps_settle (cases : List Case) (identity : Identity) :
    List.Forall₂ (Settles api) (Probe.behindLogin cases identity)
      (blockedSteps cases identity.name) := by
  unfold Probe.behindLogin blockedSteps
  rw [List.map_append, List.map_map]
  refine List.rel_append ?_ (.cons (.skipped _ rfl) .nil)
  rw [List.forall₂_map_left_iff, List.forall₂_map_right_iff, List.forall₂_same]
  exact fun case _ => .skipped _ rfl

/-- No request is made for an identity that could not log in. -/
lemma blockedSteps_exchanges (cases : List Case) (identity : String) :
    exchanges (blockedSteps cases identity) = [] := by
  unfold exchanges blockedSteps
  rw [List.filterMap_map, List.filterMap_eq_nil_iff]
  exact fun case _ => rfl

/-- Every step of an identity that could not log in misses its token. -/
lemma blockedSteps_outcome {cases : List Case} {identity : String} {step : Step}
    (h : step ∈ blockedSteps cases identity) :
    step.entry.outcome = .skipped [accessTokenName] := by
  unfold blockedSteps at h
  obtain ⟨case, -, rfl⟩ := List.mem_map.mp h
  rfl

end Shipyard.Conformance
