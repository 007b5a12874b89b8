import Shipyard.Proofs.Conformance.Course
import Shipyard.Proofs.Json.Number
import Shipyard.Proofs.Text.Dictionary

/-!
# What cases find out

Whether a case is left out, and which request is made for it, goes by what the cases before it in
its chain have recorded. A case that has passed records a value for each name that it takes from its
response and finds there; no other case records anything, and of several values for a name the
latest counts. A case whose path refers to a name without a value is left out and says which names
these are. Any other case is asked, under its path with the values filled in.

The values that are known when a case is run are kept in a dictionary. It is enough to show that in
front of every case of a chain this dictionary holds the latest value of every name. No value is
known in front of the first case, so no value comes from another chain.
-/

namespace Shipyard.Conformance

open Http (Exchange Service)

/-! ## Recorded values -/

/-- The value that a case records for a name in a step of its own: nothing unless it has passed, and
otherwise the last of what it takes for this name that is found in the body of the response. -/
def Case.recorded? (case : Case) (step : Step) (name : String) : Option String :=
  match step.entry.outcome, step.exchange.map Exchange.reply with
  | .pass, some (.ok response) =>
    (Json.parse? response.body).bind fun document =>
      ((case.extract.filter fun e => e.1 = name).filterMap fun e => found? document e.2).getLast?
  | _, _ => none

/-- The latest value that was recorded for a name by cases with their steps. -/
def latest? (ran : List (Case × Step)) (name : String) : Option String :=
  (ran.filterMap fun r => r.1.recorded? r.2 name).getLast?

/-- The last case comes first, and the cases in front of it count if it records nothing. -/
lemma latest?_concat (ran : List (Case × Step)) (case : Case) (step : Step) (name : String) :
    latest? (ran ++ [(case, step)]) name =
      (case.recorded? step name).or (latest? ran name) := by
  unfold latest?
  rw [List.filterMap_append, List.getLast?_append]
  cases h : case.recorded? step name <;> simp [h]

/-- A value that can stand in a path is not empty. -/
lemma scalarText?_ne_empty {document : Json} {text : String}
    (h : scalarText? document = some text) : text ≠ "" := by
  cases document with
  | text s =>
    unfold scalarText? at h
    dsimp only at h
    split at h
    · cases h
    · rename_i hempty
      obtain rfl := Option.some.inj h
      simpa using hempty
  | number n =>
    obtain rfl := Option.some.inj h
    exact n.toText_ne_empty
  | _ => cases h

/-- What a JSON path finds is not empty. -/
lemma found?_ne_empty {document : Json} {path text : String}
    (h : found? document path = some text) : text ≠ "" := by
  obtain ⟨query, -, h⟩ := Option.bind_eq_some_iff.mp h
  obtain ⟨value, -, h⟩ := Option.bind_eq_some_iff.mp h
  exact scalarText?_ne_empty h

/-- A value that a case records is not empty. -/
lemma Case.recorded?_ne_empty {case : Case} {step : Step} {name text : String}
    (h : case.recorded? step name = some text) : text ≠ "" := by
  unfold Case.recorded? at h
  split at h
  · obtain ⟨document, -, h⟩ := Option.bind_eq_some_iff.mp h
    obtain ⟨e, -, hfound⟩ := List.mem_filterMap.mp (List.mem_of_getLast? h)
    exact found?_ne_empty hfound
  · cases h

/-- The latest value of a name is not empty. -/
lemma latest?_ne_empty {ran : List (Case × Step)} {name text : String}
    (h : latest? ran name = some text) : text ≠ "" := by
  obtain ⟨r, -, hrecorded⟩ := List.mem_filterMap.mp (List.mem_of_getLast? h)
  exact Case.recorded?_ne_empty hrecorded

/-! ## Known values -/

/-- Of what is found for the entries of a table, the part for one name is what is found for the
entries with this name. -/
lemma map_filter_filterMap (find? : String → Option String) (table : Dictionary String)
    (name : String) :
    ((table.filterMap fun e => (find? e.2).map fun value => (e.1, value)).filter
        fun e => e.1 = name).map Prod.snd =
      (table.filter fun e => e.1 = name).filterMap fun e => find? e.2 := by
  induction table with
  | nil => rfl
  | cons e table ih =>
    by_cases hname : e.1 = name
    · cases hfind : find? e.2 <;> simp [hname, hfind, ih]
    · cases hfind : find? e.2 <;> simp [hname, hfind, ih]

/-- What is learned with an exchange is what the case records in its step. -/
lemma get?_learn_learned (case : Case) (identity : Option String) (exchange : Exchange)
    (values : Values) (name : String) :
    Dictionary.get? (values.learn (case.learned exchange)) name =
      (case.recorded? (case.step identity exchange) name).or (Dictionary.get? values name) := by
  unfold Values.learn
  rw [Dictionary.get?_foldl_insert]
  congr 1
  have houtcome : (case.step identity exchange).entry.outcome = case.outcome exchange := rfl
  have hexchange : (case.step identity exchange).exchange = some exchange := rfl
  unfold Case.recorded? Case.learned
  rw [houtcome, hexchange, Option.map_some]
  cases case.outcome exchange with
  | pass =>
    cases exchange.reply with
    | ok response =>
      dsimp only
      unfold Case.extracted
      cases Json.parse? response.body with
      | some document => exact congrArg _ (map_filter_filterMap (found? document) case.extract name)
      | none => rfl
    | error problem => rfl
  | fail reason => rfl
  | skipped missing => rfl

/-- A case that is run adds to what is known the values that it records. -/
lemma Case.Runs.get? {api : Endpoints} {identity token : Option String} {values values' : Values}
    {case : Case} {step : Step} (h : case.Runs api identity token values step values')
    (name : String) :
    Dictionary.get? values' name = (case.recorded? step name).or (Dictionary.get? values name) := by
  cases h with
  | leftOut missing => rfl
  | asked exchange filled request => exact get?_learn_learned case identity exchange values name

/-! ## Chains -/

/-- A case goes by values: it is left out exactly if its path refers to a name without a value, and
the names without a value are what is missing. Otherwise its request goes to its path, filled with
the values, and none of them is empty. -/
structure Case.GoesBy (api : Endpoints) (identity : Option String) (value : String → Option String)
    (case : Case) (step : Step) : Prop where
  label : step.entry.label = (identity, case.name)
  skipped : step.entry.isSkipped = true ↔ ∃ name ∈ case.requires, value name = none
  missing : ∀ names, step.entry.outcome = .skipped names →
    names = case.requires.filter fun name => (value name).isNone
  asked : step.entry.isSkipped = false → ∃ exchange path, step.exchange = some exchange ∧
    exchange.request.url = api.url path ∧
    Template.Filled value (Template.segments case.path) path.toList
  nonempty : ∀ name text, value name = some text → text ≠ ""

/-- Each case of a chain goes by the latest values that the cases before it have recorded. -/
structure Discovers (api : Endpoints) (identity : Option String) (cases : List Case)
    (steps : List Step) : Prop where
  length : steps.length = cases.length
  goesBy : ∀ before case step after, cases.zip steps = before ++ (case, step) :: after →
    case.GoesBy api identity (latest? before) step

variable {api : Endpoints} {identity token : Option String} {values values' : Values}

/-- A case that is run goes by the values that are known. -/
lemma Case.Runs.goesBy {case : Case} {step : Step}
    (h : case.Runs api identity token values step values') {ran : List (Case × Step)}
    (hknown : ∀ name, Dictionary.get? values name = latest? ran name) :
    case.GoesBy api identity (latest? ran) step := by
  have hvalue : Dictionary.get? values = latest? ran := funext hknown
  have hmissing : values.missing case.requires =
      case.requires.filter fun name => (latest? ran name).isNone := by
    rw [← hvalue]
    rfl
  cases h with
  | leftOut missing =>
    refine ⟨rfl, ?_, ?_, ?_, fun _ _ => latest?_ne_empty⟩
    · rw [hmissing] at missing
      obtain ⟨name, hname⟩ := List.exists_mem_of_ne_nil _ missing
      obtain ⟨hrequired, hnone⟩ := List.mem_filter.mp hname
      exact iff_of_true rfl ⟨name, hrequired, Option.isNone_iff_eq_none.mp hnone⟩
    · rintro names ⟨⟩
      exact hmissing
    · rintro ⟨⟩
  | asked exchange filled request =>
    rw [hvalue] at filled
    have houtcome : ∀ names, (case.step identity exchange).entry.outcome ≠ .skipped names :=
      case.outcome_ne_skipped exchange
    refine ⟨rfl, ?_, ?_, ?_, fun _ _ => latest?_ne_empty⟩
    · rw [Entry.isSkipped_eq_false houtcome]
      refine iff_of_false Bool.false_ne_true ?_
      rintro ⟨name, hrequired, hnone⟩
      have hsome := Template.known_of_render filled name hrequired
      rw [hnone] at hsome
      cases hsome
    · exact fun names hskipped => absurd hskipped (houtcome names)
    · intro _
      refine ⟨exchange, _, rfl, ?_, Template.filled_of_render filled⟩
      rw [request]
      rfl

/-- Behind cases that were run, a chain goes by what they and its own cases have recorded. -/
lemma Chain.goesBy {cases : List Case} {steps : List Step}
    (h : Chain api identity token values cases steps) (ran : List (Case × Step))
    (hknown : ∀ name, Dictionary.get? values name = latest? ran name)
    {before after : List (Case × Step)} {case : Case} {step : Step}
    (hsplit : cases.zip steps = before ++ (case, step) :: after) :
    case.GoesBy api identity (latest? (ran ++ before)) step := by
  induction h generalizing ran before with
  | nil => cases before <;> cases hsplit
  | cons first later ih =>
    rw [List.zip_cons_cons] at hsplit
    cases before with
    | nil =>
      obtain ⟨⟨rfl, rfl⟩, -⟩ := List.cons.inj hsplit
      rw [List.append_nil]
      exact first.goesBy hknown
    | cons r before =>
      obtain ⟨rfl, hrest⟩ := List.cons.inj hsplit
      -- the first case has run, and what it has recorded is known to the rest
      rw [List.append_cons]
      refine ih _ ?_ hrest
      intro name
      rw [first.get?, latest?_concat, hknown]

/-- A chain has a step for each of its cases. -/
lemma Chain.length_eq {cases : List Case} {steps : List Step}
    (h : Chain api identity token values cases steps) : steps.length = cases.length := by
  induction h with
  | nil => rfl
  | cons _ _ ih => rw [List.length_cons, List.length_cons, ih]

/-- A chain that begins with nothing known goes by what its own cases have recorded. -/
lemma Chain.discovers {cases : List Case} {steps : List Step}
    (h : Chain api identity token [] cases steps) : Discovers api identity cases steps :=
  ⟨h.length_eq, fun _ _ _ _ hsplit => h.goesBy [] (fun _ => rfl) hsplit⟩

/-! ## Whole runs -/

/-- The steps of an identity stand for its probes: its login, the chain of its cases and its
refresh. If the login has passed, the chain goes by what its own cases have recorded. -/
structure IdentityDiscovers (api : Endpoints) (cases : List Case) (identity : Identity)
    (steps : List Step) : Prop where
  standFor : StandFor steps (Probe.ofIdentity cases identity)
  chain : ∃ login chain refresh, steps = login :: (chain ++ [refresh]) ∧
    (login.entry.outcome = .pass → Discovers api (some identity.name) (bearerCases cases) chain)

/-- An identity that is served goes by what its own cases have recorded. -/
lemma Served.discovers {cases : List Case} {identity : Identity} {steps : List Step}
    (h : Served api cases identity steps) : IdentityDiscovers api cases identity steps where
  standFor := h.standFor
  chain := by
    cases h with
    | admitted login request accepted chain refreshed =>
      exact ⟨_, _, _, rfl, fun _ => chain.discovers⟩
    | refused login request rejected =>
      obtain ⟨chain, refresh, hblocked, -, -⟩ := exists_blocked cases identity.name
      refine ⟨_, chain, refresh, by rw [hblocked], fun hpass => ?_⟩
      rw [loginStep_outcome_of_error rejected] at hpass
      cases hpass

/-- Behind every run there are steps in which each case goes by the latest values that the cases
before it in its own chain have recorded, be it the chain of the open cases or the one of an
identity whose login has passed. -/
theorem run_goes_by_recorded {σ : Type} (service : Service (StateM σ)) (api : Endpoints)
    (cases : List Case) (identities : List Identity) (s : σ) :
    ∃ opening parts, Behind service api cases identities s (opening ++ parts.flatten) ∧
      Discovers api none (openCases cases) opening ∧
      List.Forall₂ (IdentityDiscovers api cases) identities parts := by
  obtain ⟨opening, parts, hbehind, hcourse⟩ := exists_course service api cases identities s
  exact ⟨opening, parts, hbehind, hcourse.opened.discovers,
    hcourse.served.imp fun _ _ hserved => hserved.discovers⟩

end Shipyard.Conformance
