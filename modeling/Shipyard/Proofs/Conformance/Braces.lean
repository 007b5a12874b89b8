import Shipyard.Proofs.Conformance.Discovery
import Shipyard.Proofs.Template.Braces
import Shipyard.Proofs.Text.Blank

/-!
# Braces in requests

A case whose path refers to a name without a value is left out, so no placeholder gets into a
request. The path of a case may have other braces, however. What stands between braces is a
placeholder only if it is a name of word characters, whereas values may be recorded under any name.
Stray braces are not looked at, and the case is asked with them.

As long as neither the base URL nor a recorded value brings braces along, these are all: a request
for a case has a pair of braces in its URL exactly if there are stray ones in the path. Recorded
values are never empty, so no two braces come together around one. The requests for tokens go to the
token endpoint, whose URL is no template.
-/

namespace Shipyard.Conformance

open Http (Exchange Service)
open Template (HasBracePair HasStrayBraces)

/-! ## URLs -/

/-- A URL below a base URL without braces has a pair of braces exactly if the path has one. -/
lemma hasBracePair_url {api : Endpoints} (hbase : '{' ∉ api.baseUrl.toList) {path : String} :
    HasBracePair (api.url path).toList ↔ HasBracePair path.toList := by
  have hfront : '{' ∉ (Text.trimEndSlashes api.baseUrl ++ "/").toList := by
    unfold Text.trimEndSlashes
    rw [String.toList_append, String.toList_ofList, List.mem_append, not_or]
    exact ⟨fun hmem => hbase ((Text.dropEndWhile_prefix _ _).subset hmem), by decide⟩
  unfold Endpoints.url joinUrl
  split
  · rfl
  · unfold Text.trimStartSlashes
    rw [String.toList_append, Template.hasBracePair_append hfront, String.toList_ofList,
      Template.hasBracePair_dropWhile (by decide)]

/-- The URL of a request for tokens has a pair of braces exactly if the URL of the token endpoint
has one. -/
lemma hasBracePair_tokenRequest {authUrl grant : String} (hgrant : '{' ∉ grant.toList)
    {body : List (String × Json)} :
    HasBracePair (tokenRequest authUrl grant body).url.toList ↔ HasBracePair authUrl.toList := by
  have hback : '{' ∉ ("/token?grant_type=" ++ grant).toList := by
    rw [String.toList_append, List.mem_append, not_or]
    exact ⟨by decide, hgrant⟩
  unfold tokenRequest Text.trimEndSlashes
  rw [String.append_assoc, String.toList_append, Template.hasBracePair_append_right hback,
    String.toList_ofList, Template.hasBracePair_dropEndWhile (by decide)]

/-! ## Chains -/

/-- No value that cases have recorded in their steps has an opening brace. -/
def RecordsNoBrace (ran : List (Case × Step)) : Prop :=
  ∀ r ∈ ran, ∀ name text, r.1.recorded? r.2 name = some text → '{' ∉ text.toList

/-- A chain sends the stray braces of its paths and no others: if no recorded value has an opening
brace, the URL of a request has a pair of braces exactly if there are stray ones in the path of its
case. -/
def SendsStrayBraces (cases : List Case) (steps : List Step) : Prop :=
  RecordsNoBrace (cases.zip steps) → ∀ r ∈ cases.zip steps, ∀ exchange,
    r.2.exchange = some exchange →
      (HasBracePair exchange.request.url.toList ↔ HasStrayBraces r.1.path)

variable {api : Endpoints} {identity token : Option String} {values values' : Values}
  {cases : List Case} {steps : List Step}

/-- The latest value of a name has no opening brace if no recorded one has. -/
lemma RecordsNoBrace.latest? {ran : List (Case × Step)} (h : RecordsNoBrace ran)
    {name text : String} (hlatest : latest? ran name = some text) : '{' ∉ text.toList := by
  obtain ⟨r, hr, hrecorded⟩ := List.mem_filterMap.mp (List.mem_of_getLast? hlatest)
  exact h r hr name text hrecorded

/-- A case that is run is reported as skipped exactly if it is not asked. -/
lemma Case.Runs.isSkipped {case : Case} {step : Step}
    (h : case.Runs api identity token values step values') :
    step.entry.isSkipped = step.exchange.isNone := by
  cases h with
  | leftOut missing => rfl
  | asked exchange filled request =>
    exact Entry.isSkipped_eq_false (case.outcome_ne_skipped exchange)

/-- What a chain reports as skipped is what it does not ask. -/
lemma Chain.isSkipped (h : Chain api identity token values cases steps) {step : Step}
    (hstep : step ∈ steps) : step.entry.isSkipped = step.exchange.isNone := by
  induction h with
  | nil => cases hstep
  | cons first later ih =>
    rcases List.mem_cons.mp hstep with rfl | hlater
    · exact first.isSkipped
    · exact ih hlater

/-- A chain that begins with nothing known sends the stray braces of its paths and no others. -/
lemma Chain.sendsStrayBraces (h : Chain api identity token [] cases steps)
    (hbase : '{' ∉ api.baseUrl.toList) : SendsStrayBraces cases steps := by
  rintro hrecorded ⟨case, step⟩ hr exchange hexchange
  obtain ⟨before, after, hsplit⟩ := List.append_of_mem hr
  have hasked : step.entry.isSkipped = false := by
    rw [h.isSkipped (List.of_mem_zip hr).2, hexchange]
    rfl
  obtain ⟨asked, path, hsome, hurl, hfilled⟩ := (h.discovers.goesBy _ _ _ _ hsplit).asked hasked
  obtain rfl : exchange = asked := Option.some.inj (hexchange.symm.trans hsome)
  rw [hurl, hasBracePair_url hbase]
  refine hfilled.hasBracePair_iff fun name inserted hknown => ⟨latest?_ne_empty hknown, ?_⟩
  have hbefore : RecordsNoBrace before := fun r hr =>
    hrecorded r (hsplit ▸ List.mem_append_left _ hr)
  exact hbefore.latest? hknown

/-! ## Whole runs -/

/-- The steps of an identity stand for its probes: its login, the chain of its cases and its
refresh. If the login has passed, each case of the chain is left out or asked by what the cases
before it have recorded. The chain sends the stray braces of its paths and no others, and the
requests for tokens have a pair of braces in their URLs exactly if the URL of the token endpoint has
one. -/
structure IdentitySendsStrayBraces (api : Endpoints) (cases : List Case) (identity : Identity)
    (steps : List Step) : Prop where
  standFor : StandFor steps (Probe.ofIdentity cases identity)
  sent : ∃ login chain refresh, steps = login :: (chain ++ [refresh]) ∧
    (login.entry.outcome = .pass → Discovers api (some identity.name) (bearerCases cases) chain) ∧
    SendsStrayBraces (bearerCases cases) chain ∧
    ∀ step ∈ [login, refresh], ∀ exchange, step.exchange = some exchange →
      (HasBracePair exchange.request.url.toList ↔ HasBracePair api.authUrl.toList)

/-- The URL with which an identity logs in has a pair of braces exactly if that of the token
endpoint has one. -/
lemma hasBracePair_of_loginStep {identity : Identity} {login exchange : Exchange}
    (request : login.request = loginRequest api.authUrl identity)
    (h : (loginStep identity.name login).exchange = some exchange) :
    HasBracePair exchange.request.url.toList ↔ HasBracePair api.authUrl.toList := by
  cases h
  rw [request]
  exact hasBracePair_tokenRequest (by decide)

/-- The URL with which new tokens are asked for has a pair of braces exactly if that of the token
endpoint has one. -/
lemma Refreshed.hasBracePair {name : String} {tokens : Tokens} {step : Step} {exchange : Exchange}
    (h : Refreshed api name tokens step) (hexchange : step.exchange = some exchange) :
    HasBracePair exchange.request.url.toList ↔ HasBracePair api.authUrl.toList := by
  cases h with
  | leftOut absent => cases hexchange
  | asked asked held request =>
    cases hexchange
    rw [request]
    exact hasBracePair_tokenRequest (by decide)

/-- An identity that is served sends the stray braces of its paths and no others. -/
lemma Served.sendsStrayBraces {identity : Identity} (h : Served api cases identity steps)
    (hbase : '{' ∉ api.baseUrl.toList) : IdentitySendsStrayBraces api cases identity steps where
  standFor := h.standFor
  sent := by
    cases h with
    | admitted login request accepted chain refreshed =>
      refine ⟨_, _, _, rfl, fun _ => chain.discovers, chain.sendsStrayBraces hbase, ?_⟩
      refine List.forall_mem_cons.mpr ⟨fun _ => hasBracePair_of_loginStep request, ?_⟩
      exact List.forall_mem_singleton.mpr fun _ => refreshed.hasBracePair
    | refused login request rejected =>
      obtain ⟨chain, refresh, hblocked, hchain, hrefresh⟩ := exists_blocked cases identity.name
      refine ⟨_, chain, refresh, by rw [hblocked], fun hpass => ?_, ?_, ?_⟩
      · rw [loginStep_outcome_of_error rejected] at hpass
        cases hpass
      · -- nothing is asked behind a login that was refused
        intro _ r hr exchange hexchange
        have hmem : exchange ∈ exchanges chain :=
          List.mem_filterMap.mpr ⟨r.2, (List.of_mem_zip hr).2, hexchange⟩
        rw [hchain] at hmem
        cases hmem
      · refine List.forall_mem_cons.mpr ⟨fun _ => hasBracePair_of_loginStep request, ?_⟩
        refine List.forall_mem_singleton.mpr fun exchange hexchange => ?_
        rw [hrefresh] at hexchange
        cases hexchange

/-- With a base URL without braces, a run sends the stray braces of its paths and no others. Behind
every run there are steps in which a case is left out exactly if its path refers to a name without a
value. If no recorded value has an opening brace, then the URL of a case that is asked has a pair of
braces exactly if the path has stray ones. -/
theorem sent_braces_are_stray {api : Endpoints} (hbase : '{' ∉ api.baseUrl.toList) {σ : Type}
    (service : Service (StateM σ)) (cases : List Case) (identities : List Identity) (s : σ) :
    ∃ opening parts, Behind service api cases identities s (opening ++ parts.flatten) ∧
      Discovers api none (openCases cases) opening ∧
      SendsStrayBraces (openCases cases) opening ∧
      List.Forall₂ (IdentitySendsStrayBraces api cases) identities parts := by
  obtain ⟨opening, parts, hbehind, hcourse⟩ := exists_course service api cases identities s
  exact ⟨opening, parts, hbehind, hcourse.opened.discovers, hcourse.opened.sendsStrayBraces hbase,
    hcourse.served.imp fun _ _ hserved => hserved.sendsStrayBraces hbase⟩

/-- A case whose path refers to a name that is not made of word characters. -/
def hyphenCase : Case :=
  { name := "x", path := "/\x7b\x7ba-b\x7d\x7d", expect := .status 200 }

/-- A suite file with this case. -/
def hyphenText : String :=
  "[\x7b\"name\":\"x\",\"path\":\"/\x7b\x7ba-b\x7d\x7d\"," ++
    "\"expect\":\x7b\"type\":\"status\",\"status\":200\x7d\x7d]"

/-- A service that knows no path. -/
def pathless : Service (StateM Unit) where
  send _ := pure (.ok ⟨404, ""⟩)

/-- The case with the hyphen has stray braces, and they are sent to a service. -/
theorem stray_braces_of_hyphenCase :
    let api : Endpoints := ⟨"http://svc", "http://svc/gotrue", "/health", "OK", 0, 1⟩
    '{' ∉ api.baseUrl.toList ∧ HasStrayBraces hyphenCase.path ∧
      ∃ opening parts, Behind pathless api [hyphenCase] [] () (opening ++ parts.flatten) ∧
        Discovers api none (openCases [hyphenCase]) opening ∧
        SendsStrayBraces (openCases [hyphenCase]) opening ∧
        List.Forall₂ (IdentitySendsStrayBraces api [hyphenCase]) [] parts := by
  intro api
  have hbase : '{' ∉ api.baseUrl.toList := by decide
  exact ⟨hbase, by decide +kernel, sent_braces_are_stray hbase pathless [hyphenCase] [] ()⟩

/-- A suite is accepted whose only case has something in double braces that is not there. It records
nothing, and it is not left out: the braces are in the URL that is asked for. -/
theorem hyphenCase_is_asked :
    let api : Endpoints := ⟨"http://svc", "http://svc/gotrue", "/health", "OK", 0, 1⟩
    let url := "http://svc/\x7b\x7ba-b\x7d\x7d"
    (Suite.parse hyphenText "suite.json").toOption = some [hyphenCase] ∧
      '{' ∉ api.baseUrl.toList ∧
      (∀ step name, hyphenCase.recorded? step name = none) ∧
      (run (pathless.traced id) api [hyphenCase] [] ⟨(), []⟩).2.trace.map (fun e => e.request.url) =
        [url] ∧
      HasBracePair url.toList := by
  intro api url
  refine ⟨by decide +kernel, by decide, ?_, ?_, by decide +kernel⟩
  · intro step name
    unfold Case.recorded?
    split
    · simp [hyphenCase]
    · rfl
  · have hrequires : Values.missing [] hyphenCase.requires = [] := by decide +kernel
    have hpath : Template.render hyphenCase.path (Dictionary.get? ([] : Values)) =
        .ok hyphenCase.path := by decide +kernel
    have hurl : api.url hyphenCase.path = url := by decide +kernel
    have hopen : openCases [hyphenCase] = [hyphenCase] := rfl
    simp only [run, runSteps, runChain, runIdentities, runCase, hopen]
    simp [hrequires, hpath, Case.request, hurl, Service.exchange, Service.traced, Traced.noting,
      pathless]

end Shipyard.Conformance
