import Shipyard.Proofs.Conformance.Confidential

/-!
# Where tokens go

A token that was given to an identity goes with the requests of its chain and with no others, and
these requests go to the service. The second is not a matter of course, since a path that is a URL
of its own takes the place of the base URL, and what is filled into a path was chosen by a service.
Filling leaves a path its first character, however. A path that begins with a slash is then no URL
of its own, whatever is filled in.
-/

namespace Shipyard.Conformance

open Http (Exchange Reply Request Service)

/-! ## URLs -/

/-- A path that begins with a slash is below the base URL. -/
lemma url_eq_of_slash (api : Endpoints) {path : String} (h : path.toList.head? = some '/') :
    ∃ rest, api.url path = Text.trimEndSlashes api.baseUrl ++ "/" ++ rest := by
  obtain ⟨cs, hcs⟩ := List.head?_eq_some_iff.mp h
  have hwhole : isWholeUrl path = false := by
    unfold isWholeUrl
    rw [hcs]
    rfl
  refine ⟨Text.trimStartSlashes path, ?_⟩
  unfold Endpoints.url joinUrl
  rw [hwhole]
  rfl

/-! ## Chains -/

/-- What a chain asks is asked for one of its cases, with the token of the chain, and under the path
of the case with some values filled in. -/
lemma Chain.asked {api : Endpoints} {identity token : Option String} {values : Values}
    {cases : List Case} {steps : List Step} (h : Chain api identity token values cases steps)
    {exchange : Exchange} (hexchange : exchange ∈ exchanges steps) :
    ∃ case ∈ cases, ∃ value path, Template.render case.path value = .ok path ∧
      exchange.request = case.request api path token := by
  induction h with
  | nil => cases hexchange
  | cons first later ih =>
    rw [exchanges_cons] at hexchange
    rcases List.mem_append.mp hexchange with hfirst | hlater
    · cases first with
      | leftOut missing => cases hfirst
      | asked asked filled request =>
        obtain rfl : exchange = asked := List.mem_singleton.mp hfirst
        exact ⟨_, List.mem_cons_self, _, _, filled, request⟩
    · obtain ⟨case, hcase, hasked⟩ := ih hlater
      exact ⟨case, List.mem_cons_of_mem _ hcase, hasked⟩

/-- A suite whose cases for identities have paths that begin with a slash. -/
def Rooted (cases : List Case) : Prop :=
  ∀ case ∈ bearerCases cases, case.path.toList.head? = some '/'

/-- The standard suite is one. -/
lemma standard_rooted (api : Endpoints) : Rooted (Suite.standard api) := by
  have hall : ((bearerCases (Suite.standard api)).map Case.path).all
      (fun path => path.toList.head? == some '/') = true := rfl
  intro case hcase
  exact eq_of_beq (List.all_eq_true.mp hall _ (List.mem_map_of_mem hcase))

/-! ## Identities -/

/-- An exchange grants a token: its response is a document that has it as its access token. -/
def Grants (exchange : Exchange) (token : String) : Prop :=
  ∃ response document, exchange.reply = .ok response ∧ response.json? = some document ∧
    document.member? accessTokenName = some (.text token)

/-- The text of a member is a member. -/
lemma member?_of_filledMember? {document : Json} {name text : String}
    (h : filledMember? document name = some text) :
    document.member? name = some (.text text) := by
  obtain ⟨htext, -⟩ := Option.filter_eq_some_iff.mp h
  obtain ⟨value, hvalue, htext⟩ := Option.bind_eq_some_iff.mp htext
  cases value <;> cases htext
  exact hvalue

/-- The access token in a response is a member of its document. -/
lemma member?_of_ofResponse {response : Http.Response} {tokens : Tokens}
    (h : Tokens.ofResponse response = .ok tokens) : ∃ document, response.json? = some document ∧
      document.member? accessTokenName = some (.text tokens.access) := by
  unfold Tokens.ofResponse at h
  split at h
  · cases h
  · rename_i document hdocument
    split at h
    · cases h
    · rename_i access haccess
      split at h
      · cases h
      · cases h
        exact ⟨document, hdocument, member?_of_filledMember? haccess⟩

/-- The access token of an exchange is granted by it. -/
lemma grants_of_tokensOf {exchange : Exchange} {tokens : Tokens}
    (h : tokensOf exchange = .ok tokens) : Grants exchange tokens.access := by
  unfold tokensOf at h
  split at h
  · rename_i response hreply
    cases htokens : Tokens.ofResponse response with
    | ok granted =>
      rw [htokens] at h
      cases h
      obtain ⟨document, hdocument, hmember⟩ := member?_of_ofResponse htokens
      exact ⟨response, document, hreply, hdocument, hmember⟩
    | error fault =>
      rw [htokens] at h
      cases h
  · cases h

/-- The tokens of an identity are confined: its steps stand for its probes, no token goes with its
login and its refresh, and in the chain between them each request is made behind a login that has
passed, carries the token that this login was granted, and goes to a URL below the base URL. -/
structure Confines (api : Endpoints) (cases : List Case) (identity : Identity)
    (steps : List Step) : Prop where
  standFor : StandFor steps (Probe.ofIdentity cases identity)
  confined : ∃ login chain refresh, steps = login :: (chain ++ [refresh]) ∧
    (∀ exchange, login.exchange = some exchange → exchange.request.bearer = none) ∧
    (∀ exchange, refresh.exchange = some exchange → exchange.request.bearer = none) ∧
    ∀ exchange ∈ exchanges chain, ∃ granted token rest,
      login.entry.outcome = .pass ∧ login.exchange = some granted ∧ Grants granted token ∧
      exchange.request.bearer = some token ∧
      exchange.request.url = Text.trimEndSlashes api.baseUrl ++ "/" ++ rest

/-- The tokens of an identity that is served are confined. -/
lemma Served.confines {api : Endpoints} {cases : List Case} {identity : Identity}
    {steps : List Step} (h : Served api cases identity steps) (hrooted : Rooted cases) :
    Confines api cases identity steps where
  standFor := h.standFor
  confined := by
    cases h with
    | admitted login request accepted chain refreshed =>
      refine ⟨_, _, _, rfl, ?_, ?_, ?_⟩
      · rintro _ ⟨⟩
        rw [request]
        rfl
      · intro exchange hexchange
        cases refreshed with
        | leftOut absent => cases hexchange
        | asked asked held request =>
          cases hexchange
          rw [request]
          rfl
      · intro exchange hexchange
        obtain ⟨case, hcase, value, path, hpath, hasked⟩ := chain.asked hexchange
        have hslash := Template.head_of_render (by decide) (hrooted case hcase) hpath
        obtain ⟨rest, hrest⟩ := url_eq_of_slash api hslash
        refine ⟨login, _, rest, loginStep_outcome_of_ok accepted, rfl,
          grants_of_tokensOf accepted, ?_, ?_⟩
        · rw [hasked]
          rfl
        · rw [hasked]
          exact hrest
    | refused login request rejected =>
      obtain ⟨chain, refresh, hblocked, hchain, hrefresh⟩ := exists_blocked cases identity.name
      refine ⟨_, chain, refresh, by rw [hblocked], ?_, ?_, ?_⟩
      · rintro _ ⟨⟩
        rw [request]
        rfl
      · intro exchange hexchange
        rw [hrefresh] at hexchange
        cases hexchange
      · intro exchange hexchange
        rw [hchain] at hexchange
        cases hexchange

/-- The requests of the open cases carry no token. With a suite whose cases for identities have
paths that begin with a slash, as in the standard suite, a request carries a token only in the chain
of an identity whose login has passed. It is the access token of this login, and the request goes to
a URL below the base URL, whatever the service answers. -/
theorem tokens_are_confined (api : Endpoints) :
    Rooted (Suite.standard api) ∧
    ∀ {σ : Type} (service : Service (StateM σ)) (cases : List Case), Rooted cases →
      ∀ identities s, ∃ opening parts,
        Behind service api cases identities s (opening ++ parts.flatten) ∧
        StandFor opening ((openCases cases).map (.ofCase none)) ∧
        (∀ exchange ∈ exchanges opening, exchange.request.bearer = none) ∧
        List.Forall₂ (Confines api cases) identities parts := by
  refine ⟨standard_rooted api, ?_⟩
  intro σ service cases hrooted identities s
  obtain ⟨opening, parts, hbehind, hcourse⟩ := exists_course service api cases identities s
  refine ⟨opening, parts, hbehind, Chain.standFor none hcourse.opened, ?_, ?_⟩
  · intro exchange hexchange
    obtain ⟨case, -, value, path, -, hasked⟩ := hcourse.opened.asked hexchange
    rw [hasked]
    rfl
  · exact hcourse.served.imp fun _ _ hserved => hserved.confines hrooted

/-- An identity with one case is granted a token and a refresh token. Three requests are made, and
the token goes with the second of them, the one for the case. -/
theorem token_goes_with_own_case :
    let ann : Identity := ⟨"ann", .email, "ann@svc", "first"⟩
    let api : Endpoints := ⟨"http://svc/", "http://svc/gotrue", "/health", "OK", 0, 1⟩
    let granted := tokenResponse "access-token-of-ann-at-svc" "refresh-token-of-ann"
    let replies : List Reply := [.ok granted, .ok ⟨200, "ann"⟩, .ok granted]
    Rooted [ownCase] ∧ ∃ opening parts,
      Behind scripted api [ownCase] [ann] replies (opening ++ parts.flatten) ∧
      (∀ exchange ∈ exchanges opening, exchange.request.bearer = none) ∧
      List.Forall₂ (Confines api [ownCase]) [ann] parts ∧
      (exchanges (opening ++ parts.flatten)).map (fun exchange => exchange.request.bearer) =
        [none, some "access-token-of-ann-at-svc", none] := by
  intro ann api granted replies
  have hrooted : Rooted [ownCase] := by
    intro case hcase
    obtain rfl := List.mem_singleton.mp hcase
    decide
  have hlogin : Tokens.ofResponse granted =
      .ok ⟨"access-token-of-ann-at-svc", some "refresh-token-of-ann"⟩ :=
    ofResponse_tokenResponse (by decide) (by decide)
  obtain ⟨opening, parts, hbehind, -, hopening, hparts⟩ :=
    (tokens_are_confined api).2 scripted [ownCase] hrooted [ann] replies
  refine ⟨hrooted, opening, parts, hbehind, hopening, hparts, ?_⟩
  -- steps behind a run are those of the run, and these are computed
  rw [hbehind.unique (runSteps_behind _ _ _ _ _), runSteps_scripted api ann hlogin]
  rfl

end Shipyard.Conformance
