import Shipyard.Proofs.Conformance.Course
import Shipyard.Proofs.Json.RoundTrip

/-!
# Reports carry no credential

Two runs of one suite are compared whose identities have the same names, methods and identifiers but
any passwords, and whose services answer alike, except that the token endpoint may give other tokens
in the one run than in the other. Their reports are equal, so nothing in a report depends on a
password or on a token.

Passwords and tokens go into requests, and of a request a report tells nothing but its method and
its URL. So the steps of the two runs need not be equal, their requests carry different credentials,
but their lines are. This is shown along the course that both runs take: what is known at a place of
a chain is the same in both, so the same case is asked or left out there, with the same line.
-/

namespace Shipyard.Conformance

open Http (Exchange Reply Request Response Service)

/-! ## Other credentials -/

/-- Two identities are the same but for their passwords. -/
def SameButPassword (identity other : Identity) : Prop :=
  other = { identity with password := other.password }

/-- Two replies of the token endpoint are the same but for their tokens: they are equal, or they
have the same status and both give tokens, with a refresh token in both or in neither. What else
stands in replies that give tokens is left open. -/
inductive SameButTokens : Reply → Reply → Prop where
  | equal (reply : Reply) : SameButTokens reply reply
  | granted {response response' : Response} {tokens tokens' : Tokens}
      (status : response.status = response'.status)
      (given : Tokens.ofResponse response = .ok tokens)
      (given' : Tokens.ofResponse response' = .ok tokens')
      (refresh : tokens.refresh.isSome = tokens'.refresh.isSome) :
      SameButTokens (.ok response) (.ok response')

/-- How the replies to a probe may differ: those to a case not at all, those to a login and to a
refresh in their tokens. -/
def Probe.MayAnswer : Probe → Reply → Reply → Prop
  | .ofCase _ _, reply, reply' => reply = reply'
  | .login _, reply, reply' => SameButTokens reply reply'
  | .refresh _, reply, reply' => SameButTokens reply reply'

/-- The steps of two runs are answered alike but for tokens: where both runs have made a request for
a probe, the replies differ as they may for this probe. -/
def AnsweredButTokens (probes : List Probe) (steps steps' : List Step) : Prop :=
  ∀ (i : Nat) (probe : Probe) (step step' : Step) (e e' : Exchange), probes[i]? = some probe →
    steps[i]? = some step → steps'[i]? = some step' → step.exchange = some e →
    step'.exchange = some e' → probe.MayAnswer e.reply e'.reply

namespace AnsweredButTokens

variable {probe : Probe} {probes others : List Probe} {step step' : Step}
  {steps steps' later later' : List Step}

/-- The replies to the first probe differ as they may. -/
lemma head (h : AnsweredButTokens (probe :: probes) (step :: steps) (step' :: steps'))
    {e e' : Exchange} (he : step.exchange = some e) (he' : step'.exchange = some e') :
    probe.MayAnswer e.reply e'.reply :=
  h 0 probe step step' e e' rfl rfl rfl he he'

/-- The steps behind the first are answered alike if all are. -/
lemma tail (h : AnsweredButTokens (probe :: probes) (step :: steps) (step' :: steps')) :
    AnsweredButTokens probes steps steps' := by
  intro i probe step step' e e' hprobe hstep hstep'
  exact h (i + 1) probe step step' e e' hprobe hstep hstep'

/-- The steps in front are answered alike if all are. -/
lemma left (h : AnsweredButTokens (probes ++ others) (steps ++ later) (steps' ++ later')) :
    AnsweredButTokens probes steps steps' := by
  intro i probe step step' e e' hprobe hstep hstep'
  refine h i probe step step' e e' ?_ ?_ ?_
  · exact List.getElem?_append_left (List.getElem?_eq_some_iff.mp hprobe).1 ▸ hprobe
  · exact List.getElem?_append_left (List.getElem?_eq_some_iff.mp hstep).1 ▸ hstep
  · exact List.getElem?_append_left (List.getElem?_eq_some_iff.mp hstep').1 ▸ hstep'

/-- The steps behind others are answered alike if all are and as many are in front of them. -/
lemma right (h : AnsweredButTokens (probes ++ others) (steps ++ later) (steps' ++ later'))
    (hsteps : steps.length = probes.length) (hsteps' : steps'.length = probes.length) :
    AnsweredButTokens others later later' := by
  intro i probe step step' e e' hprobe hstep hstep'
  refine h (probes.length + i) probe step step' e e' ?_ ?_ ?_
  · rw [List.getElem?_append_right (Nat.le_add_right _ _), Nat.add_sub_cancel_left, hprobe]
  · rw [← hsteps, List.getElem?_append_right (Nat.le_add_right _ _), Nat.add_sub_cancel_left, hstep]
  · rw [← hsteps', List.getElem?_append_right (Nat.le_add_right _ _), Nat.add_sub_cancel_left,
      hstep']

end AnsweredButTokens

/-! ## What a line tells of an exchange -/

/-- Two exchanges look the same in a report: their replies are equal, and so is what is said of
their requests if there is no response. -/
structure LookSame (e e' : Exchange) : Prop where
  reply : e.reply = e'.reply
  cause : e.request.cause = e'.request.cause

namespace LookSame

variable {e e' : Exchange}

/-- The status that is reported is the same. -/
lemma status_eq (h : LookSame e e') : e.status? = e'.status? := by
  unfold Exchange.status?
  rw [h.reply]

/-- What becomes of a case is the same. -/
lemma outcome_eq (h : LookSame e e') (case : Case) : case.outcome e = case.outcome e' := by
  unfold Case.outcome
  rw [h.reply, h.cause]

/-- What a case finds is the same. -/
lemma learned_eq (h : LookSame e e') (case : Case) : case.learned e = case.learned e' := by
  unfold Case.learned
  rw [h.outcome_eq case, h.reply]

/-- The line of a case is the same. -/
lemma entry_eq (h : LookSame e e') (case : Case) (identity : Option String) :
    (case.step identity e).entry = (case.step identity e').entry := by
  unfold Case.step
  rw [h.outcome_eq case, h.status_eq]

/-- The tokens that are given are the same. -/
lemma tokensOf_eq (h : LookSame e e') : tokensOf e = tokensOf e' := by
  unfold tokensOf
  rw [h.reply, h.cause]

/-- The outcome of a login or a refresh is the same. -/
lemma tokenOutcome_eq (h : LookSame e e') : tokenOutcome e = tokenOutcome e' := by
  unfold tokenOutcome
  rw [h.tokensOf_eq]

end LookSame

/-- What an exchange with the token endpoint comes to, but for the tokens: tokens are given in both
exchanges, with a refresh token in both or in neither, or in none of them and for the same reason.
-/
inductive GrantAlike (e e' : Exchange) : Prop where
  | granted {tokens tokens' : Tokens} (given : tokensOf e = .ok tokens)
      (given' : tokensOf e' = .ok tokens')
      (refresh : tokens.refresh.isSome = tokens'.refresh.isSome)
  | denied {reason : Reason} (denied : tokensOf e = .error reason)
      (denied' : tokensOf e' = .error reason)

/-- Tokens are given alike if the replies are the same but for tokens. -/
lemma SameButTokens.grantAlike {e e' : Exchange} (h : SameButTokens e.reply e'.reply)
    (hcause : e.request.cause = e'.request.cause) :
    GrantAlike e e' ∧ e.status? = e'.status? := by
  obtain ⟨request, reply⟩ := e
  obtain ⟨request', reply'⟩ := e'
  cases h with
  | equal =>
    have hsame : LookSame ⟨request, reply⟩ ⟨request', reply⟩ := ⟨rfl, hcause⟩
    refine ⟨?_, hsame.status_eq⟩
    cases htokens : tokensOf ⟨request, reply⟩ with
    | ok tokens => exact .granted htokens (hsame.tokensOf_eq ▸ htokens) rfl
    | error reason => exact .denied htokens (hsame.tokensOf_eq ▸ htokens)
  | @granted response response' tokens tokens' status given given' refresh =>
    have hgiven : tokensOf ⟨request, .ok response⟩ = .ok tokens :=
      congrArg (Except.mapError Reason.token) given
    have hgiven' : tokensOf ⟨request', .ok response'⟩ = .ok tokens' :=
      congrArg (Except.mapError Reason.token) given'
    exact ⟨.granted hgiven hgiven' refresh, congrArg some status⟩

/-- The outcome is the same if tokens are given alike. -/
lemma GrantAlike.tokenOutcome_eq {e e' : Exchange} (h : GrantAlike e e') :
    tokenOutcome e = tokenOutcome e' := by
  unfold tokenOutcome
  cases h with
  | granted given given' refresh => rw [given, given']
  | denied denied denied' => rw [denied, denied']

/-! ## Courses with other credentials -/

variable {api : Endpoints} {name token token' : Option String} {values values₁ values₂ : Values}

/-- A case that is run with the same values and gets the same reply has the same line, and the same
is known behind it, whatever token its request carries. -/
lemma Case.Runs.entry_eq {case : Case} {step step' : Step}
    (h : case.Runs api name token values step values₁)
    (h' : case.Runs api name token' values step' values₂)
    (hreply : ∀ e e', step.exchange = some e → step'.exchange = some e' → e.reply = e'.reply) :
    step.entry = step'.entry ∧ values₁ = values₂ := by
  cases h with
  | leftOut missing =>
    cases h' with
    | leftOut missing' => exact ⟨rfl, rfl⟩
    | asked exchange' filled' request' =>
      exact absurd (Values.missing_eq_nil_iff.mpr (Template.known_of_render filled')) missing
  | asked exchange filled request =>
    cases h' with
    | leftOut missing' =>
      exact absurd (Values.missing_eq_nil_iff.mpr (Template.known_of_render filled)) missing'
    | asked exchange' filled' request' =>
      rw [filled] at filled'
      cases filled'
      have hsame : LookSame exchange exchange' := by
        refine ⟨hreply _ _ rfl rfl, ?_⟩
        rw [request, request']
        rfl
      exact ⟨hsame.entry_eq case name, congrArg values.learn (hsame.learned_eq case)⟩

/-- A chain that begins with the same values and is answered alike has the same lines, whatever
token its requests carry. -/
lemma Chain.entries_eq {cases : List Case} {steps steps' : List Step} (who : Option Identity)
    (h : Chain api name token values cases steps) (h' : Chain api name token' values cases steps')
    (halike : AnsweredButTokens (cases.map (.ofCase who)) steps steps') :
    steps.map Step.entry = steps'.map Step.entry := by
  induction h generalizing steps' with
  | nil =>
    cases h'
    rfl
  | cons first later ih =>
    cases h' with
    | cons first' later' =>
      rw [List.map_cons] at halike
      obtain ⟨hentry, rfl⟩ := first.entry_eq first' fun e e' he he' => halike.head he he'
      rw [List.map_cons, List.map_cons, hentry, ih later' halike.tail]

/-- A refresh that is answered alike has the same line, whatever token it is made with. -/
lemma Refreshed.entry_eq {identity : Identity} {identityName : String} {tokens tokens' : Tokens}
    {step step' : Step} (h : Refreshed api identityName tokens step)
    (h' : Refreshed api identityName tokens' step')
    (hheld : tokens.refresh.isSome = tokens'.refresh.isSome)
    (halike : AnsweredButTokens [.refresh identity] [step] [step']) : step.entry = step'.entry := by
  cases h with
  | leftOut absent =>
    cases h' with
    | leftOut absent' => rfl
    | asked exchange' held' request' =>
      rw [absent, held'] at hheld
      cases hheld
  | asked exchange held request =>
    cases h' with
    | leftOut absent' =>
      rw [held, absent'] at hheld
      cases hheld
    | asked exchange' held' request' =>
      have hcause : exchange.request.cause = exchange'.request.cause := by
        rw [request, request']
        rfl
      have hreplies : SameButTokens exchange.reply exchange'.reply := halike.head rfl rfl
      have houtcome := (hreplies.grantAlike hcause).1.tokenOutcome_eq
      unfold refreshStep
      rw [houtcome]

/-- An identity that is served has logged in, and what is behind its login goes by the tokens that
the login has given. -/
lemma Served.exists_login {cases : List Case} {identity : Identity} {steps : List Step}
    (h : Served api cases identity steps) :
    ∃ login later, steps = loginStep identity.name login :: later ∧
      login.request = loginRequest api.authUrl identity ∧
      (∀ tokens, tokensOf login = .ok tokens → ∃ chain refresh, later = chain ++ [refresh] ∧
        Chain api (some identity.name) (some tokens.access) [] (bearerCases cases) chain ∧
        Refreshed api identity.name tokens refresh) ∧
      ∀ reason, tokensOf login = .error reason → later = blockedSteps cases identity.name := by
  cases h with
  | @admitted tokens chain refresh login request accepted hchain hrefreshed =>
    refine ⟨login, chain ++ [refresh], rfl, request, fun tokens' given => ?_, fun reason denied => ?_⟩
    · rw [accepted] at given
      cases given
      exact ⟨chain, refresh, rfl, hchain, hrefreshed⟩
    · rw [accepted] at denied
      cases denied
  | refused login request rejected =>
    refine ⟨login, _, rfl, request, fun tokens given => ?_, fun reason denied => rfl⟩
    rw [rejected] at given
    cases given

/-- An identity has the same lines with another password, if it is answered alike but for tokens. -/
lemma Served.entries_eq {cases : List Case} {identity identity' : Identity}
    {steps steps' : List Step} (hsame : SameButPassword identity identity')
    (h : Served api cases identity steps) (h' : Served api cases identity' steps')
    (halike : AnsweredButTokens (Probe.ofIdentity cases identity) steps steps') :
    steps.map Step.entry = steps'.map Step.entry := by
  have hname : identity'.name = identity.name := by
    unfold SameButPassword at hsame
    rw [hsame]
  obtain ⟨login, later, rfl, request, hgiven, hdenied⟩ := h.exists_login
  obtain ⟨login', later', rfl, request', hgiven', hdenied'⟩ := h'.exists_login
  have hcause : login.request.cause = login'.request.cause := by
    rw [request, request']
    rfl
  have hreplies : SameButTokens login.reply login'.reply := halike.head rfl rfl
  obtain ⟨hgrant, hstatus⟩ := hreplies.grantAlike hcause
  have hlogin : (loginStep identity.name login).entry = (loginStep identity'.name login').entry := by
    unfold loginStep
    rw [hgrant.tokenOutcome_eq, hstatus, hname]
  suffices hlater : later.map Step.entry = later'.map Step.entry by
    rw [List.map_cons, List.map_cons, hlogin, hlater]
  cases hgrant with
  | @granted tokens tokens' given given' held =>
    obtain ⟨chain, refresh, rfl, hchain, hrefresh⟩ := hgiven tokens given
    obtain ⟨chain', refresh', rfl, hchain', hrefresh'⟩ := hgiven' tokens' given'
    rw [hname] at hchain' hrefresh'
    have hentries := hchain.entries_eq (some identity) hchain' halike.tail.left
    have hbehind : AnsweredButTokens [.refresh identity] [refresh] [refresh'] :=
      halike.tail.right (hchain.standFor (some identity)).length_eq
        (hchain'.standFor (some identity)).length_eq
    rw [List.map_append, List.map_append, hentries, List.map_singleton, List.map_singleton,
      hrefresh.entry_eq hrefresh' held hbehind]
  | denied denied denied' => rw [hdenied _ denied, hdenied' _ denied', hname]

/-- Identities have the same lines with other passwords, if answered alike but for tokens. -/
lemma entries_eq_of_served {cases : List Case} {identities identities' : List Identity}
    {parts parts' : List (List Step)} (hsame : List.Forall₂ SameButPassword identities identities')
    (h : List.Forall₂ (Served api cases) identities parts)
    (h' : List.Forall₂ (Served api cases) identities' parts')
    (halike : AnsweredButTokens (identities.flatMap (Probe.ofIdentity cases)) parts.flatten
      parts'.flatten) :
    parts.flatten.map Step.entry = parts'.flatten.map Step.entry := by
  induction hsame generalizing parts parts' with
  | nil =>
    cases h
    cases h'
    rfl
  | @cons identity identity' identities identities' hfirst _ ih =>
    obtain ⟨part, rest, hpart, hrest, rfl⟩ := List.forall₂_cons_left_iff.mp h
    obtain ⟨part', rest', hpart', hrest', rfl⟩ := List.forall₂_cons_left_iff.mp h'
    rw [List.flatMap_cons, List.flatten_cons, List.flatten_cons] at halike
    -- an identity has as many probes with the one password as with the other
    have hprobes : (Probe.ofIdentity cases identity).length =
        (Probe.ofIdentity cases identity').length := by
      simp [Probe.ofIdentity, Probe.behindLogin]
    have hlength := hpart.standFor.length_eq
    have hlength' := hpart'.standFor.length_eq.trans hprobes.symm
    rw [List.flatten_cons, List.flatten_cons, List.map_append, List.map_append,
      hpart.entries_eq hfirst hpart' halike.left, ih hrest hrest' (halike.right hlength hlength')]

/-! ## Whole runs -/

/-- A report carries no credential. Take two runs of a suite for identities that differ in nothing
but their passwords, with any two services, and the steps behind each of them. If the requests that
are made for the same probe are answered alike in both runs, where the replies to a login and to a
refresh may differ in the tokens they give, then the reports of the two runs are the same. -/
theorem report_carries_no_credential {σ τ : Type} {service : Service (StateM σ)}
    {service' : Service (StateM τ)} {api : Endpoints} {cases : List Case}
    {identities identities' : List Identity} {s : σ} {s' : τ} {steps steps' : List Step}
    (hsame : List.Forall₂ SameButPassword identities identities')
    (h : Behind service api cases identities s steps)
    (h' : Behind service' api cases identities' s' steps')
    (halike : AnsweredButTokens (Probe.all cases identities) steps steps') :
    (run service api cases identities s).1 = (run service' api cases identities' s').1 := by
  obtain ⟨opening, parts, hbehind, hopened, hserved⟩ := exists_course service api cases identities s
  obtain ⟨opening', parts', hbehind', hopened', hserved'⟩ :=
    exists_course service' api cases identities' s'
  obtain rfl := h.unique hbehind
  obtain rfl := h'.unique hbehind'
  have hlength := (Chain.standFor none hopened).length_eq
  have hlength' := (Chain.standFor none hopened').length_eq
  have hfirst := hopened.entries_eq none hopened' halike.left
  have hrest := entries_eq_of_served hsame hserved hserved' (halike.right hlength hlength')
  rw [h.report, h'.report, List.map_append, List.map_append, hfirst, hrest]

/-- A response that gives tokens. -/
def tokenResponse (access refresh : String) : Response where
  status := 200
  body := (Json.object [("access_token", .text access), ("refresh_token", .text refresh)]).compact

/-- A member whose text is not empty is taken. -/
lemma filledMember?_of_member? {document : Json} {name text : String}
    (h : document.member? name = some (.text text)) (htext : text.isEmpty = false) :
    filledMember? document name = some text := by
  rw [filledMember?, h]
  exact Option.filter_eq_some_iff.mpr ⟨rfl, by rw [htext, Bool.not_false]⟩

/-- The tokens of a response that gives them, if the access token is long enough. -/
lemma ofResponse_tokenResponse {access refresh : String}
    (haccess : leastTokenSize ≤ access.utf8ByteSize) (hrefresh : refresh.isEmpty = false) :
    Tokens.ofResponse (tokenResponse access refresh) = .ok ⟨access, some refresh⟩ := by
  have hread : (tokenResponse access refresh).json? =
      some (.object [("access_token", .text access), ("refresh_token", .text refresh)]) := by
    refine Json.parse?_compact ⟨trivial, trivial, trivial⟩ ⟨?_, trivial, trivial, trivial⟩
    have hkeys : "access_token" < "refresh_token" := by decide
    exact List.pairwise_pair.mpr hkeys
  have hfilled : access.isEmpty = false := by
    rw [Bool.eq_false_iff]
    intro hempty
    rw [String.isEmpty_iff.mp hempty] at haccess
    exact absurd haccess (by decide)
  rw [Tokens.ofResponse, hread]
  dsimp only
  rw [filledMember?_of_member? rfl hfilled, filledMember?_of_member? rfl hrefresh]
  exact if_neg (Nat.not_lt.mpr haccess)

/-- A service that gives replies one after another. -/
def scripted : Service (StateM (List Reply)) where
  send _ replies := (replies.headD (.error "no reply is left"), replies.tail)

/-- A case that is run for an identity. -/
def ownCase : Case where
  name := "me"
  path := "/me"
  expect := .status 200
  access := .bearer

/-- The steps of an identity with one case that logs in, is asked and gets new tokens. -/
def ownSteps (api : Endpoints) (identity : Identity) (tokens : String × String) (login : Response)
    (reply : Reply) (refresh : Response) : List Step :=
  [ loginStep identity.name ⟨loginRequest api.authUrl identity, .ok login⟩,
    ownCase.step identity.name ⟨ownCase.request api "/me" (some tokens.1), reply⟩,
    refreshStep identity.name ⟨refreshRequest api.authUrl tokens.2, .ok refresh⟩ ]

section Scripted

variable (api : Endpoints) (identity : Identity) {login refresh : Response}
  {access token : String} (hlogin : Tokens.ofResponse login = .ok ⟨access, some token⟩)
  (reply : Reply)

include hlogin

/-- An identity with one case that is let in takes three replies. -/
lemma runIdentity_scripted (later : List Reply) (trace : List Exchange) :
    runIdentity (scripted.traced id) api [ownCase] identity
        ⟨.ok login :: reply :: .ok refresh :: later, trace⟩ =
      (ownSteps api identity (access, token) login reply refresh,
        ⟨later,
          trace ++ exchanges (ownSteps api identity (access, token) login reply refresh)⟩) := by
  have hrequires : Values.missing [] ownCase.requires = [] := by decide +kernel
  have hpath : Template.render ownCase.path (Dictionary.get? ([] : Values)) = .ok "/me" := by
    decide +kernel
  have hbearer : bearerCases [ownCase] = [ownCase] := rfl
  simp only [runIdentity, runChain, runRefresh, runCase, hbearer]
  simp [scripted, Service.exchange, Service.traced, Traced.noting, tokensOf, hlogin,
    Except.mapError, hrequires, hpath]
  rfl

/-- Three replies are a whole run for such an identity. -/
lemma runSteps_scripted :
    (runSteps (scripted.traced id) api [ownCase] [identity]
        ⟨[.ok login, reply, .ok refresh], []⟩).1 =
      ownSteps api identity (access, token) login reply refresh := by
  have hopen : openCases [ownCase] = [] := rfl
  simp only [runSteps, runIdentities, runChain, hopen, eval_bind, eval_pure,
    runIdentity_scripted api identity hlogin, List.nil_append, List.append_nil]

end Scripted

/-- An identity that is given other tokens for another password has the same report. -/
theorem report_for_other_password :
    let api : Endpoints := ⟨"http://svc", "http://svc/gotrue", "/health", "OK", 0, 1⟩
    let replies (access refresh : String) : List Reply :=
      [.ok (tokenResponse access refresh), .ok ⟨200, "ann"⟩, .ok (tokenResponse refresh access)]
    (run scripted api [ownCase] [⟨"ann", .email, "ann@svc", "first-password"⟩]
        (replies "access-token-of-the-first" "refresh-token-of-the-first")).1 =
      (run scripted api [ownCase] [⟨"ann", .email, "ann@svc", "second-password"⟩]
        (replies "access-token-of-the-second" "refresh-token-of-the-second")).1 := by
  intro api replies
  have hlogin : Tokens.ofResponse
      (tokenResponse "access-token-of-the-first" "refresh-token-of-the-first") =
        .ok ⟨_, some _⟩ := ofResponse_tokenResponse (by decide) (by decide)
  have hlogin' : Tokens.ofResponse
      (tokenResponse "access-token-of-the-second" "refresh-token-of-the-second") =
        .ok ⟨_, some _⟩ := ofResponse_tokenResponse (by decide) (by decide)
  have hrefresh : Tokens.ofResponse
      (tokenResponse "refresh-token-of-the-first" "access-token-of-the-first") =
        .ok ⟨_, some _⟩ := ofResponse_tokenResponse (by decide) (by decide)
  have hrefresh' : Tokens.ofResponse
      (tokenResponse "refresh-token-of-the-second" "access-token-of-the-second") =
        .ok ⟨_, some _⟩ := ofResponse_tokenResponse (by decide) (by decide)
  refine report_carries_no_credential (.cons rfl .nil) (runSteps_behind _ _ _ _ _)
    (runSteps_behind _ _ _ _ _) ?_
  rw [runSteps_scripted api _ hlogin _, runSteps_scripted api _ hlogin' _]
  intro i probe step step' e e' hprobe hstep hstep' he he'
  match i with
  | 0 =>
    cases hprobe
    cases hstep
    cases hstep'
    cases he
    cases he'
    exact .granted rfl hlogin hlogin' rfl
  | 1 =>
    cases hprobe
    cases hstep
    cases hstep'
    cases he
    cases he'
    exact rfl
  | 2 =>
    cases hprobe
    cases hstep
    cases hstep'
    cases he
    cases he'
    exact .granted rfl hrefresh hrefresh' rfl
  | i + 3 => cases hstep

end Shipyard.Conformance
