import Shipyard.Conformance.Login
import Shipyard.Conformance.Suite
import Shipyard.Conformance.Tally

/-!
# Running a suite

The open cases are run first, for nobody in particular. Then each identity logs in, the cases that
need a token are run with its token, and new tokens are asked for. What a case finds is known to
the later cases of the same chain and to no others; a case whose path needs something that is not
known is skipped, and an identity that cannot log in has all its cases skipped.

A `Step` of a run holds the entry for the report and the exchange behind it, if a request was
made.
-/

namespace Shipyard.Conformance

/-- Why a probe failed. -/
inductive Reason where
  | mismatch (fault : Mismatch)
  | token (fault : TokenFault)
  /-- There was no response. -/
  | noResponse (cause : Cause)
  deriving DecidableEq, Repr

/-- The wording of a reason. -/
def Reason.message : Reason → String
  | .mismatch fault => fault.message
  | .token fault => fault.message
  | .noResponse cause => cause.message

/-- What became of a probe. -/
inductive Outcome where
  | pass
  | fail (reason : Reason)
  | skipped (missing : List String)
  deriving DecidableEq, Repr

/-- The members of an outcome in documents. -/
def Outcome.members : Outcome → List (String × Json)
  | .pass => [("outcome", .text "pass")]
  | .fail reason => [("outcome", .text "fail"), ("reason", .text reason.message)]
  | .skipped missing => [("outcome", .text "skipped"), ("missing", .ofTexts missing)]

/-- A line of the report. -/
structure Entry where
  identity : Option String
  case : String
  outcome : Outcome
  status : Option Nat
  deriving DecidableEq, Repr

namespace Entry

/-- Whether the probe was skipped. -/
def isSkipped (e : Entry) : Bool :=
  match e.outcome with
  | .skipped _ => true
  | _ => false

/-- A line of the report as a document. -/
def toJson (e : Entry) : Json :=
  .object
    (Json.optional "identity" (e.identity.map .text) ++ [("case", .text e.case)] ++
      e.outcome.members ++ Json.optional "status" (e.status.map Json.ofNat))

end Entry

/-- A report: its lines, and their counts. -/
structure Report where
  entries : List Entry := []
  tally : Tally := .empty
  deriving DecidableEq, Repr

/-- Counts with one more outcome. -/
def Tally.record (t : Tally) : Outcome → Tally
  | .pass => t.recordPass
  | .fail _ => t.recordFail
  | .skipped _ => t.recordSkip

namespace Report

/-- A report with one more line. -/
def record (r : Report) (e : Entry) : Report :=
  ⟨r.entries ++ [e], r.tally.record e.outcome⟩

/-- The report of lines that are recorded one after another. -/
def ofEntries (entries : List Entry) : Report :=
  entries.foldl record {}

/-- The lines of probes that were skipped. -/
def skipped (r : Report) : List Entry :=
  r.entries.filter Entry.isSkipped

/-- A report as a document. -/
def toJson (r : Report) : Json :=
  .object [("results", .array (r.entries.map Entry.toJson)), ("counters", r.tally.toJson)]

end Report

/-- What is known in a chain of cases: a value for each name that was found. -/
abbrev Values : Type := Dictionary String

namespace Values

/-- The names for which there is no value, in their order. -/
def missing (values : Values) (names : List String) : List String :=
  names.filter fun name => (Dictionary.get? values name).isNone

/-- Values with more of them, of two for one name the later one. -/
def learn (values found : Values) : Values :=
  found.foldl (fun known entry => Dictionary.insert entry.1 entry.2 known) values

end Values

/-- A part of a run: a line of the report, and the exchange it tells of. -/
structure Step where
  entry : Entry
  exchange : Option Http.Exchange

/-- The name of the probe in which an identity logs in. -/
def loginProbe : String := "login"

/-- The name of the probe in which new tokens are asked for. -/
def refreshProbe : String := "refresh"

/-- The token that an identity must have for its cases. -/
def accessTokenName : String := "access_token"

/-- The token with which new tokens are asked for. -/
def refreshTokenName : String := "refresh_token"

/-- A part of a run in which no request was made. -/
def Step.skip (identity : Option String) (case : String) (missing : List String) : Step :=
  ⟨⟨identity, case, .skipped missing, none⟩, none⟩

namespace Case

/-- The request of a case, once its path is filled. -/
def request (case : Case) (api : Endpoints) (path : String) (token : Option String) :
    Http.Request where
  method := case.method
  url := api.url path
  bearer := token
  body := case.body

/-- What becomes of a case with an exchange. -/
def outcome (case : Case) (exchange : Http.Exchange) : Outcome :=
  match exchange.reply with
  | .ok response =>
    match case.expect.mismatch? response with
    | none => .pass
    | some mismatch => .fail (.mismatch mismatch)
  | .error problem => .fail (.noResponse (exchange.request.cause problem))

/-- What a case has found with an exchange: nothing, unless it has passed. -/
def learned (case : Case) (exchange : Http.Exchange) : Values :=
  match case.outcome exchange, exchange.reply with
  | .pass, .ok response => case.extracted response.body
  | _, _ => []

/-- The part of a run in which a case was probed. -/
def step (case : Case) (identity : Option String) (exchange : Http.Exchange) : Step :=
  ⟨⟨identity, case.name, case.outcome exchange, exchange.status?⟩, some exchange⟩

end Case

/-- The tokens that an exchange with the token endpoint gives. -/
def tokensOf (exchange : Http.Exchange) : Except Reason Tokens :=
  match exchange.reply with
  | .ok response => (Tokens.ofResponse response).mapError .token
  | .error problem => .error (.noResponse (exchange.request.cause problem))

/-- The outcome of an exchange with the token endpoint. -/
def tokenOutcome (exchange : Http.Exchange) : Outcome :=
  match tokensOf exchange with
  | .ok _ => .pass
  | .error reason => .fail reason

/-- The part of a run in which an identity logged in. -/
def loginStep (identity : String) (exchange : Http.Exchange) : Step :=
  ⟨⟨some identity, loginProbe, tokenOutcome exchange, exchange.status?⟩, some exchange⟩

/-- The part of a run in which new tokens were asked for. Its status is not reported. -/
def refreshStep (identity : String) (exchange : Http.Exchange) : Step :=
  ⟨⟨some identity, refreshProbe, tokenOutcome exchange, none⟩, some exchange⟩

/-- The cases that are run for nobody in particular. -/
def openCases (cases : List Case) : List Case :=
  cases.filter (·.access = .everyone)

/-- The cases that are run for each identity. -/
def bearerCases (cases : List Case) : List Case :=
  cases.filter (·.access = .bearer)

/-- The rest of the run of an identity that could not log in. -/
def blockedSteps (cases : List Case) (identity : String) : List Step :=
  ((bearerCases cases).map Case.name ++ [refreshProbe]).map fun case =>
    .skip (some identity) case [accessTokenName]

section

variable {m : Type → Type} [Monad m]

/-- Run a case with what is known; what is known afterwards. -/
def runCase (service : Http.Service m) (api : Endpoints) (identity token : Option String)
    (values : Values) (case : Case) : m (Step × Values) := do
  match Values.missing values case.requires with
  | [] =>
    match Template.render case.path (Dictionary.get? values) with
    | .ok path =>
      let exchange ← service.exchange (case.request api path token)
      return (case.step identity exchange, values.learn (case.learned exchange))
    | .error name => return (.skip identity case.name [name], values)
  | missing => return (.skip identity case.name missing, values)

/-- Run a chain of cases. -/
def runChain (service : Http.Service m) (api : Endpoints) (identity token : Option String) :
    Values → List Case → m (List Step)
  | _, [] => return []
  | values, case :: cases => do
    let (step, values) ← runCase service api identity token values case
    let steps ← runChain service api identity token values cases
    return step :: steps

/-- Ask for new tokens, if there is a token to do it with. -/
def runRefresh (service : Http.Service m) (api : Endpoints) (identity : String) (tokens : Tokens) :
    m Step := do
  match tokens.refresh with
  | some token =>
    let exchange ← service.exchange (refreshRequest api.authUrl token)
    return refreshStep identity exchange
  | none => return .skip (some identity) refreshProbe [refreshTokenName]

/-- The run of an identity. -/
def runIdentity (service : Http.Service m) (api : Endpoints) (cases : List Case)
    (identity : Identity) : m (List Step) := do
  let login ← service.exchange (loginRequest api.authUrl identity)
  match tokensOf login with
  | .ok tokens =>
    let steps ←
      runChain service api (some identity.name) (some tokens.access) [] (bearerCases cases)
    let refresh ← runRefresh service api identity.name tokens
    return loginStep identity.name login :: steps ++ [refresh]
  | .error _ => return loginStep identity.name login :: blockedSteps cases identity.name

/-- The runs of identities, one after another. -/
def runIdentities (service : Http.Service m) (api : Endpoints) (cases : List Case) :
    List Identity → m (List Step)
  | [] => return []
  | identity :: identities => do
    let steps ← runIdentity service api cases identity
    let others ← runIdentities service api cases identities
    return steps ++ others

/-- A whole run. -/
def runSteps (service : Http.Service m) (api : Endpoints) (cases : List Case)
    (identities : List Identity) : m (List Step) := do
  let steps ← runChain service api none none [] (openCases cases)
  let others ← runIdentities service api cases identities
  return steps ++ others

/-- Run a suite and report. -/
def run (service : Http.Service m) (api : Endpoints) (cases : List Case)
    (identities : List Identity) : m Report := do
  return .ofEntries ((← runSteps service api cases identities).map Step.entry)

end

end Shipyard.Conformance
