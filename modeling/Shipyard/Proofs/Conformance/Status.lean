import Shipyard.Proofs.Conformance.Confidential

/-!
# The statuses in a report

Behind a step there is a status if its request got a response. The line of a case and of a login
reports it, whatever came of the response: that it was as expected, that it was not, or that there
were no tokens in it. The line of a refresh never reports a status, and thus leaves one out whenever
its request got a response.

No line reports a status that is not behind it. All of this is seen from a step and the probe that
it settles, so it holds of every run.
-/

namespace Shipyard.Conformance

open Http (Exchange Service)

/-- The status that is behind a step, if a request was made in it and got a response. -/
def Step.answered? (step : Step) : Option Nat :=
  step.exchange.bind Exchange.status?

/-- Whether the lines of a probe report statuses. Those of a refresh do not. -/
def Probe.reportsStatus : Probe → Bool
  | .refresh _ => false
  | _ => true

/-- There is a status behind a step exactly if a response with this status is. -/
lemma Step.answered?_eq_some_iff {step : Step} {status : Nat} :
    step.answered? = some status ↔ ∃ exchange response,
      step.exchange = some exchange ∧ exchange.reply = .ok response ∧
        response.status = status := by
  have hreply : ∀ exchange : Exchange, exchange.status? = some status ↔
      ∃ response, exchange.reply = .ok response ∧ response.status = status := by
    rintro ⟨request, reply⟩
    cases reply with
    | ok response =>
      exact ⟨fun h => ⟨response, rfl, Option.some.inj h⟩,
        fun ⟨_, hresponse, hstatus⟩ => hstatus ▸ Except.ok.inj hresponse ▸ rfl⟩
    | error problem => exact ⟨nofun, nofun⟩
  unfold Step.answered?
  rw [Option.bind_eq_some_iff]
  constructor
  · rintro ⟨exchange, hexchange, hstatus⟩
    obtain ⟨response, hresponse⟩ := (hreply exchange).mp hstatus
    exact ⟨exchange, response, hexchange, hresponse⟩
  · rintro ⟨exchange, response, hexchange, hresponse⟩
    exact ⟨exchange, hexchange, (hreply exchange).mpr ⟨response, hresponse⟩⟩

/-- The line of a step reports the status behind it, unless it is the line of a refresh. -/
lemma Settles.status_eq {api : Endpoints} {probe : Probe} {step : Step}
    (h : Settles api probe step) :
    step.entry.status = if probe.reportsStatus then step.answered? else none := by
  cases h with
  | made exchange asks => cases probe <;> rfl
  | skipped missing optional => cases probe <;> rfl

variable {σ ε : Type} (service : Service (StateM σ)) (event : Exchange → ε) (api : Endpoints)
  (cases : List Case)

/-- A traced run of a suite is the run without a trace, and its lines are those of steps whose
exchanges are all that is sent. Each of the steps settles its probe, in the order of the probes, and
is a skipped one exactly if nothing was sent in it. Its line reports a status if and only if the
request of the step got a response with this status and the probe is not a refresh. -/
theorem run_reports_statuses (identities : List Identity) (t : Traced σ ε) :
    Traced.Faithful (run (service.traced event) api cases identities)
        (run service api cases identities) ∧
      ∃ steps : List Step,
        (run (service.traced event) api cases identities t).1.entries = steps.map Step.entry ∧
        (run (service.traced event) api cases identities t).2.trace =
          t.trace ++ (exchanges steps).map event ∧
        List.Forall₂ (fun probe step =>
            Settles api probe step ∧
            step.entry.isSkipped = step.exchange.isNone ∧
            ∀ status, step.entry.status = some status ↔
              (∀ identity, probe ≠ .refresh identity) ∧
                ∃ exchange response, step.exchange = some exchange ∧
                  exchange.reply = .ok response ∧ response.status = status)
          (Probe.all cases identities) steps := by
  obtain ⟨opening, parts, hsteps, hopening, hparts, htrace⟩ :=
    runSteps_parts service event api cases identities t
  refine ⟨run_faithful service event api cases identities, opening ++ parts.flatten, ?_, ?_, ?_⟩
  · simp only [run, eval_bind, eval_pure, hsteps, Report.ofEntries_entries]
  · simp only [run, eval_bind, eval_pure, htrace]
  · refine (settles_all api cases hopening hparts).imp fun probe step hsettles => ?_
    refine ⟨hsettles, hsettles.isSkipped, fun status => ?_⟩
    rw [hsettles.status_eq, ← Step.answered?_eq_some_iff]
    cases probe with
    | refresh identity =>
      exact iff_of_false (Option.some_ne_none status).symm fun h => h.1 identity rfl
    | ofCase identity case =>
      refine ⟨fun h => ⟨fun identity hrefresh => ?_, h⟩, And.right⟩
      cases hrefresh
    | login identity =>
      refine ⟨fun h => ⟨fun identity hrefresh => ?_, h⟩, And.right⟩
      cases hrefresh

/-- An identity is given new tokens. Both of its requests got a response with status 200, but of its
two lines only that of the login says so. -/
theorem refresh_reports_no_status :
    let ann : Identity := ⟨"ann", .email, "ann@svc", "first"⟩
    let api : Endpoints := ⟨"http://svc", "http://svc/gotrue", "/health", "OK", 0, 1⟩
    let tokens := tokenResponse "access-token-of-ann-at-svc" "refresh-token-of-ann"
    let service : Service (StateM Unit) := ⟨fun _ => pure (.ok tokens)⟩
    let ran := run (service.traced id) api [] [ann] ⟨(), []⟩
    tokens.status = 200 ∧
      ran.2.trace = [⟨loginRequest api.authUrl ann, .ok tokens⟩,
        ⟨refreshRequest api.authUrl "refresh-token-of-ann", .ok tokens⟩] ∧
      ran.1.entries =
        [⟨some "ann", loginProbe, .pass, some 200⟩, ⟨some "ann", refreshProbe, .pass, none⟩] := by
  intro ann api tokens service
  have htokens : ∀ request, tokensOf ⟨request, .ok tokens⟩ =
      .ok ⟨"access-token-of-ann-at-svc", some "refresh-token-of-ann"⟩ := by
    have hgiven : Tokens.ofResponse tokens = .ok ⟨_, some _⟩ :=
      ofResponse_tokenResponse (by decide) (by decide)
    intro request
    rw [tokensOf]
    dsimp only
    rw [hgiven, Except.mapError]
  have hpass : ∀ request, tokenOutcome ⟨request, .ok tokens⟩ = .pass := fun request => by
    rw [tokenOutcome, htokens]
  have hsteps : runSteps (service.traced id) api [] [ann] ⟨(), []⟩ =
      ([loginStep ann.name ⟨loginRequest api.authUrl ann, .ok tokens⟩,
        refreshStep ann.name ⟨refreshRequest api.authUrl "refresh-token-of-ann", .ok tokens⟩],
      ⟨(), [⟨loginRequest api.authUrl ann, .ok tokens⟩,
        ⟨refreshRequest api.authUrl "refresh-token-of-ann", .ok tokens⟩]⟩) := by
    simp [runSteps, runIdentities, runIdentity, runChain, runRefresh, openCases, bearerCases,
      service, Service.exchange, Service.traced, Traced.noting, htokens]
  refine ⟨rfl, congrArg (fun ran => ran.2.trace) hsteps, ?_⟩
  change (Report.ofEntries ((runSteps (service.traced id) api [] [ann] ⟨(), []⟩).1.map
    Step.entry)).entries = _
  rw [Report.ofEntries_entries, hsteps]
  simp only [List.map_cons, List.map_nil, loginStep, refreshStep, hpass]
  rfl

end Shipyard.Conformance
