import Shipyard.Proofs.Conformance.Isolation
import Shipyard.Proofs.Conformance.Label
import Shipyard.Proofs.Health.Attempts

/-!
# The readiness gate and the health case

Whether a service is ready is looked at twice: a release waits for it before a suite is run, and the
standard suite begins with a case about it. The one is a retried request with a test of its own, the
other goes through templates, URLs and expectations like every case.

A case whose path refers to nothing is asked as it stands. So the health case sends the request with
which the service is waited for, and it passes exactly if the reply to this tells that the service
is ready. If the service answers in one way, the last reply that is waited for is this reply,
however often the service was asked before.
-/

namespace Shipyard.Conformance

open Http (Exchange Reply Request Service)

variable {σ : Type} (service : Service (StateM σ)) (api : Endpoints)

/-! ## Cases whose path refers to nothing -/

/-- A case whose path refers to nothing is asked with its path as it stands. -/
lemma runCase_of_requires_eq_nil {case : Case} (h : case.requires = [])
    (identity token : Option String) (values : Values) (s : σ) :
    (runCase service api identity token values case s).1.1 =
      case.step identity ⟨case.request api case.path token,
        (service.send (case.request api case.path token) s).1⟩ := by
  have hmissing : values.missing case.requires = [] := by rw [h, Values.missing, List.filter_nil]
  unfold runCase
  rw [hmissing, Template.render_eq_self h]
  rfl

/-- A run begins with its first open case. -/
lemma exists_runSteps_cons {cases others : List Case} {case : Case}
    (h : openCases cases = case :: others) (identities : List Identity) (s : σ) :
    ∃ later, (runSteps service api cases identities s).1 =
      (runCase service api none none [] case s).1.1 :: later := by
  unfold runSteps
  rw [h]
  exact ⟨_, rfl⟩

/-! ## The health case -/

/-- The case of the standard suite that tells whether the service is ready. -/
def healthCase (api : Endpoints) : Case :=
  Suite.unauthorized "health" api.healthPath (.bodyLiteral api.healthExpect)

/-- The health case passes exactly if the reply tells that the service is ready. -/
lemma healthCase_outcome_eq_pass_iff (request : Request) (reply : Reply) :
    (healthCase api).outcome ⟨request, reply⟩ = .pass ↔
      Health.isReady api.healthExpect reply = true := by
  have hexpect : (healthCase api).expect = .bodyLiteral api.healthExpect := rfl
  unfold Case.outcome Health.isReady
  rw [hexpect]
  cases reply with
  | error problem => simp
  | ok response =>
    by_cases h : Text.trim response.body = api.healthExpect
    · simp [Expectation.mismatch?, h]
    · simp [Expectation.mismatch?, h]

/-- A run of the standard suite begins with the health case, and no other line is labelled like this
one. The request of the case is the one with which the service is waited for. -/
lemma exists_health_behind (hpath : Template.placeholders api.healthPath = [])
    (identities : List Identity) (s : σ) :
    ∃ later, Behind service api (Suite.standard api) identities s
        ((healthCase api).step none
          ⟨Health.probe api, (service.send (Health.probe api) s).1⟩ :: later) ∧
      ∀ step ∈ later, step.entry.label ≠ (none, "health") := by
  have hopenCases : openCases (Suite.standard api) = [healthCase api,
      Suite.unauthorized "server_info" "/api/server" (.bodyKey "data"),
      Suite.unauthorized "subscription_plans" "/api/subscription/plans" (.bodyKey "data")] := rfl
  have hrequires : (healthCase api).requires = [] := hpath
  obtain ⟨later, hsteps⟩ :=
    exists_runSteps_cons (service.traced id) api hopenCases identities ⟨s, []⟩
  rw [runCase_of_requires_eq_nil _ _ hrequires] at hsteps
  have hbehind := runSteps_behind service api (Suite.standard api) identities s
  rw [hsteps] at hbehind
  refine ⟨later, hbehind, fun step hstep heq => ?_⟩
  -- behind the health case are two open cases with other names, and the probes of identities
  have hlabels := run_labels service api (Suite.standard api) identities s
  rw [hbehind.report, Report.ofEntries_entries] at hlabels
  have hlater : (later.map Step.entry).map Entry.label =
      [(none, "server_info"), (none, "subscription_plans")] ++
        (identities.flatMap (Probe.ofIdentity (Suite.standard api))).map Probe.label :=
    (List.cons.inj hlabels).2
  have hmem : (none, "health") ∈ (later.map Step.entry).map Entry.label :=
    heq ▸ List.mem_map_of_mem (List.mem_map_of_mem hstep)
  rw [hlater] at hmem
  rcases List.mem_append.mp hmem with hopen | hidentity
  · exact absurd hopen (by decide)
  · obtain ⟨probe, hprobe, hlabel⟩ := List.mem_map.mp hidentity
    obtain ⟨identity, -, hprobe⟩ := List.mem_flatMap.mp hprobe
    have hnone : probe.identity = none := congrArg Prod.fst hlabel
    rw [Probe.identity_of_mem_ofIdentity hprobe] at hnone
    cases hnone

/-! ## Waiting for a service that answers in one way -/

variable {service} {answer : Request → Reply}

/-- A service that answers in one way is waited for with success exactly if its answer tells that it
is ready. All that is sent is the request to its health URL, and it is sent at least once. -/
lemma Answers.verify_eq_ok_iff (h : Answers service answer) (pause : Nat → StateM σ Unit)
    (policy : RetryPolicy) (s : σ) :
    (∃ count, (Health.sent service api pause policy s).map Exchange.request =
        List.replicate (count + 1) (Health.probe api)) ∧
      ((∃ report, (Health.verify service pause api policy s).1 = .ok report) ↔
        Health.isReady api.healthExpect (answer (Health.probe api)) = true) := by
  obtain ⟨unready, last, -, hsaid, hsent, hresult⟩ :=
    Health.verify_sent service api pause policy s
  have hlast : last = answer (Health.probe api) := by
    obtain ⟨s', hs'⟩ := hsaid last (List.mem_append_right _ List.mem_cons_self)
    exact hs'.symm.trans (h _ s')
  refine ⟨⟨unready.length, ?_⟩, ?_⟩
  · rw [hsent, List.map_map]
    refine List.eq_replicate_iff.mpr ⟨?_, ?_⟩
    · rw [List.length_map, List.length_append, List.length_singleton]
    · exact List.forall_mem_map.mpr fun _ _ => rfl
  · rw [hresult, hlast]
    unfold Health.judge
    cases Health.isReady api.healthExpect (answer (Health.probe api)) with
    | false => simp [Except.map]
    | true => simp [Except.map]

/-- Let the health path refer to nothing and the service answer in one way. Then every run of the
standard suite has exactly one line for its health case, and this case passes exactly if the service
is waited for with success, with any budget of attempts and any pauses. Both send the same request,
the health case once and the other at least once and nothing else. -/
theorem health_passes_iff_ready (hanswers : Answers service answer)
    (hpath : Template.placeholders api.healthPath = []) (identities : List Identity)
    (pause : Nat → StateM σ Unit) (policy : RetryPolicy) (s s' : σ) :
    let request : Request := ⟨.get, api.healthUrl, none, none⟩
    ∃ health later,
      Behind service api (Suite.standard api) identities s (health :: later) ∧
      health.entry.label = (none, "health") ∧
      (∀ step ∈ later, step.entry.label ≠ (none, "health")) ∧
      health.exchange.map Exchange.request = some request ∧
      (∃ count, (Health.sent service api pause policy s').map Exchange.request =
        List.replicate (count + 1) request) ∧
      (health.entry.outcome = .pass ↔
        ∃ report, (Health.verify service pause api policy s').1 = .ok report) := by
  intro request
  obtain ⟨later, hbehind, hlater⟩ := exists_health_behind service api hpath identities s
  obtain ⟨hsent, hready⟩ := hanswers.verify_eq_ok_iff api pause policy s'
  refine ⟨_, later, hbehind, rfl, hlater, rfl, hsent, ?_⟩
  rw [hready, ← hanswers _ s]
  exact healthCase_outcome_eq_pass_iff api _ _

/-- A service that is ready passes its health case in a run for an identity. -/
theorem health_passes_of_ready_service :
    let ann : Identity := ⟨"ann", .email, "ann@svc", "first"⟩
    let api : Endpoints := ⟨"http://svc", "http://svc/gotrue", "/health", "OK", 0, 1⟩
    let answer : Request → Reply := fun request =>
      if request.url = api.healthUrl then .ok ⟨200, "OK\n"⟩ else .ok ⟨404, ""⟩
    let service : Service (StateM Unit) := ⟨fun request => pure (answer request)⟩
    Answers service answer ∧ Template.placeholders api.healthPath = [] ∧
      ∃ health later, Behind service api (Suite.standard api) [ann] () (health :: later) ∧
        health.entry.label = (none, "health") ∧ health.entry.outcome = .pass := by
  intro ann api answer service
  have hanswers : Answers service answer := fun _ _ => rfl
  have hpath : Template.placeholders api.healthPath = [] := by decide
  have hready : (Health.verify service (fun _ => pure ()) api ⟨3, 5⟩ ()).1 =
      .ok ⟨"http://svc/health", 1, 0⟩ := by decide +kernel
  obtain ⟨health, later, hbehind, hlabel, -, -, -, hpass⟩ :=
    health_passes_iff_ready api hanswers hpath [ann] (fun _ => pure ()) ⟨3, 5⟩ () ()
  exact ⟨hanswers, hpath, health, later, hbehind, hlabel, hpass.mpr ⟨_, hready⟩⟩

end Shipyard.Conformance
