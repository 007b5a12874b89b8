import Shipyard.Proofs.Release.Course
import Shipyard.Proofs.Release.Issue

/-!
# The gates between stages

A release is made along a course through all stages, so no stage is reached unless those before it
have passed or were left out. Here the course is made to tell what the outside gets to see of it.
The trace of a release falls into segments, one for each stage that was made, in the order of the
stages, and a segment holds nothing but the business of its stage. The failure that stops a release
leaves it with its cause and its hints, and with two more entries in its details.

The segments also tell how often a program is run. The build stage runs the program that builds
once and no other stage runs it, and the same goes for the stage that saves.
-/

namespace Shipyard.Release

variable {σ : Type}

/-! ## Segments -/

/-- Whether an event is a run of the program that builds images. -/
def buildsImage (e : Event) : Bool :=
  match e.invocation? with
  | some invocation =>
    invocation.arguments.head? = some "build" ∨ invocation.arguments.take 2 = ["buildx", "build"]
  | none => false

/-- Whether an event is a run of the program that saves images. -/
def savesImage (e : Event) : Bool :=
  match e.invocation? with
  | some invocation => invocation.arguments.head? = some "save"
  | none => false

/-- Events are a segment of a stage: they are its business, and it runs the program that builds and
the program that saves only if it is there for that, and then once. -/
structure Stage.Segment {m : Type → Type} (setting : Setting m) (stage : Stage)
    (events : List Event) : Prop where
  issued : ∀ e ∈ events, stage.Issues setting e
  builds : events.countP buildsImage = if stage = .build then 1 else 0
  saves : events.countP savesImage = if stage = .exportImage then 1 else 0

/-- The program that builds is known by its arguments, whatever the backend. -/
lemma buildsImage_buildInvocation (build : Builder.ImageBuild)
    (result : Except StartFault Ending) :
    buildsImage (.attached (buildInvocation build) result) = true ∧
      savesImage (.attached (buildInvocation build) result) = false := by
  have harguments : build.arguments.head? = some "build" ∨
      build.arguments.take 2 = ["buildx", "build"] ∧ build.arguments.head? = some "buildx" := by
    unfold Builder.ImageBuild.arguments Builder.ImageBuild.backendArguments
    cases build.backend with
    | localNative => exact .inl rfl
    | localEmulated => exact .inr ⟨rfl, rfl⟩
    | remoteAgent => exact .inr ⟨rfl, rfl⟩
  unfold buildsImage savesImage
  simp only [Event.invocation?, buildInvocation]
  rcases harguments with h | ⟨h, h'⟩
  · simp [h]
  · simp [h, h']

variable {setting : Setting (StateM σ)}

/-- A stage that is not there to build runs no program that builds. -/
lemma buildsImage_eq_false {stage : Stage} {e : Event} (hstage : stage ≠ .build)
    (h : stage.Issues setting e) : buildsImage e = false := by
  cases stage with
  | build => exact absurd rfl hstage
  | resolveSecret =>
    obtain ⟨c, rfl⟩ := h
    rfl
  | selectBuilder =>
    obtain ⟨name, result, rfl⟩ := h
    rfl
  | exportImage =>
    obtain ⟨path, result, rfl⟩ := h
    rfl
  | transfer =>
    obtain ⟨path, c, rfl⟩ := h
    rfl
  | deploy =>
    obtain ⟨step, -, c, rfl⟩ := h
    rfl
  | health =>
    obtain ⟨reply, rfl⟩ := h
    rfl
  | conformance =>
    obtain ⟨exchange, rfl, -⟩ := h
    rfl

/-- A stage that is not there to save runs no program that saves. -/
lemma savesImage_eq_false {stage : Stage} {e : Event} (hstage : stage ≠ .exportImage)
    (h : stage.Issues setting e) : savesImage e = false := by
  cases stage with
  | exportImage => exact absurd rfl hstage
  | build =>
    obtain ⟨decision, secret, result, rfl⟩ := h
    exact (buildsImage_buildInvocation _ result).2
  | resolveSecret =>
    obtain ⟨c, rfl⟩ := h
    rfl
  | selectBuilder =>
    obtain ⟨name, result, rfl⟩ := h
    rfl
  | transfer =>
    obtain ⟨path, c, rfl⟩ := h
    rfl
  | deploy =>
    obtain ⟨step, -, c, rfl⟩ := h
    rfl
  | health =>
    obtain ⟨reply, rfl⟩ := h
    rfl
  | conformance =>
    obtain ⟨exchange, rfl, -⟩ := h
    rfl

/-- The business of a stage that neither builds nor saves is a segment of the stage. -/
lemma Stage.Segment.of_issued {stage : Stage} {events : List Event} (hbuild : stage ≠ .build)
    (hsave : stage ≠ .exportImage) (h : ∀ e ∈ events, stage.Issues setting e) :
    stage.Segment setting events where
  issued := h
  builds := by
    rw [if_neg hbuild, List.countP_eq_zero]
    exact fun e he => Bool.not_eq_true _ ▸ buildsImage_eq_false hbuild (h e he)
  saves := by
    rw [if_neg hsave, List.countP_eq_zero]
    exact fun e he => Bool.not_eq_true _ ▸ savesImage_eq_false hsave (h e he)

/-- A single event that builds is a segment of the stage that builds. -/
lemma Stage.Segment.of_build {e : Event} (h : Stage.build.Issues setting e) :
    Stage.build.Segment setting [e] where
  issued := fun e' he => List.mem_singleton.mp he ▸ h
  builds := by
    obtain ⟨decision, secret, result, rfl⟩ := h
    simp [(buildsImage_buildInvocation _ result).1]
  saves := by simp [savesImage_eq_false (by decide) h]

/-- A single event that saves is a segment of the stage that saves. -/
lemma Stage.Segment.of_save {e : Event} (h : Stage.exportImage.Issues setting e) :
    Stage.exportImage.Segment setting [e] where
  issued := fun e' he => List.mem_singleton.mp he ▸ h
  builds := by simp [buildsImage_eq_false (by decide) h]
  saves := by
    obtain ⟨path, result, rfl⟩ := h
    rfl

namespace Does

variable {p : Progress} {stage : Stage}
  {action : ExceptT Failure (StateM (Traced σ Event)) Progress}

/-- The build and the save each run a single program. -/
lemma once (h : Does setting.traced p stage action)
    (hstage : stage = .build ∨ stage = .exportImage) :
    Once (stage.Issues setting) Failure.Untagged action := by
  cases h with
  | @build decision secret decided resolved =>
    refine Once.map _ ((build_once setting.host _).mono ?_)
    rintro e ⟨result, rfl⟩
    exact ⟨decision, secret, result, rfl⟩
  | exportImage => exact (saveImage_once setting.host setting.context).map _
  | _ => simp at hstage

/-- A stage keeps to its business, and fails without tags. -/
lemma within (h : Does setting.traced p stage action) :
    Within (stage.Issues setting) Failure.Untagged action := by
  cases h with
  | resolveSecret => exact (resolve_within setting.session _ _).map _
  | selectBuilder => exact (decide_within setting.host setting.context).map _
  | build decided resolved => exact (once (.build decided resolved) (.inl rfl)).within
  | exportImage => exact (once .exportImage (.inr rfl)).within
  | transfer saved => exact (transfer_within setting.host setting.session _ _).map _
  | deploy => exact (runPlan_within setting.session).map _
  | health => exact (health_within setting.host setting.service _ _).map _
  | conformance => exact (conformance_within setting.service _ _ _).map _

/-- What a stage puts on the trace is a segment of it. -/
lemma segment (h : Does setting.traced p stage action) (t : Traced σ Event) :
    ∃ events, (action t).2.trace = t.trace ++ events ∧ stage.Segment setting events := by
  by_cases hbuild : stage = .build
  · obtain ⟨e, he, htrace⟩ := (h.once (.inl hbuild)).trace t
    subst hbuild
    exact ⟨[e], htrace, .of_build he⟩
  by_cases hsave : stage = .exportImage
  · obtain ⟨e, he, htrace⟩ := (h.once (.inr hsave)).trace t
    subst hsave
    exact ⟨[e], htrace, .of_save he⟩
  obtain ⟨events, htrace, hevents⟩ := h.within.emits t
  exact ⟨events, htrace, .of_issued hbuild hsave hevents⟩

end Does

/-- Making a stage puts on the trace what the stage puts there. -/
lemma Timed.trace {action : ExceptT Failure (StateM (Traced σ Event)) Progress}
    {t t' : Traced σ Event} {result : Except Failure Progress} {duration : Decimal.Binary64}
    (h : Timed setting.traced.host action t result duration t') :
    ∃ t₁, (action t₁).1 = result ∧ t₁.trace = t.trace ∧ t'.trace = (action t₁).2.trace := by
  obtain ⟨start, finish, t₁, t₂, hstart, haction, hfinish, -⟩ := h
  refine ⟨t₁, ?_, ?_, ?_⟩
  · rw [haction]
  · rw [← Traced.silently_trace setting.host.nanoseconds t]
    exact congrArg (fun read => read.2.trace) hstart.symm
  · rw [haction, ← Traced.silently_trace setting.host.nanoseconds t₂]
    exact congrArg (fun read => read.2.trace) hfinish.symm

/-! ## What a course tells -/

/-- The stages that were made, as their records tell. -/
def performed (records : List StageRecord) : List Stage :=
  (records.filter (·.status ≠ .skipped)).map StageRecord.stage

variable {options : Options} {stages : List Stage} {p : Progress} {t t' : Traced σ Event}
  {records : List StageRecord} {result : Except (Stage × Failure) Progress}

/-- The trace of a course falls into segments of the stages that were made, in their order. -/
lemma Course.segments (h : Course setting.traced options stages p t records result t') :
    ∃ segments : List (Stage × List Event),
      t'.trace = t.trace ++ segments.flatMap Prod.snd ∧
        segments.map Prod.fst = performed records ∧
        ∀ segment ∈ segments, segment.1.Segment setting segment.2 := by
  induction h with
  | finished p t => exact ⟨[], (List.append_nil _).symm, rfl, fun _ h => by cases h⟩
  | leftOut _ _ ih => exact ih
  | @passed stage stages p p' t t₁ t' records result action duration _ does timed _ ih =>
    obtain ⟨t₂, -, hstart, hfinish⟩ := timed.trace
    obtain ⟨events, htrace, hevents⟩ := does.segment t₂
    obtain ⟨segments, htrace', hstages, hsegments⟩ := ih
    refine ⟨(stage, events) :: segments, ?_, ?_, ?_⟩
    · rw [htrace', hfinish, htrace, hstart, List.flatMap_cons, List.append_assoc]
    · rw [List.map_cons, hstages]
      rfl
    · intro segment hsegment
      rcases List.mem_cons.mp hsegment with rfl | hsegment
      · exact hevents
      · exact hsegments segment hsegment
  | @stopped stage stages p t t' failure action duration _ does timed =>
    obtain ⟨t₂, -, hstart, hfinish⟩ := timed.trace
    obtain ⟨events, htrace, hevents⟩ := does.segment t₂
    refine ⟨[(stage, events)], ?_, rfl, ?_⟩
    · rw [hfinish, htrace, hstart]
      simp
    · intro segment hsegment
      rw [List.mem_singleton.mp hsegment]
      exact hevents

/-- The stages that were made are among the stages of the course, in the same order. -/
lemma Course.performed_sublist (h : Course setting.traced options stages p t records result t') :
    (performed records).Sublist stages := by
  induction h with
  | finished => exact .slnil
  | leftOut _ _ ih => exact ih.cons _
  | passed _ _ _ _ ih => exact ih.cons_cons _
  | stopped => exact (List.nil_sublist _).cons_cons _

/-- Segments run the program that builds as often as there are segments of the stage that builds,
and so with the program that saves. -/
lemma countP_segments {segments : List (Stage × List Event)}
    (h : ∀ segment ∈ segments, segment.1.Segment setting segment.2) :
    (segments.flatMap Prod.snd).countP buildsImage = (segments.map Prod.fst).count .build ∧
      (segments.flatMap Prod.snd).countP savesImage =
        (segments.map Prod.fst).count .exportImage := by
  induction segments with
  | nil => exact ⟨rfl, rfl⟩
  | cons segment segments ih =>
    obtain ⟨hbuilds, hsaves⟩ := ih fun s hs => h s (List.mem_cons_of_mem _ hs)
    have hsegment := h segment List.mem_cons_self
    rw [List.flatMap_cons, List.countP_append, List.countP_append, hsegment.builds, hsegment.saves,
      hbuilds, hsaves, List.map_cons, List.count_cons, List.count_cons]
    simp only [beq_iff_eq]
    exact ⟨Nat.add_comm _ _, Nat.add_comm _ _⟩

/-- What becomes of a stage in a release of which no stage fails. -/
def Options.status (options : Options) (stage : Stage) : StageStatus :=
  if options.leavesOut stage then .skipped else .success

/-- A course that has finished has a record for each of its stages. -/
lemma Course.statuses (h : Course setting.traced options stages p t records result t')
    {p' : Progress} (hresult : result = .ok p') :
    records.map (fun r => (r.stage, r.status)) =
      stages.map fun stage => (stage, options.status stage) := by
  induction h with
  | finished => rfl
  | leftOut out _ ih =>
    rw [List.map_cons, List.map_cons, ih hresult, Options.status, if_pos out]
    rfl
  | passed kept _ _ _ ih =>
    rw [List.map_cons, List.map_cons, ih hresult, Options.status, if_neg (by simp [kept])]
  | stopped => cases hresult

/-- A course that was stopped has a record for each stage up to the one that stopped it, and that
one has failed. Those before it have not. -/
lemma Course.statuses_of_error (h : Course setting.traced options stages p t records result t')
    {stage : Stage} {failure : Failure} (hresult : result = .error (stage, failure)) :
    failure.Untagged ∧ options.leavesOut stage = false ∧
      ∃ earlier later, stages = earlier ++ stage :: later ∧
        records.map (fun r => (r.stage, r.status)) =
          earlier.map (fun stage => (stage, options.status stage)) ++ [(stage, .failed)] := by
  induction h with
  | finished => cases hresult
  | @leftOut first _ _ _ _ _ _ out _ ih =>
    obtain ⟨huntagged, hkept, earlier, later, rfl, hrecords⟩ := ih hresult
    refine ⟨huntagged, hkept, first :: earlier, later, rfl, ?_⟩
    rw [List.map_cons, hrecords, List.map_cons, Options.status, if_pos out]
    rfl
  | @passed first _ _ _ _ _ _ _ _ _ _ kept _ _ _ ih =>
    obtain ⟨huntagged, hkept, earlier, later, rfl, hrecords⟩ := ih hresult
    refine ⟨huntagged, hkept, first :: earlier, later, rfl, ?_⟩
    rw [List.map_cons, hrecords, List.map_cons, Options.status, if_neg (by simp [kept])]
    rfl
  | @stopped _ stages _ _ _ _ _ _ kept does timed =>
    cases hresult
    obtain ⟨t₁, hfailure, -, -⟩ := timed.trace
    exact ⟨does.within.fails t₁ _ hfailure, kept, [], stages, rfl, rfl⟩

/-! ## The failure that leaves a release -/

/-- The names of the entries that a release adds to the details of its failure. -/
def tagNames : List String := ["stage", "summary"]

/-- No detail of a cause has the name of an entry that a release adds. -/
lemma details_fresh (cause : Cause) : ∀ entry ∈ cause.details, entry.1 ∉ tagNames := by
  cases cause <;> simp [Cause.details, Json.optional, tagNames, or_imp, forall_and]

/-! ## Releases -/

/-- What the outside has seen of a release, by the records of its stages: a segment for each stage
that was made, and no program that builds or saves run twice. -/
structure Gated {m : Type → Type} (setting : Setting m) (records : List StageRecord)
    (events : List Event) : Prop where
  segments : ∃ segments : List (Stage × List Event), events = segments.flatMap Prod.snd ∧
    segments.map Prod.fst = performed records ∧
      ∀ segment ∈ segments, segment.1.Segment setting segment.2
  builds : events.countP buildsImage ≤ 1
  saves : events.countP savesImage ≤ 1

/-- A report of a release of which no stage has failed: there is a record for each stage, and what
is reported is what the stages have come to. -/
structure Released (options : Options) (records : List StageRecord) (p : Progress)
    (report : Report) : Prop where
  stages : report.stages = records
  statuses : records.map (fun r => (r.stage, r.status)) =
    Stage.all.map fun stage => (stage, options.status stage)
  builder : report.builder = p.decision
  build : report.build = p.build
  archive : report.archive = p.delivered
  deploy : report.deploy = p.deployment
  health : report.test.map TestReport.health = p.health
  conformance : report.test.map TestReport.conformance = p.conformance

/-- A release that was stopped by the failure of a stage: no stage before it has failed, and the
failure leaves as it is, but for two more details that say where it came from and what was counted.
-/
structure Stopped (options : Options) (records : List StageRecord) (stage : Stage)
    (failure leaving : Failure) : Prop where
  kept : options.leavesOut stage = false
  first : ∃ earlier later, Stage.all = earlier ++ stage :: later ∧
    records.map (fun r => (r.stage, r.status)) =
      earlier.map (fun stage => (stage, options.status stage)) ++ [(stage, .failed)]
  code : leaving.code = failure.code
  message : leaving.message = failure.message
  hints : leaving.hints = failure.hints
  retryable : leaving.retryable? = failure.retryable?
  details : leaving.details = failure.details ++
    [("stage", .text stage.name), ("summary", .text Conformance.Tally.empty.summary)]
  fresh : ∀ entry ∈ failure.details, entry.1 ∉ tagNames

/-- The events of a course are gated by its records. -/
lemma Course.gated (h : Course setting.traced options Stage.all p t records result t') :
    ∃ events, t'.trace = t.trace ++ events ∧ Gated setting records events := by
  obtain ⟨segments, htrace, hstages, hsegments⟩ := h.segments
  obtain ⟨hbuilds, hsaves⟩ := countP_segments hsegments
  refine ⟨_, htrace, ⟨segments, rfl, hstages, hsegments⟩, ?_, ?_⟩
  · rw [hbuilds, hstages]
    exact h.performed_sublist.count_le _
  · rw [hsaves, hstages]
    exact h.performed_sublist.count_le _

/-- An untagged failure leaves a release with the tags of its stage and of the empty counts. -/
lemma Course.stopped_aborted {stage : Stage} {failure : Failure}
    (h : Course setting.traced options Stage.all p t records (.error (stage, failure)) t') :
    Stopped options records stage failure (aborted (failure.tagged "stage" stage.name)) := by
  obtain ⟨huntagged, hkept, earlier, later, hall, hrecords⟩ := h.statuses_of_error rfl
  have htags : failure.tags = [] := huntagged
  refine ⟨hkept, ⟨earlier, later, hall, hrecords⟩, rfl, rfl, rfl, rfl, ?_, ?_⟩
  · simp [aborted, Failure.tagged, Failure.details, htags]
  · intro entry hentry
    unfold Failure.details at hentry
    rw [htags, List.map_nil, List.append_nil] at hentry
    exact details_fresh failure.cause entry hentry

/-- A traced release is the release without a trace. It takes a course through all stages, with
everything that it asks of the outside in the segment of a stage that it made. It is reported if the
course finishes. Otherwise it comes to the failure of the stage that stopped it, and nothing of a
later stage is done. -/
theorem make_is_gated (setting : Setting (StateM σ)) (options : Options) (t : Traced σ Event) :
    Traced.Faithful (make setting.traced options) (make setting options) ∧
      ∃ records events t',
        (make setting.traced options t).1.2 = records ∧
          (make setting.traced options t).2.trace = t.trace ++ events ∧
          Gated setting records events ∧
          ((∃ p report,
              Course setting.traced options Stage.all {} (setting.traced.host.timestamp t).2
                records (.ok p) t' ∧
              (make setting.traced options t).1.1 = .ok report ∧
              (make setting.traced options t).2 = (setting.traced.host.timestamp t').2 ∧
              Released options records p report) ∨
            ∃ stage failure leaving,
              Course setting.traced options Stage.all {} (setting.traced.host.timestamp t).2
                records (.error (stage, failure)) t' ∧
              (make setting.traced options t).1.1 = .error leaving ∧
              (make setting.traced options t).2 = t' ∧
              Stopped options records stage failure leaving) := by
  refine ⟨make_faithful setting options, ?_⟩
  obtain ⟨⟨startedAt, t₀⟩, hstart⟩ : ∃ read, setting.traced.host.timestamp t = read := ⟨_, rfl⟩
  have htrace₀ : t₀.trace = t.trace := congrArg (fun read => read.2.trace) hstart.symm
  rw [hstart]
  cases groups_implements setting.traced options [] t₀ with
  | @passed p records t' made course fit ran =>
    obtain ⟨events, htrace, hgated⟩ := course.gated
    obtain ⟨⟨finishedAt, t₁⟩, hfinish⟩ : ∃ read, setting.traced.host.timestamp t' = read :=
      ⟨_, rfl⟩
    have htrace₁ : t₁.trace = t'.trace := congrArg (fun read => read.2.trace) hfinish.symm
    rw [make_of_ok hstart ran hfinish]
    refine ⟨records, events, t', rfl, ?_, hgated,
      .inl ⟨p, _, course, rfl, congrArg Prod.snd hfinish.symm, ?_⟩⟩
    · rw [htrace₁, htrace, htrace₀]
    · exact ⟨rfl, course.statuses rfl, fit.decision, fit.build, fit.delivered, fit.deployment,
        fit.health, fit.conformance⟩
  | @stopped stage failure records t' course ran =>
    obtain ⟨events, htrace, hgated⟩ := course.gated
    rw [make_of_error hstart ran]
    refine ⟨records, events, t', rfl, ?_, hgated,
      .inr ⟨stage, failure, _, course, rfl, rfl, course.stopped_aborted⟩⟩
    rw [htrace, htrace₀]

end Shipyard.Release
