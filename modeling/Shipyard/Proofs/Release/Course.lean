import Shipyard.Proofs.Trace.Basic
import Shipyard.Release.Pipeline

/-!
# The course of a release

The course of a release through a list of stages is told stage by stage: a stage is left out, or it
is made and passes, or it is made and fails, and then nothing follows. What a stage does may depend
on what the earlier ones have come to, which is the progress of the release.

A part of the pipeline implements a list of stages if running it is a course through them, with the
records of the course behind the records that are there already. Parts that are run one after the
other implement the stages of both, so the pipeline implements all stages in their order.
-/

namespace Shipyard.Release

/-! ## Stages and what they do -/

/-- Whether a stage belongs to a group that is left out. -/
def Options.leavesOut (options : Options) : Stage → Bool
  | .resolveSecret | .selectBuilder | .build => options.skipBuild
  | .exportImage | .transfer | .deploy => options.skipDeploy
  | .health | .conformance => options.skipTests

/-- What the stages that were made have come to. -/
structure Progress where
  secret : Option String := none
  decision : Option Builder.Decision := none
  build : Option Builder.BuildReport := none
  archive : Option Archive.Local := none
  delivered : Option Archive.Delivered := none
  deployment : Option Deploy.Report := none
  health : Option Health.Report := none
  conformance : Option Conformance.Report := none

/-- What a stage does, given what the earlier ones have come to. -/
inductive Does {m : Type → Type} [Monad m] (setting : Setting m) (p : Progress) :
    Stage → ExceptT Failure m Progress → Prop where
  | resolveSecret : Does setting p .resolveSecret
      ((fun secret => { p with secret := some secret }) <$>
        Secret.resolve setting.session setting.context.secretPath setting.context.secret.key)
  | selectBuilder : Does setting p .selectBuilder
      ((fun decision => { p with decision := some decision }) <$>
        Builder.decide setting.host setting.context)
  | build {decision : Builder.Decision} {secret : String} (decided : p.decision = some decision)
      (resolved : p.secret = some secret) : Does setting p .build
      ((fun build => { p with build := some build }) <$>
        (Builder.ImageBuild.ofContext setting.context decision secret).run setting.host)
  | exportImage : Does setting p .exportImage
      ((fun archive => { p with archive := some archive }) <$>
        Archive.saveImage setting.host setting.context)
  | transfer {archive : Archive.Local} (saved : p.archive = some archive) :
      Does setting p .transfer
      ((fun delivered => { p with delivered := some delivered }) <$>
        Archive.transfer setting.host setting.session setting.context.target archive)
  | deploy : Does setting p .deploy
      ((fun deployment => { p with deployment := some deployment }) <$>
        (Deploy.Plan.ofContext setting.context).run setting.session.execute)
  | health : Does setting p .health
      ((fun health => { p with health := some health }) <$>
        Health.verify setting.service setting.host.pause setting.context.api
          (healthPolicy setting.context))
  | conformance : Does setting p .conformance
      ((fun conformance => { p with conformance := some conformance }) <$>
        (ExceptT.lift (Conformance.run setting.service setting.context.api setting.cases
          setting.identities) : ExceptT Failure m Conformance.Report))

variable {σ α β : Type}

/-- An action comes to a result, in the time between two readings of the clock. -/
def Timed (host : Host (StateM σ)) (action : ExceptT Failure (StateM σ) α) (s : σ)
    (result : Except Failure α) (duration : Decimal.Binary64) (s' : σ) : Prop :=
  ∃ start finish s₁ s₂, host.nanoseconds s = (start, s₁) ∧ action s₁ = (result, s₂) ∧
    host.nanoseconds s₂ = (finish, s') ∧ duration = Builder.elapsed start finish

/-- The course of a release through stages: from a progress and a state, to the records of the
stages, the progress or the stage that failed with its failure, and a state. -/
inductive Course (setting : Setting (StateM σ)) (options : Options) :
    List Stage → Progress → σ → List StageRecord → Except (Stage × Failure) Progress → σ →
      Prop where
  | finished (p : Progress) (s : σ) : Course setting options [] p s [] (.ok p) s
  | leftOut {stage stages p s records result s'} (out : options.leavesOut stage = true)
      (rest : Course setting options stages p s records result s') :
      Course setting options (stage :: stages) p s (.skipped stage :: records) result s'
  | passed {stage stages p p' s s₁ s' records result} {action : ExceptT Failure (StateM σ) Progress}
      {duration : Decimal.Binary64} (kept : options.leavesOut stage = false)
      (does : Does setting p stage action)
      (timed : Timed setting.host action s (.ok p') duration s₁)
      (rest : Course setting options stages p' s₁ records result s') :
      Course setting options (stage :: stages) p s (⟨stage, .success, duration⟩ :: records) result
        s'
  | stopped {stage stages p s s'} {failure : Failure} {action : ExceptT Failure (StateM σ) Progress}
      {duration : Decimal.Binary64} (kept : options.leavesOut stage = false)
      (does : Does setting p stage action)
      (timed : Timed setting.host action s (.error failure) duration s') :
      Course setting options (stage :: stages) p s [⟨stage, .failed, duration⟩]
        (.error (stage, failure)) s'

namespace Course

variable {setting : Setting (StateM σ)} {options : Options} {stages later : List Stage}
  {p p' : Progress} {s s' s'' : σ} {records records' : List StageRecord}
  {result : Except (Stage × Failure) Progress}

/-- A course that has finished goes on through the stages behind it. -/
lemma append (h : Course setting options stages p s records (.ok p') s')
    (h' : Course setting options later p' s' records' result s'') :
    Course setting options (stages ++ later) p s (records ++ records') result s'' := by
  generalize hresult : Except.ok p' = first at h
  induction h with
  | finished p s =>
    cases hresult
    exact h'
  | leftOut out _ ih => exact .leftOut out (ih h' hresult)
  | passed kept does timed _ ih => exact .passed kept does timed (ih h' hresult)
  | stopped => cases hresult

/-- A course that was stopped takes no notice of the stages behind it. -/
lemma append_of_error {e : Stage × Failure}
    (h : Course setting options stages p s records (.error e) s') (later : List Stage) :
    Course setting options (stages ++ later) p s records (.error e) s' := by
  generalize hresult : Except.error e = first at h ⊢
  induction h with
  | finished => cases hresult
  | leftOut out _ ih => exact .leftOut out (ih hresult)
  | passed kept does timed _ ih => exact .passed kept does timed (ih hresult)
  | stopped kept does timed => exact .stopped kept does timed

/-- A course through stages and the ones behind them is stopped in the first, or passes them and
goes on through the others. -/
lemma of_append (h : Course setting options (stages ++ later) p s records result s') :
    (∃ records₁ e, Course setting options stages p s records₁ (.error e) s') ∨
      ∃ p₁ s₁ records₁ records₂, Course setting options stages p s records₁ (.ok p₁) s₁ ∧
        Course setting options later p₁ s₁ records₂ result s' := by
  induction stages generalizing p s records with
  | nil => exact .inr ⟨p, s, [], records, .finished p s, h⟩
  | cons stage stages ih =>
    cases h with
    | leftOut out rest =>
      rcases ih rest with ⟨records₁, e, hstopped⟩ | ⟨p₁, s₁, records₁, records₂, hpassed, hlater⟩
      · exact .inl ⟨_, e, .leftOut out hstopped⟩
      · exact .inr ⟨p₁, s₁, _, records₂, .leftOut out hpassed, hlater⟩
    | passed kept does timed rest =>
      rcases ih rest with ⟨records₁, e, hstopped⟩ | ⟨p₁, s₁, records₁, records₂, hpassed, hlater⟩
      · exact .inl ⟨_, e, .passed kept does timed hstopped⟩
      · exact .inr ⟨p₁, s₁, _, records₂, .passed kept does timed hpassed, hlater⟩
    | stopped kept does timed => exact .inl ⟨_, _, .stopped kept does timed⟩

/-- Stages that are all left out leave everything as it is. -/
lemma allLeftOut (p : Progress) (s : σ) (h : ∀ stage ∈ stages, options.leavesOut stage = true) :
    Course setting options stages p s (stages.map .skipped) (.ok p) s := by
  induction stages with
  | nil => exact .finished p s
  | cons stage stages ih =>
    exact .leftOut (h stage List.mem_cons_self)
      (ih fun stage' hstage => h stage' (List.mem_cons_of_mem _ hstage))

end Course

/-! ## Parts of the pipeline -/

/-- A part of the pipeline is run along a course: with the course it comes to a value that fits the
progress, or to the failure of the stage that stopped it, tagged with the name of the stage. The
records of the course go behind those that are there. -/
inductive RunsAlong (setting : Setting (StateM σ)) (options : Options) (stages : List Stage)
    (p : Progress) (fits : α → Progress → Prop) (part : Run (StateM σ) α)
    (records : List StageRecord) (s : σ) : Prop where
  | passed {p' : Progress} {added : List StageRecord} {s' : σ} {a : α}
      (course : Course setting options stages p s added (.ok p') s') (fit : fits a p')
      (ran : part records s = ((.ok a, records ++ added), s'))
  | stopped {stage : Stage} {failure : Failure} {added : List StageRecord} {s' : σ}
      (course : Course setting options stages p s added (.error (stage, failure)) s')
      (ran : part records s =
        ((.error (failure.tagged "stage" stage.name), records ++ added), s'))

/-- A part of the pipeline implements stages: from a progress it is run along a course through them,
whatever records are there and wherever it starts. -/
def Implements (setting : Setting (StateM σ)) (options : Options) (stages : List Stage)
    (p : Progress) (fits : α → Progress → Prop) (part : Run (StateM σ) α) : Prop :=
  ∀ records s, RunsAlong setting options stages p fits part records s

/-- What follows a part that has passed is run with the records that are there then. -/
lemma bindRun_of_ok {x : Run (StateM σ) α} {f : α → Run (StateM σ) β}
    {records records' : List StageRecord} {s s' : σ} {a : α}
    (h : x records s = ((.ok a, records'), s')) : (x >>= f) records s = f a records' s' := by
  change ExceptT.bindCont f (x records s).1.1 (x records s).1.2 (x records s).2 = _
  rw [h]
  rfl

/-- What follows a part that was stopped is not run. -/
lemma bindRun_of_error {x : Run (StateM σ) α} {f : α → Run (StateM σ) β}
    {records records' : List StageRecord} {s s' : σ} {failure : Failure}
    (h : x records s = ((.error failure, records'), s')) :
    (x >>= f) records s = ((.error failure, records'), s') := by
  change ExceptT.bindCont f (x records s).1.1 (x records s).1.2 (x records s).2 = _
  rw [h]
  rfl

/-- Parts that are run one after the other have passed only if both have. -/
lemma exists_of_bindRun_eq_ok {x : Run (StateM σ) α} {f : α → Run (StateM σ) β} {b : β}
    {records records' : List StageRecord} {s s' : σ}
    (h : (x >>= f) records s = ((.ok b, records'), s')) : ∃ a records₁ s₁,
      x records s = ((.ok a, records₁), s₁) ∧ f a records₁ s₁ = ((.ok b, records'), s') := by
  obtain ⟨⟨⟨result, records₁⟩, s₁⟩, hx⟩ : ∃ ran, x records s = ran := ⟨_, rfl⟩
  cases result with
  | ok a =>
    rw [bindRun_of_ok hx] at h
    exact ⟨a, records₁, s₁, hx, h⟩
  | error failure =>
    rw [bindRun_of_error hx] at h
    cases h

/-- Making a stage reads the clock, does what there is to do, and reads the clock again. -/
lemma inStage_run {host : Host (StateM σ)} (stage : Stage) {action : ExceptT Failure (StateM σ) α}
    {start finish : Nat} {s s₁ s₂ s₃ : σ} {result : Except Failure α}
    (hstart : host.nanoseconds s = (start, s₁)) (haction : action s₁ = (result, s₂))
    (hfinish : host.nanoseconds s₂ = (finish, s₃)) (records : List StageRecord) :
    inStage host stage action records s =
      ((result.mapError (·.tagged "stage" stage.name),
        records ++ [⟨stage, if result.toBool then .success else .failed,
          Builder.elapsed start finish⟩]), s₃) := by
  have hrun : inStage host stage action records s =
      (((action (host.nanoseconds s).2).1.mapError (·.tagged "stage" stage.name),
        records ++ [⟨stage, if (action (host.nanoseconds s).2).1.toBool then .success else .failed,
          Builder.elapsed (host.nanoseconds s).1
            (host.nanoseconds (action (host.nanoseconds s).2).2).1⟩]),
        (host.nanoseconds (action (host.nanoseconds s).2).2).2) := rfl
  rw [hrun, hstart, haction, hfinish]

namespace Implements

variable {setting : Setting (StateM σ)} {options : Options} {stages later : List Stage}
  {p : Progress} {fits : α → Progress → Prop} {fits' : β → Progress → Prop}

/-- A value that is at hand implements no stages. -/
lemma pure {a : α} (fit : fits a p) :
    Implements setting options [] p fits (pure a : Run (StateM σ) α) := by
  intro records s
  refine .passed (.finished p s) fit ?_
  rw [List.append_nil]
  rfl

/-- Parts that are run one after the other implement the stages of both. -/
lemma bind {x : Run (StateM σ) α} {f : α → Run (StateM σ) β}
    (hx : Implements setting options stages p fits x)
    (hf : ∀ a p', fits a p' → Implements setting options later p' fits' (f a)) :
    Implements setting options (stages ++ later) p fits' (x >>= f) := by
  intro records s
  cases hx records s with
  | @passed p' added s' a course fit ran =>
    cases hf a p' fit (records ++ added) s' with
    | passed course' fit' ran' =>
      refine .passed (course.append course') fit' ?_
      rw [bindRun_of_ok ran, ran', List.append_assoc]
    | stopped course' ran' =>
      refine .stopped (course.append course') ?_
      rw [bindRun_of_ok ran, ran', List.append_assoc]
  | stopped course ran => exact .stopped (course.append_of_error later) (bindRun_of_error ran)

/-- A stage that is not left out implements itself. -/
lemma inStage {stage : Stage} {action : ExceptT Failure (StateM σ) α} {update : α → Progress}
    (kept : options.leavesOut stage = false) (does : Does setting p stage (update <$> action)) :
    Implements setting options [stage] p (fun a p' => p' = update a)
      (inStage setting.host stage action) := by
  intro records s
  obtain ⟨⟨start, s₁⟩, hstart⟩ : ∃ read, setting.host.nanoseconds s = read := ⟨_, rfl⟩
  obtain ⟨⟨result, s₂⟩, haction⟩ : ∃ done, action s₁ = done := ⟨_, rfl⟩
  obtain ⟨⟨finish, s₃⟩, hfinish⟩ : ∃ read, setting.host.nanoseconds s₂ = read := ⟨_, rfl⟩
  have hran := inStage_run stage hstart haction hfinish records
  have hupdate : (update <$> action) s₁ = (result.map update, s₂) := by
    rw [evalExcept_map, haction]
  cases result with
  | ok a =>
    exact .passed (.passed kept does ⟨start, finish, s₁, s₂, hstart, hupdate, hfinish, rfl⟩
      (.finished _ _)) rfl hran
  | error failure =>
    exact .stopped (.stopped kept does ⟨start, finish, s₁, s₂, hstart, hupdate, hfinish, rfl⟩) hran

/-- A stage that is not left out is made first, and the stages behind it go by what it came to. -/
lemma inStage_bind {stage : Stage} {action : ExceptT Failure (StateM σ) α}
    {update : α → Progress} {f : α → Run (StateM σ) β} (kept : options.leavesOut stage = false)
    (does : Does setting p stage (update <$> action))
    (hf : ∀ a, Implements setting options later (update a) fits' (f a)) :
    Implements setting options (stage :: later) p fits'
      (Release.inStage setting.host stage action >>= f) := by
  refine (inStage kept does).bind fun a p' hp' => ?_
  rw [hp']
  exact hf a

/-- A group of stages is left out as a whole, or else implemented by what makes it. -/
lemma unlessSkipped {isSkipped : Bool} {action : Run (StateM σ) α}
    (out : ∀ stage ∈ stages, options.leavesOut stage = isSkipped)
    (h : isSkipped = false → Implements setting options stages p fits action) :
    Implements setting options stages p
      (fun a p' => (a = none ∧ p' = p) ∨ ∃ b, a = some b ∧ fits b p')
      (unlessSkipped isSkipped stages action) := by
  intro records s
  cases isSkipped with
  | true => exact .passed (.allLeftOut p s out) (.inl ⟨rfl, rfl⟩) rfl
  | false =>
    cases h rfl records s with
    | passed course fit ran =>
      exact .passed course (.inr ⟨_, rfl, fit⟩) (by
        change (action >>= fun b => Pure.pure (some b)) records s = _
        rw [bindRun_of_ok ran]
        rfl)
    | stopped course ran =>
      exact .stopped course (by
        change (action >>= fun b => Pure.pure (some b)) records s = _
        exact bindRun_of_error ran)

end Implements

/-! ## The pipeline -/

variable (setting : Setting (StateM σ)) (options : Options) (p : Progress)

/-- The first group of stages, when it is not left out. -/
lemma makeImage_implements (kept : options.skipBuild = false) :
    Implements setting options Stage.ofBuild p
      (fun image p' => ∃ secret, p' =
        { p with secret := some secret, decision := some image.1, build := some image.2 })
      (makeImage setting) := by
  refine Implements.inStage_bind kept .resolveSecret fun secret => ?_
  refine Implements.inStage_bind kept .selectBuilder fun decision => ?_
  refine Implements.inStage_bind kept (.build rfl rfl) fun build => ?_
  exact Implements.pure ⟨secret, rfl⟩

/-- The second group of stages, when it is not left out. -/
lemma putIntoService_implements (kept : options.skipDeploy = false) :
    Implements setting options Stage.ofDeploy p
      (fun service p' => ∃ archive, p' =
        { p with
          archive := some archive, delivered := some service.1, deployment := some service.2 })
      (putIntoService setting) := by
  refine Implements.inStage_bind kept .exportImage fun archive => ?_
  refine Implements.inStage_bind kept (.transfer rfl) fun delivered => ?_
  refine Implements.inStage_bind kept .deploy fun deployment => ?_
  exact Implements.pure ⟨archive, rfl⟩

/-- The third group of stages, when it is not left out. -/
lemma checkService_implements (kept : options.skipTests = false) :
    Implements setting options Stage.ofTests p
      (fun test p' => p' =
        { p with health := some test.health, conformance := some test.conformance })
      (checkService setting) := by
  refine Implements.inStage_bind kept .health fun health => ?_
  refine Implements.inStage_bind kept .conformance fun conformance => ?_
  exact Implements.pure rfl

/-- What the groups of stages have come to, of those that were not left out. -/
structure Groups where
  image : Option (Builder.Decision × Builder.BuildReport)
  service : Option (Archive.Delivered × Deploy.Report)
  test : Option TestReport

/-- The groups of stages, without the readings of the time of day around them. -/
def groups {m : Type → Type} [Monad m] (setting : Setting m) (options : Options) :
    Run m Groups := do
  let image ← unlessSkipped options.skipBuild Stage.ofBuild (makeImage setting)
  let service ← unlessSkipped options.skipDeploy Stage.ofDeploy (putIntoService setting)
  let test ← unlessSkipped options.skipTests Stage.ofTests (checkService setting)
  return ⟨image, service, test⟩

/-- Groups hold what is reported of a progress. -/
structure Groups.Fit (groups : Groups) (p : Progress) : Prop where
  decision : groups.image.map Prod.fst = p.decision
  build : groups.image.map Prod.snd = p.build
  delivered : groups.service.map Prod.fst = p.delivered
  deployment : groups.service.map Prod.snd = p.deployment
  health : groups.test.map TestReport.health = p.health
  conformance : groups.test.map TestReport.conformance = p.conformance

/-- The groups of stages implement all stages in their order. -/
lemma groups_implements :
    Implements setting options Stage.all {} Groups.Fit (groups setting options) := by
  unfold groups Stage.all
  rw [List.append_assoc]
  refine Implements.bind (Implements.unlessSkipped (by simp [Stage.ofBuild, Options.leavesOut])
    (makeImage_implements setting options {})) fun image p₁ himage => ?_
  refine Implements.bind (Implements.unlessSkipped (by simp [Stage.ofDeploy, Options.leavesOut])
    (putIntoService_implements setting options p₁)) fun service p₂ hservice => ?_
  rw [← List.append_nil Stage.ofTests]
  refine Implements.bind (Implements.unlessSkipped (by simp [Stage.ofTests, Options.leavesOut])
    (checkService_implements setting options p₂)) fun test p₃ htest => ?_
  refine Implements.pure ?_
  rcases himage with ⟨rfl, rfl⟩ | ⟨image, rfl, secret, rfl⟩ <;>
    rcases hservice with ⟨rfl, rfl⟩ | ⟨service, rfl, archive, rfl⟩ <;>
      rcases htest with ⟨rfl, rfl⟩ | ⟨test, rfl, rfl⟩ <;>
        exact ⟨rfl, rfl, rfl, rfl, rfl, rfl⟩

/-- The report of groups of stages that were made with some records between two times of day. -/
def Groups.report {m : Type → Type} (setting : Setting m) (made : Groups)
    (records : List StageRecord) (startedAt finishedAt : String) : Report where
  image := setting.context.image
  target := setting.session.channel.address
  startedAt := startedAt
  finishedAt := finishedAt
  stages := records
  builder := made.image.map Prod.fst
  build := made.image.map Prod.snd
  archive := made.service.map Prod.fst
  deploy := made.service.map Prod.snd
  test := made.test
  verdict := (made.test.map TestReport.verdict).getD Conformance.Tally.empty.verdict

/-- The pipeline is the groups of stages between two readings of the time of day. -/
lemma stages_eq : stages setting options = (do
    let startedAt ← (setting.host.timestamp : Run (StateM σ) String)
    let made ← groups setting options
    let finishedAt ← (setting.host.timestamp : Run (StateM σ) String)
    return made.report setting (← get) startedAt finishedAt) := by
  simp only [stages, groups, Groups.report, bind_assoc, pure_bind]

variable {setting options}

/-- Reading the time of day adds no records. -/
lemma timestamp_run {time : String} {s s' : σ} (h : setting.host.timestamp s = (time, s'))
    (records : List StageRecord) :
    (setting.host.timestamp : Run (StateM σ) String) records s = ((.ok time, records), s') := by
  change ((Except.ok (setting.host.timestamp s).1, records), (setting.host.timestamp s).2) = _
  rw [h]

/-- A release starts without records, and its failure gets its last tag on the way out. -/
lemma make_run (s : σ) :
    make setting options s = (((stages setting options [] s).1.1.mapError aborted,
      (stages setting options [] s).1.2), (stages setting options [] s).2) := rfl

/-- A release of which no stage has failed is reported with the records of its stages. -/
lemma make_of_ok {startedAt finishedAt : String} {made : Groups} {records : List StageRecord}
    {s s₀ s₁ s₂ : σ} (hstart : setting.host.timestamp s = (startedAt, s₀))
    (hgroups : groups setting options [] s₀ = ((.ok made, records), s₁))
    (hfinish : setting.host.timestamp s₁ = (finishedAt, s₂)) :
    make setting options s =
      ((.ok (made.report setting records startedAt finishedAt), records), s₂) := by
  have hstages : stages setting options [] s =
      ((.ok (made.report setting records startedAt finishedAt), records), s₂) := by
    rw [stages_eq, bindRun_of_ok (timestamp_run hstart []), bindRun_of_ok hgroups,
      bindRun_of_ok (timestamp_run hfinish records)]
    rfl
  rw [make_run, hstages]
  rfl

/-- A release of which a stage has failed comes to the failure of the stage, on its way out. -/
lemma make_of_error {startedAt : String} {failure : Failure} {records : List StageRecord}
    {s s₀ s₁ : σ} (hstart : setting.host.timestamp s = (startedAt, s₀))
    (hgroups : groups setting options [] s₀ = ((.error failure, records), s₁)) :
    make setting options s = ((.error (aborted failure), records), s₁) := by
  have hstages : stages setting options [] s = ((.error failure, records), s₁) := by
    rw [stages_eq, bindRun_of_ok (timestamp_run hstart []), bindRun_of_error hgroups]
  rw [make_run, hstages]
  rfl

end Shipyard.Release
