import Shipyard.Proofs.Alike.Basic
import Shipyard.Release.Pipeline

/-!
# Releases that are alike

Two releases that are given the same context, cases and identities, and machines, sessions and
services that are alike, are made alike. This is shown for the parts of a release in the order in
which they are put together: the stages, the groups, the whole.
-/

namespace Shipyard

variable {m n : Type → Type} [Monad m] [Monad n] {R : ActionRelation m n}

/-! ## Deployments -/

namespace Deploy

variable {plan : Plan} {execute : String → ExceptT Failure m Completion}
  {execute' : String → ExceptT Failure n Completion}

/-- Steps are cleaned up alike if their command lines are executed alike. -/
lemma cleanUp_alike (h : ∀ command, (R.except Failure).Alike (execute command) (execute' command))
    (steps : List Step) : R.Alike (cleanUp plan execute steps) (cleanUp plan execute' steps) := by
  induction steps with
  | nil => exact R.pure _
  | cons step later ih =>
    unfold cleanUp
    split
    · exact R.bind (h _) fun _ => ih
    · exact ih

variable [LawfulMonad m] [LawfulMonad n]

/-- Steps are made alike if their command lines are executed alike. -/
lemma makeSteps_alike
    (h : ∀ command, (R.except Failure).Alike (execute command) (execute' command))
    (steps : List Step) :
    (R.except Failure).Alike (makeSteps plan execute steps) (makeSteps plan execute' steps) := by
  induction steps with
  | nil => exact (R.except Failure).pure _
  | cons step later ih =>
    refine (R.except Failure).bind (h _) fun completion => ?_
    split
    · exact (R.except Failure).bind (R.lift (cleanUp_alike h later)) fun _ => R.throw _
    · exact (R.except Failure).bind ih fun _ => (R.except Failure).pure _

/-- A plan is made alike if command lines are executed alike. -/
lemma Plan.run_alike
    (h : ∀ command, (R.except Failure).Alike (execute command) (execute' command)) :
    (R.except Failure).Alike (plan.run execute) (plan.run execute') :=
  (R.except Failure).bind (makeSteps_alike h _) fun _ => (R.except Failure).pure _

end Deploy

/-! ## Suites -/

namespace Conformance

variable {service : Http.Service m} {service' : Http.Service n}

/-- A case is run alike. -/
lemma runCase_alike (h : service.Alike R service') (api : Endpoints)
    (identity token : Option String) (values : Values) (case : Case) :
    R.Alike (runCase service api identity token values case)
      (runCase service' api identity token values case) := by
  unfold runCase
  split
  · split
    · exact R.bind (h.exchange _) fun _ => R.pure _
    · exact R.pure _
  · exact R.pure _

/-- A chain of cases is run alike. -/
lemma runChain_alike (h : service.Alike R service') (api : Endpoints)
    (identity token : Option String) (values : Values) (cases : List Case) :
    R.Alike (runChain service api identity token values cases)
      (runChain service' api identity token values cases) := by
  induction cases generalizing values with
  | nil => exact R.pure _
  | cons case cases ih =>
    exact R.bind (runCase_alike h api identity token values case) fun ran =>
      R.bind (ih ran.2) fun _ => R.pure _

/-- New tokens are asked for alike. -/
lemma runRefresh_alike (h : service.Alike R service') (api : Endpoints) (identity : String)
    (tokens : Tokens) :
    R.Alike (runRefresh service api identity tokens) (runRefresh service' api identity tokens) := by
  unfold runRefresh
  split
  · exact R.bind (h.exchange _) fun _ => R.pure _
  · exact R.pure _

/-- Identities are served alike. -/
lemma runIdentity_alike (h : service.Alike R service') (api : Endpoints) (cases : List Case)
    (identity : Identity) :
    R.Alike (runIdentity service api cases identity) (runIdentity service' api cases identity) := by
  refine R.bind (h.exchange _) fun login => ?_
  split
  · exact R.bind (runChain_alike h api _ _ _ _) fun _ =>
      R.bind (runRefresh_alike h api _ _) fun _ => R.pure _
  · exact R.pure _

/-- Identities are served alike one after another. -/
lemma runIdentities_alike (h : service.Alike R service') (api : Endpoints) (cases : List Case)
    (identities : List Identity) :
    R.Alike (runIdentities service api cases identities)
      (runIdentities service' api cases identities) := by
  induction identities with
  | nil => exact R.pure _
  | cons identity identities ih =>
    exact R.bind (runIdentity_alike h api cases identity) fun _ => R.bind ih fun _ => R.pure _

/-- A suite is run alike. -/
lemma run_alike (h : service.Alike R service') (api : Endpoints) (cases : List Case)
    (identities : List Identity) :
    R.Alike (run service api cases identities) (run service' api cases identities) :=
  R.bind
    (R.bind (runChain_alike h api _ _ _ _) fun _ =>
      R.bind (runIdentities_alike h api cases identities) fun _ => R.pure _)
    fun _ => R.pure _

end Conformance

/-! ## Stages -/

section Stages

variable {host : Host m} {host' : Host n} {session : Remote.Session m}
  {session' : Remote.Session n} {service : Http.Service m} {service' : Http.Service n}

/-- A secret is fetched alike. -/
lemma Secret.resolve_alike (h : session.Alike R session') (path key : String) :
    (R.except Failure).Alike (resolve session path key) (resolve session' path key) := by
  refine (R.except Failure).bind (h.run _) fun content => ?_
  split
  · exact (R.except Failure).pure _
  · exact R.throw _

/-- An archive is copied alike. -/
lemma Archive.transfer_alike (h : host.Alike R host') (hsession : session.Alike R session')
    (target : Target) (archive : Local) :
    (R.except Failure).Alike (transfer host session target archive)
      (transfer host' session' target archive) :=
  R.except_alike_iff.mpr <| R.bind (hsession.upload _ _) fun _ =>
    R.bind (h.discard _) fun _ => R.pure _

/-- The health URL is asked alike. -/
lemma Health.check_alike (h : service.Alike R service') (api : Endpoints) (attempt : Nat) :
    R.Alike (check service api attempt) (check service' api attempt) := by
  refine R.bind (h.send _) fun reply => ?_
  split
  · exact R.pure _
  · exact R.pure _

variable [LawfulMonad m] [LawfulMonad n]

/-- A registration is read alike. -/
lemma Builder.Registration.read_alike (h : host.Alike R host') (setting : Option String) :
    (R.except Failure).Alike (read host setting) (read host' setting) := by
  unfold read
  split
  · exact (R.except Failure).pure _
  · refine (R.except Failure).bind (R.lift (h.expandHome _)) fun path => ?_
    refine (R.except Failure).bind (R.lift (h.pathExists _)) fun isThere => ?_
    split
    · refine (R.except Failure).bind (R.lift (h.readText _)) fun text => ?_
      split
      · exact (R.except Failure).pure _
      · exact R.throw _
    · exact (R.except Failure).pure _

/-- The builder is selected alike on machines of one platform. -/
lemma Builder.decideOn_alike (h : host.Alike R host') (platform : String) (context : Context) :
    (R.except Failure).Alike (decideOn platform host context) (decideOn platform host' context) := by
  refine (R.except Failure).bind (Registration.read_alike h _) fun registration => ?_
  cases registration with
  | some r =>
    have halive : R.Alike (isAlive host context.dockerBin r.name)
        (isAlive host' context.dockerBin r.name) :=
      R.bind (h.runCaptured _) fun _ => R.pure _
    exact (R.except Failure).bind (R.lift halive) fun _ => (R.except Failure).pure _
  | none =>
    exact (R.except Failure).bind ((R.except Failure).pure _) fun _ => (R.except Failure).pure _

/-- The builder is selected alike. -/
lemma Builder.decide_alike (h : host.Alike R host') (context : Context) :
    (R.except Failure).Alike (decide host context) (decide host' context) :=
  decideOn_alike h hostPlatform context

/-- An image is built alike. -/
lemma Builder.ImageBuild.run_alike (h : host.Alike R host') (build : ImageBuild) :
    (R.except Failure).Alike (build.run host) (build.run host') := by
  refine (R.except Failure).bind (R.lift h.nanoseconds) fun start => ?_
  refine (R.except Failure).bind (R.lift (h.runAttached _)) fun completion => ?_
  exact (R.except Failure).bind (R.lift h.nanoseconds) fun finish => R.ofExcept _

/-- An image is saved alike. -/
lemma Archive.save_alike (h : host.Alike R host') (dockerBin image path : String) :
    (R.except Failure).Alike (save host dockerBin image path)
      (save host' dockerBin image path) := by
  refine (R.except Failure).bind (R.lift (h.runCaptured _)) fun completion => ?_
  split
  · refine (R.except Failure).bind (R.lift (h.fileSize _)) fun size => ?_
    split
    · exact (R.except Failure).pure _
    · exact (R.except Failure).bind (R.lift (h.discard _)) fun _ => R.throw _
  · exact (R.except Failure).bind (R.lift (h.discard _)) fun _ => R.throw _

/-- The image of a context is saved alike. -/
lemma Archive.saveImage_alike (h : host.Alike R host') (context : Context) :
    (R.except Failure).Alike (saveImage host context) (saveImage host' context) :=
  (R.except Failure).bind (R.lift h.freshArchive) fun _ => save_alike h _ _ _

/-- A service is waited for alike. -/
lemma Health.verify_alike {pause : Nat → m Unit} {pause' : Nat → n Unit}
    (h : service.Alike R service') (hpause : ∀ seconds, R.Alike (pause seconds) (pause' seconds))
    (api : Endpoints) (policy : RetryPolicy) :
    (R.except Failure).Alike (verify service pause api policy)
      (verify service' pause' api policy) := by
  have hready : (R.except Failure).Alike
      (ExceptT.mk (retry policy (pause policy.delaySecs) isUnready (check service api)))
      (ExceptT.mk (retry policy (pause' policy.delaySecs) isUnready (check service' api))) :=
    R.except_alike_iff.mpr (R.retry policy (hpause _) (check_alike h api))
  unfold verify
  split
  · exact (R.except Failure).bind (R.lift (hpause _)) fun _ =>
      (R.except Failure).bind hready fun _ => (R.except Failure).pure _
  · exact (R.except Failure).bind hready fun _ => (R.except Failure).pure _

end Stages

/-! ## The pipeline -/

/-- Parts of a release are alike if they are so whatever records are there. -/
def ActionRelation.run (R : ActionRelation m n) :
    ActionRelation (Release.Run m) (Release.Run n) :=
  (R.state (List Release.StageRecord)).except Failure

namespace Release

/-- Two releases have the same things to do, and what they have to do it with is alike. -/
structure Setting.Alike (R : ActionRelation m n) (setting : Setting m) (setting' : Setting n) :
    Prop where
  host : setting.host.Alike R setting'.host
  session : setting.session.Alike R setting'.session
  service : setting.service.Alike R setting'.service
  context : setting.context = setting'.context
  cases : setting.cases = setting'.cases
  identities : setting.identities = setting'.identities

variable {α : Type} {setting : Setting m} {setting' : Setting n}

/-- A stage is made alike if what is done in it is alike. -/
lemma inStage_alike {host : Host m} {host' : Host n} (h : host.Alike R host') (stage : Stage)
    {action : ExceptT Failure m α} {action' : ExceptT Failure n α}
    (haction : (R.except Failure).Alike action action') :
    R.run.Alike (inStage host stage action) (inStage host' stage action') := by
  intro records
  exact R.bind h.nanoseconds fun start => R.bind haction fun result =>
    R.bind h.nanoseconds fun finish => R.pure _

/-- A group of stages is left out alike. -/
lemma unlessSkipped_alike (isSkipped : Bool) (stages : List Stage) {action : Run m α}
    {action' : Run n α} (h : R.run.Alike action action') :
    R.run.Alike (unlessSkipped isSkipped stages action)
      (unlessSkipped isSkipped stages action') := by
  unfold unlessSkipped
  split
  · exact R.run.bind (fun records => R.pure _) fun _ => R.run.pure _
  · exact R.run.bind h fun _ => R.run.pure _

variable [LawfulMonad m] [LawfulMonad n]

/-- The image is made alike. -/
lemma makeImage_alike (h : setting.Alike R setting') :
    R.run.Alike (makeImage setting) (makeImage setting') := by
  unfold makeImage
  rw [h.context]
  refine R.run.bind (inStage_alike h.host _ (Secret.resolve_alike h.session _ _)) fun secret => ?_
  refine R.run.bind (inStage_alike h.host _ (Builder.decide_alike h.host _)) fun decision => ?_
  refine R.run.bind (inStage_alike h.host _ (Builder.ImageBuild.run_alike h.host _)) fun build => ?_
  exact R.run.pure _

/-- The image is put into service alike. -/
lemma putIntoService_alike (h : setting.Alike R setting') :
    R.run.Alike (putIntoService setting) (putIntoService setting') := by
  unfold putIntoService
  rw [h.context]
  refine R.run.bind (inStage_alike h.host _ (Archive.saveImage_alike h.host _)) fun archive => ?_
  refine R.run.bind (inStage_alike h.host _ (Archive.transfer_alike h.host h.session _ _))
    fun delivered => ?_
  refine R.run.bind (inStage_alike h.host _ (Deploy.Plan.run_alike h.session.execute))
    fun report => ?_
  exact R.run.pure _

/-- The service is checked alike. -/
lemma checkService_alike (h : setting.Alike R setting') :
    R.run.Alike (checkService setting) (checkService setting') := by
  unfold checkService
  rw [h.context, h.cases, h.identities]
  refine R.run.bind (inStage_alike h.host _ (Health.verify_alike h.service h.host.pause _ _))
    fun health => ?_
  refine R.run.bind
    (inStage_alike h.host _ (R.lift (Conformance.run_alike h.service _ _ _))) fun report => ?_
  exact R.run.pure _

/-- The stages of a release are made alike. -/
lemma stages_alike (h : setting.Alike R setting') (options : Options) :
    R.run.Alike (stages setting options) (stages setting' options) := by
  have htime : R.run.Alike (liftM setting.host.timestamp) (liftM setting'.host.timestamp) :=
    (R.state _).lift fun records => R.bind h.host.timestamp fun _ => R.pure _
  have hrecords : R.run.Alike get get :=
    (R.state _).lift fun records => R.pure (records, records)
  unfold stages
  rw [h.context, h.session.channel.address]
  refine R.run.bind htime fun startedAt => ?_
  refine R.run.bind (unlessSkipped_alike _ _ (makeImage_alike h)) fun image => ?_
  refine R.run.bind (unlessSkipped_alike _ _ (putIntoService_alike h)) fun service => ?_
  refine R.run.bind (unlessSkipped_alike _ _ (checkService_alike h)) fun test => ?_
  refine R.run.bind htime fun finishedAt => ?_
  exact R.run.bind hrecords fun records => R.run.pure _

/-- A release is made alike. -/
theorem make_alike (h : setting.Alike R setting') (options : Options) :
    R.Alike (make setting options) (make setting' options) :=
  R.bind (stages_alike h options []) fun _ => R.pure _

end Release

end Shipyard
