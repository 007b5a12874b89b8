import Mathlib.Logic.Function.Basic
import Shipyard.Proofs.Archive.Watched
import Shipyard.Proofs.Release.Course

/-!
# Sparing the directory for temporary files

The directory is *spared* by what a release works with if nothing touches it, except that a save may
leave a file at its path and that a file of it may be removed.

Only two stages have to do with such a directory. The others work as well with a machine that saves
and removes nothing and with a session that copies nothing, and with these they leave every
directory alone.
-/

namespace Shipyard

open Archive

variable {σ α : Type} {directory : Directory σ}

namespace Archive

/-- An action leaves every entry of a directory as it is. -/
def Directory.Spares (directory : Directory σ) (action : StateM σ α) : Prop :=
  ∀ s, directory.entries (action s).2 = directory.entries s

/-- Nothing that a release works with touches a directory, except that a program which saves an
image may leave a regular file at its path, whatever it comes to, and that a regular file may be
removed. A name for an archive is a path of the directory that is not in use, and looking at such a
path tells what is there. -/
structure Directory.Spared (directory : Directory σ) (setting : Release.Setting (StateM σ)) :
    Prop where
  environment : ∀ name, directory.Spares (setting.host.environment name)
  accountHome : directory.Spares setting.host.accountHome
  pathExists : ∀ path, directory.Spares (setting.host.pathExists path)
  readText : ∀ path, directory.Spares (setting.host.readText path)
  fileSize : ∀ path, directory.Spares (setting.host.fileSize path)
  attach : ∀ invocation, directory.Spares (setting.host.attach invocation)
  timestamp : directory.Spares setting.host.timestamp
  nanoseconds : directory.Spares setting.host.nanoseconds
  pause : ∀ seconds, directory.Spares (setting.host.pause seconds)
  freshArchive : directory.Spares setting.host.freshArchive
  run : ∀ command, directory.Spares (setting.session.channel.run command)
  copy : ∀ localPath remotePath,
    directory.Spares (setting.session.channel.copy localPath remotePath)
  wait : directory.Spares setting.session.pause
  send : ∀ request, directory.Spares (setting.service.send request)
  /-- Programs that do not save the image touch nothing. -/
  capture : ∀ invocation, (∀ path, invocation ≠ Release.saveInvocation setting.context path) →
    directory.Spares (setting.host.capture invocation)
  /-- A save touches nothing but its path. -/
  save : ∀ path s, directory.IsPath path → directory.entries s path = none →
    ∃ found, (∀ file, found = some file → directory.IsFile file) ∧
      directory.entries (setting.host.capture (Release.saveInvocation setting.context path) s).2 =
        Function.update (directory.entries s) path found
  fresh : ∀ s, directory.IsPath (setting.host.freshArchive s).1 ∧
    directory.entries s (setting.host.freshArchive s).1 = none
  /-- A regular file is seen. -/
  seen : ∀ path s file, directory.IsPath path → directory.entries s path = some file →
    directory.IsFile file → (setting.host.pathExists path s).1 = true
  /-- Only what is there has a size. -/
  sized : ∀ path s size, directory.IsPath path → (setting.host.fileSize path s).1 = .ok size →
    ∃ file, directory.entries s path = some file
  /-- A regular file is removed, and nothing else is. -/
  remove : ∀ path s file, directory.IsPath path → directory.entries s path = some file →
    directory.IsFile file →
    directory.entries (setting.host.removeFile path s).2 =
      Function.update (directory.entries s) path none
  /-- Nothing is removed where nothing is. -/
  leave : ∀ path s, directory.IsPath path → directory.entries s path = none →
    directory.entries (setting.host.removeFile path s).2 = directory.entries s

end Archive

/-! ## Leaving the directory alone -/

namespace Archive.Directory

/-- In a directory with these entries an action leaves all of them as they are, and nothing is seen
but what is allowed. -/
def sparing (directory : Directory σ) (entries : String → Option directory.Entry)
    (allowed : Sighting directory.Entry → Prop) :
    ActionRelation (StateM (Traced σ (Sighting directory.Entry)))
      (StateM (Traced σ (Sighting directory.Entry))) where
  Alike x _ := ∀ t, directory.entries t.outside = entries →
    directory.entries (x t).2.outside = entries ∧
      ∃ sightings, (x t).2.trace = t.trace ++ sightings ∧ ∀ e ∈ sightings, allowed e
  pure a t h := ⟨h, [], (List.append_nil _).symm, List.forall_mem_nil _⟩
  bind {α β x y f g} hx hf t h := by
    obtain ⟨hreached, first, htrace, hfirst⟩ := hx t h
    obtain ⟨hleft, second, htrace', hsecond⟩ := hf (x t).1 (x t).2 hreached
    refine ⟨hleft, first ++ second, ?_, List.forall_mem_append.mpr ⟨hfirst, hsecond⟩⟩
    rw [eval_bind, htrace', htrace, List.append_assoc]

variable {entries : String → Option directory.Entry} {allowed : Sighting directory.Entry → Prop}

/-- What spares the directory and is not watched leaves it alone unseen. -/
lemma Spares.silently {action : StateM σ α} (h : directory.Spares action) :
    (directory.sparing entries allowed).Alike (Traced.silently action)
      (Traced.silently action) := by
  intro t ht
  exact ⟨(h t.outside).trans ht, [], (List.append_nil _).symm, List.forall_mem_nil _⟩

end Archive.Directory

/-- A machine that saves and removes nothing. -/
def Host.withoutSaves {m : Type → Type} [Monad m] (host : Host m) : Host m :=
  { host with
    removeFile := fun _ => pure ()
    capture := fun invocation =>
      match savedPath? invocation with
      | some _ => pure (.error (.program .notFound))
      | none => host.capture invocation }

/-- A session that copies nothing. -/
def Remote.Session.withoutCopies {m : Type → Type} [Monad m] (session : Session m) : Session m :=
  { session with channel := { session.channel with copy := fun _ _ => pure .silent } }

namespace Release

/-- What a release works with, without saves, removals and copies. -/
def Setting.idle {m : Type → Type} [Monad m] (setting : Setting m) : Setting m :=
  { setting with
    host := setting.host.withoutSaves
    session := setting.session.withoutCopies }

/-- Without saves, removals and copies every directory that is spared is left alone. -/
lemma Setting.idle_sparing {setting : Setting (StateM σ)} (h : directory.Spared setting)
    (entries : String → Option directory.Entry) (allowed : Sighting directory.Entry → Prop) :
    (setting.watched directory).idle.Alike (directory.sparing entries allowed)
      (setting.watched directory).idle where
  host :=
    { environment := fun name => (h.environment name).silently
      accountHome := h.accountHome.silently
      pathExists := fun path => (h.pathExists path).silently
      readText := fun path => (h.readText path).silently
      fileSize := fun path => (h.fileSize path).silently
      removeFile := fun _ => (directory.sparing entries allowed).pure ()
      capture := fun invocation => by
        cases hsaved : savedPath? invocation with
        | some path =>
          rw [idle, Host.withoutSaves]
          simp only [hsaved]
          exact (directory.sparing entries allowed).pure _
        | none =>
          rw [idle, Host.withoutSaves, watched]
          simp only [hsaved, Host.watched_capture_of_none hsaved]
          exact (h.capture invocation fun path hpath => by rw [hpath] at hsaved; cases hsaved).silently
      attach := fun invocation => (h.attach invocation).silently
      freshArchive := h.freshArchive.silently
      timestamp := h.timestamp.silently
      nanoseconds := h.nanoseconds.silently
      pause := fun seconds => (h.pause seconds).silently }
  session :=
    { channel := ⟨fun command => (h.run command).silently,
        fun _ _ => (directory.sparing entries allowed).pure Completion.silent, rfl⟩
      policy := rfl
      pause := h.wait.silently }
  service := ⟨fun request => (h.send request).silently⟩
  context := rfl
  cases := rfl
  identities := rfl

/-- What a stage does that neither saves nor copies, it does as well without saves, removals and
copies. -/
lemma Does.idle {m : Type → Type} [Monad m] {setting : Setting m} {p : Progress} {stage : Stage}
    {action : ExceptT Failure m Progress} (h : Does setting p stage action)
    (hsave : stage ≠ .exportImage) (hcopy : stage ≠ .transfer) :
    Does setting.idle p stage action := by
  cases h with
  | resolveSecret => exact .resolveSecret
  | selectBuilder => exact .selectBuilder
  | build decided resolved => exact .build decided resolved
  | exportImage => exact absurd rfl hsave
  | transfer saved => exact absurd rfl hcopy
  | deploy => exact .deploy
  | health => exact .health
  | conformance => exact .conformance

/-- What a stage does is alike itself if what it works with is. -/
lemma Does.alike {m : Type → Type} [Monad m] [LawfulMonad m] {R : ActionRelation m m}
    {setting : Setting m} (hsetting : setting.Alike R setting) {p : Progress} {stage : Stage}
    {action : ExceptT Failure m Progress} (h : Does setting p stage action) :
    (R.except Failure).Alike action action := by
  cases h with
  | resolveSecret => exact (R.except Failure).map _ (Secret.resolve_alike hsetting.session _ _)
  | selectBuilder => exact (R.except Failure).map _ (Builder.decide_alike hsetting.host _)
  | build => exact (R.except Failure).map _ (Builder.ImageBuild.run_alike hsetting.host _)
  | exportImage => exact (R.except Failure).map _ (saveImage_alike hsetting.host _)
  | transfer => exact (R.except Failure).map _ (transfer_alike hsetting.host hsetting.session _ _)
  | deploy =>
    exact (R.except Failure).map _ (Deploy.Plan.run_alike hsetting.session.execute)
  | health =>
    exact (R.except Failure).map _ (Health.verify_alike hsetting.service hsetting.host.pause _ _)
  | conformance =>
    exact (R.except Failure).map _ (R.lift (Conformance.run_alike hsetting.service _ _ _))

end Release

end Shipyard
