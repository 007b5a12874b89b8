import Mathlib.Algebra.GroupWithZero.Nat
import Mathlib.Algebra.Order.BigOperators.Group.List
import Mathlib.Algebra.Order.Group.Nat
import Shipyard.Proofs.Archive.Handoff
import Shipyard.Proofs.Archive.Spared

/-!
# The local archive of a release

An archive is saved under a name that is not in use, is there whenever it is offered to the channel,
and is gone when the release has ended, however it has ended: every entry of the directory for
temporary files is as it was before.

The stage that saves discards what it cannot use, the stage that copies discards what it was given,
and a course goes directly from the one to the other. All other stages leave the directory alone.
-/

namespace Shipyard

open Archive

variable {σ α : Type} {directory : Directory σ}

/-! ## Saving and discarding -/

namespace Archive

/-- Running a program for its output leaves the outside where the program leaves it. -/
lemma runCaptured_state (host : Host (StateM σ)) (invocation : Invocation) (s : σ) :
    (host.runCaptured invocation s).2 = (host.capture invocation s).2 := by
  unfold Host.runCaptured
  rw [eval_bind]
  cases (host.capture invocation s).1 with
  | ok finished => rfl
  | error fault => rfl

/-- A save runs its program. Then it gives the archive, if that has a size, or discards it. -/
inductive SaveEnds (host : Host (StateM σ)) (path : String) (s : σ) :
    Except Failure Local × σ → Prop where
  | kept {size : Nat} (sized : (host.fileSize path s).1 = .ok size) :
      SaveEnds host path s (.ok ⟨path, size⟩, (host.fileSize path s).2)
  | discarded (failure : Failure) : SaveEnds host path s (.error failure, (discard host path s).2)
  | unreadable (failure : Failure) :
      SaveEnds host path s (.error failure, (discard host path (host.fileSize path s).2).2)

/-- Behind its program a save ends in one of these ways. -/
lemma save_ends (host : Host (StateM σ)) (dockerBin image path : String) (s : σ) :
    SaveEnds host path
      (host.capture { program := dockerBin, arguments := saveArguments image path } s).2
      (save host dockerBin image path s) := by
  rw [← runCaptured_state]
  change SaveEnds host path _
    ((ExceptT.lift (host.runCaptured _) >>= _ : ExceptT Failure (StateM σ) Local) s)
  rw [evalExcept_bind, evalExcept_lift]
  generalize host.runCaptured { program := dockerBin, arguments := saveArguments image path } s = ran
  obtain ⟨c, s₁⟩ := ran
  dsimp only
  split
  · change SaveEnds host path _
      ((ExceptT.lift (host.fileSize path) >>= _ : ExceptT Failure (StateM σ) Local) s₁)
    rw [evalExcept_bind, evalExcept_lift]
    cases hsize : (host.fileSize path s₁).1 with
    | ok size => exact .kept hsize
    | error fault => exact .unreadable _
  · exact .discarded _

/-- Beside what was in a directory before, a path that was free holds a regular file or nothing. -/
structure Directory.Holds (directory : Directory σ) (before : String → Option directory.Entry)
    (path : String) (found : Option directory.Entry) (s : σ) : Prop where
  isPath : directory.IsPath path
  free : before path = none
  isFile : ∀ file, found = some file → directory.IsFile file
  entries : directory.entries s = Function.update before path found

variable {before : String → Option directory.Entry} {path : String}
  {found : Option directory.Entry}

/-- Where a directory has the same entries, a path holds the same. -/
lemma Directory.Holds.of_entries_eq {s s' : σ} (hs : directory.Holds before path found s)
    (hentries : directory.entries s' = directory.entries s) :
    directory.Holds before path found s' :=
  { hs with entries := hentries.trans hs.entries }

variable {setting : Release.Setting (StateM σ)} (h : directory.Spared setting)
  {t : Traced σ (Sighting directory.Entry)}

include h

/-- When an archive is discarded, the directory is as it was before. -/
lemma discard_restores (ht : directory.Holds before path found t.outside) :
    directory.entries (discard (setting.host.watched directory) path t).2.outside = before ∧
      (discard (setting.host.watched directory) path t).2.trace = t.trace := by
  have hlooked := ht.of_entries_eq (h.pathExists path t.outside)
  have hempty : Function.update before path none = before := by
    rw [← ht.free, Function.update_eq_self]
  have hdiscard : discard (setting.host.watched directory) path t =
      (if (setting.host.pathExists path t.outside).1
        then (setting.host.watched directory).removeFile path else pure ())
        ⟨(setting.host.pathExists path t.outside).2, t.trace⟩ := rfl
  rw [hdiscard]
  cases found with
  | none =>
    have hfree : directory.entries (setting.host.pathExists path t.outside).2 = before :=
      hlooked.entries.trans hempty
    split
    · refine ⟨?_, rfl⟩
      exact (h.leave path _ ht.isPath (by rw [hfree, ht.free])).trans hfree
    · exact ⟨hfree, rfl⟩
  | some file =>
    have hfile := ht.isFile file rfl
    have hentry : ∀ s, directory.Holds before path (some file) s →
        directory.entries s path = some file := by
      intro s hs
      rw [hs.entries, Function.update_self]
    rw [if_pos (h.seen path _ file ht.isPath (hentry _ ht) hfile)]
    refine ⟨?_, rfl⟩
    refine (h.remove path _ file ht.isPath (hentry _ hlooked) hfile).trans ?_
    rw [hlooked.entries, Function.update_idem, hempty]

omit h in
/-- What a save has left, by what was found at its path: its archive holds a file, or the directory
is as it was before. -/
inductive Saved (directory : Directory σ) (before : String → Option directory.Entry)
    (path : String) (found : Option directory.Entry) (s : σ) : Except Failure Local → Prop where
  | kept {file : directory.Entry} {size : Nat} (isThere : found = some file)
      (holds : directory.Holds before path found s) :
      Saved directory before path found s (.ok ⟨path, size⟩)
  | discarded {failure : Failure} (restored : directory.entries s = before) :
      Saved directory before path found s (.error failure)

omit h in
/-- Where a directory has the same entries, a save has left the same. -/
lemma Saved.of_entries_eq {s s' : σ} {result : Except Failure Local}
    (hs : Saved directory before path found s result)
    (hentries : directory.entries s' = directory.entries s) :
    Saved directory before path found s' result := by
  cases hs with
  | kept isThere holds => exact .kept isThere (holds.of_entries_eq hentries)
  | discarded restored => exact .discarded (hentries.trans restored)

/-- A save at a free path is seen once, with what was there then. It has left a file if it succeeds,
and nothing otherwise. -/
lemma save_seen (hpath : directory.IsPath path) (hfree : directory.entries t.outside path = none)
    {result : Except Failure Local} {t' : Traced σ (Sighting directory.Entry)}
    (hsave : save (setting.host.watched directory) setting.context.dockerBin setting.context.image
      path t = (result, t')) :
    ∃ found, t'.trace = t.trace ++ [.saved path found] ∧
      Saved directory (directory.entries t.outside) path found t'.outside result := by
  obtain ⟨found, hfile, hentries⟩ := h.save path t.outside hpath hfree
  have hholds : directory.Holds (directory.entries t.outside) path found
      (setting.host.capture (Release.saveInvocation setting.context path) t.outside).2 :=
    ⟨hpath, hfree, hfile, hentries⟩
  -- behind the program: what it has left, and the sighting of it
  obtain ⟨t₁, hcapture⟩ : ∃ t₁, ((setting.host.watched directory).capture
      (Release.saveInvocation setting.context path) t).2 = t₁ := ⟨_, rfl⟩
  have hsaved : savedPath? (Release.saveInvocation setting.context path) = some path := rfl
  have houtside : directory.Holds (directory.entries t.outside) path found t₁.outside := by
    rw [← hcapture, Host.watched_capture_of_some hsaved]
    exact hholds
  have htrace : t₁.trace = t.trace ++ [.saved path found] := by
    rw [← hcapture, Host.watched_capture_of_some hsaved]
    change t.trace ++ [Sighting.saved path (directory.entries _ path)] = _
    rw [hholds.entries, Function.update_self]
  have hends := save_ends (setting.host.watched directory) setting.context.dockerBin
    setting.context.image path t
  rw [hsave] at hends
  change SaveEnds _ path ((setting.host.watched directory).capture
    (Release.saveInvocation setting.context path) t).2 (result, t') at hends
  rw [hcapture] at hends
  refine ⟨found, ?_⟩
  cases hends with
  | kept sized =>
    obtain ⟨file, hthere⟩ := h.sized path t₁.outside _ hpath sized
    have hfound : found = some file := by
      rw [← hthere, houtside.entries, Function.update_self]
    exact ⟨htrace, .kept hfound (houtside.of_entries_eq (h.fileSize path t₁.outside))⟩
  | discarded failure =>
    obtain ⟨hrestored, hunseen⟩ := discard_restores h houtside
    exact ⟨hunseen.trans htrace, .discarded hrestored⟩
  | unreadable failure =>
    have hlooked : directory.Holds (directory.entries t.outside) path found
        ((setting.host.watched directory).fileSize path t₁).2.outside :=
      houtside.of_entries_eq (h.fileSize path t₁.outside)
    obtain ⟨hrestored, hunseen⟩ := discard_restores h hlooked
    exact ⟨hunseen.trans htrace, .discarded hrestored⟩

/-! ## Copying and discarding -/

/-- Every attempt to copy an archive finds what is at its path, and when the transfer has ended the
directory is as it was before. -/
lemma transfer_seen {archive : Local}
    (ht : directory.Holds before archive.path found t.outside) (target : Target) :
    ∃ attempts,
      (transfer (setting.host.watched directory) (setting.session.watched directory) target archive
        t).2.trace = t.trace ++ List.replicate attempts (.offered archive.path found) ∧
      directory.entries (transfer (setting.host.watched directory)
        (setting.session.watched directory) target archive t).2.outside = before := by
  have hcopy : (directory.sparing (Function.update before archive.path found)
      (· = .offered archive.path found)).Alike
      ((setting.session.watched directory).channel.copy archive.path target.archivePath)
      ((setting.session.watched directory).channel.copy archive.path target.archivePath) := by
    intro t₁ ht₁
    refine ⟨(h.copy _ _ t₁.outside).trans ht₁, _, rfl, fun e he => ?_⟩
    have hthere : directory.entries t₁.outside archive.path = found := by
      rw [ht₁, Function.update_self]
    exact (List.mem_singleton.mp he).trans (congrArg _ hthere)
  have hupload : ((directory.sparing (Function.update before archive.path found)
      (· = .offered archive.path found)).except Failure).Alike
      ((setting.session.watched directory).upload archive.path target.archivePath)
      ((setting.session.watched directory).upload archive.path target.archivePath) :=
    Remote.Session.withRetry_alike rfl rfl h.wait.silently hcopy
  obtain ⟨hentries, sightings, htrace, hsightings⟩ := hupload t ht.entries
  have hholds : directory.Holds before archive.path found
      ((setting.session.watched directory).upload archive.path target.archivePath t).2.outside :=
    { ht with entries := hentries }
  obtain ⟨hrestored, hunseen⟩ := discard_restores h hholds
  refine ⟨sightings.length, ?_, hrestored⟩
  rw [← List.eq_replicate_length.mpr hsightings]
  exact hunseen.trans htrace

end Archive

/-! ## The course of a release -/

namespace Release

/-- What is seen of an archive in a release: nothing, or that it was saved at a path that was free,
and then the file that was there at every attempt to copy it. -/
inductive Handled (directory : Directory σ) (before : String → Option directory.Entry) :
    List (Sighting directory.Entry) → Prop where
  | unsaved : Handled directory before []
  | saved {path : String} (free : before path = none) (found : Option directory.Entry) :
      Handled directory before [.saved path found]
  | offered {path : String} (free : before path = none) (file : directory.Entry) (attempts : Nat) :
      Handled directory before
        (.saved path (some file) :: List.replicate attempts (.offered path (some file)))

/-- Between two moments of a watched release nothing was seen, and the directory holds the same. -/
structure Undisturbed (t t' : Traced σ (Sighting directory.Entry)) : Prop where
  entries : directory.entries t'.outside = directory.entries t.outside
  trace : t'.trace = t.trace

/-- What was left alone twice was left alone in between. -/
lemma Undisturbed.trans {t t' t'' : Traced σ (Sighting directory.Entry)}
    (h : Undisturbed t t') (h' : Undisturbed t' t'') : Undisturbed t t'' :=
  ⟨h'.entries.trans h.entries, h'.trace.trans h.trace⟩

/-- Between two moments of a watched release an archive was handled, and the directory holds the
same again. -/
structure Handles (t t' : Traced σ (Sighting directory.Entry)) : Prop where
  entries : directory.entries t'.outside = directory.entries t.outside
  trace : ∃ sightings, t'.trace = t.trace ++ sightings ∧
    Handled directory (directory.entries t.outside) sightings

/-- Where the directory is left alone no archive is saved. -/
lemma Undisturbed.handles {t t' : Traced σ (Sighting directory.Entry)} (h : Undisturbed t t') :
    Handles t t' :=
  ⟨h.entries, [], h.trace.trans (List.append_nil _).symm, .unsaved⟩

/-- An archive was handled also when nothing was done before or behind. -/
lemma Handles.between {t t₁ t₂ t' : Traced σ (Sighting directory.Entry)} (h : Handles t₁ t₂)
    (hbefore : Undisturbed t t₁) (hbehind : Undisturbed t₂ t') : Handles t t' where
  entries := (hbehind.entries.trans h.entries).trans hbefore.entries
  trace := by
    rw [hbehind.trace, ← hbefore.trace, ← hbefore.entries]
    exact h.trace

section Spared

variable {setting : Setting (StateM σ)} (h : directory.Spared setting) {options : Options}
  {stage : Stage} {p : Progress} {t t' : Traced σ (Sighting directory.Entry)}
  {records : List StageRecord}

include h

/-- The readings of the clock around a stage leave the directory alone. -/
lemma Timed.exists_run {action : ExceptT Failure (StateM (Traced σ (Sighting directory.Entry))) α}
    {result : Except Failure α} {duration : Decimal.Binary64}
    (timed : Timed (setting.watched directory).host action t result duration t') :
    ∃ t₁ t₂, action t₁ = (result, t₂) ∧ Undisturbed t t₁ ∧ Undisturbed t₂ t' := by
  obtain ⟨start, finish, t₁, t₂, hstart, haction, hfinish, -⟩ := timed
  have hbegun : ⟨(setting.host.nanoseconds t.outside).2, t.trace⟩ = t₁ :=
    congrArg Prod.snd hstart
  have hended : ⟨(setting.host.nanoseconds t₂.outside).2, t₂.trace⟩ = t' :=
    congrArg Prod.snd hfinish
  exact ⟨t₁, t₂, haction, hbegun ▸ ⟨h.nanoseconds t.outside, rfl⟩,
    hended ▸ ⟨h.nanoseconds t₂.outside, rfl⟩⟩

/-- A stage that neither saves nor copies leaves the directory alone. -/
lemma Does.spares {action : ExceptT Failure (StateM (Traced σ (Sighting directory.Entry))) Progress}
    {result : Except Failure Progress} {duration : Decimal.Binary64}
    (does : Does (setting.watched directory) p stage action)
    (hstage : stage ≠ .exportImage ∧ stage ≠ .transfer)
    (timed : Timed (setting.watched directory).host action t result duration t') :
    Undisturbed t t' := by
  obtain ⟨t₁, t₂, haction, hbegun, hended⟩ := timed.exists_run h
  have hsparing := (does.idle hstage.1 hstage.2).alike
    (setting.idle_sparing h (directory.entries t₁.outside) fun _ => False)
  obtain ⟨hentries, sightings, htrace, hnone⟩ := hsparing t₁ rfl
  rw [List.eq_nil_iff_forall_not_mem.mpr hnone, List.append_nil] at htrace
  have hdone : Undisturbed t₁ (action t₁).2 := ⟨hentries, htrace⟩
  rw [haction] at hdone
  exact (hbegun.trans hdone).trans hended

/-- A course through stages that neither save nor copy leaves the directory alone. -/
lemma Course.spares {stages : List Stage} {result : Except (Stage × Failure) Progress}
    (hcourse : Course (setting.watched directory) options stages p t records result t')
    (hstages : ∀ stage ∈ stages, stage ≠ .exportImage ∧ stage ≠ .transfer) :
    Undisturbed t t' := by
  induction hcourse with
  | finished p t => exact ⟨rfl, rfl⟩
  | leftOut out rest ih => exact ih fun stage hstage => hstages stage (List.mem_cons_of_mem _ hstage)
  | passed kept does timed rest ih =>
    have hfirst := does.spares h (hstages _ List.mem_cons_self) timed
    exact hfirst.trans (ih fun stage hstage => hstages stage (List.mem_cons_of_mem _ hstage))
  | stopped kept does timed => exact does.spares h (hstages _ List.mem_cons_self) timed

/-- Saving the image of a context is a save at a path that is free. -/
lemma saveImage_seen {result : Except Failure Local}
    (hsave : saveImage (setting.watched directory).host setting.context t = (result, t')) :
    ∃ path found, directory.entries t.outside path = none ∧
      t'.trace = t.trace ++ [.saved path found] ∧
      Saved directory (directory.entries t.outside) path found t'.outside result := by
  obtain ⟨path, s, hfresh⟩ : ∃ path s, setting.host.freshArchive t.outside = (path, s) :=
    ⟨_, _, rfl⟩
  obtain ⟨hpath, hfree⟩ := h.fresh t.outside
  have hentries := h.freshArchive t.outside
  rw [hfresh] at hpath hfree hentries
  have hsaved : save (setting.host.watched directory) setting.context.dockerBin
      setting.context.image path ⟨s, t.trace⟩ = (result, t') := by
    rw [← hsave]
    change _ = save (setting.host.watched directory) _ _ (setting.host.freshArchive t.outside).1
      ⟨(setting.host.freshArchive t.outside).2, t.trace⟩
    rw [hfresh]
  have hfree' : directory.entries s path = none := by
    rw [hentries]
    exact hfree
  obtain ⟨found, htrace, hsaves⟩ := save_seen h hpath hfree' hsaved
  refine ⟨path, found, hfree, htrace, ?_⟩
  rwa [hentries] at hsaves

/-- What the stage that saves leaves: what a save at a path that was free leaves there. -/
lemma Does.saves {action : ExceptT Failure (StateM (Traced σ (Sighting directory.Entry))) Progress}
    {result : Except Failure Progress} {duration : Decimal.Binary64}
    (does : Does (setting.watched directory) p .exportImage action)
    (timed : Timed (setting.watched directory).host action t result duration t') :
    ∃ path found saved, directory.entries t.outside path = none ∧
      t'.trace = t.trace ++ [.saved path found] ∧
      Saved directory (directory.entries t.outside) path found t'.outside saved ∧
      result = saved.map fun archive => { p with archive := some archive } := by
  obtain ⟨t₁, t₂, haction, hbegun, hended⟩ := timed.exists_run h
  cases does
  obtain ⟨⟨saved, t₃⟩, hsave⟩ :
      ∃ ran, saveImage (setting.watched directory).host setting.context t₁ = ran := ⟨_, rfl⟩
  rw [evalExcept_map] at haction
  change ((saveImage (setting.watched directory).host setting.context t₁).1.map _,
    (saveImage (setting.watched directory).host setting.context t₁).2) = _ at haction
  rw [hsave] at haction
  obtain ⟨hresult, rfl⟩ := Prod.mk.inj haction
  obtain ⟨path, found, hfree, htrace, hsaved⟩ := saveImage_seen h hsave
  rw [hbegun.entries] at hfree hsaved
  refine ⟨path, found, saved, hfree, ?_, hsaved.of_entries_eq hended.entries, hresult.symm⟩
  rw [hended.trace, htrace, hbegun.trace]

/-- The stage that copies finds the archive at every attempt, and leaves the directory as it was
before the archive was saved. -/
lemma Does.copies {action : ExceptT Failure (StateM (Traced σ (Sighting directory.Entry))) Progress}
    {result : Except Failure Progress} {duration : Decimal.Binary64} {archive : Local}
    {before : String → Option directory.Entry} {found : Option directory.Entry}
    (does : Does (setting.watched directory) p .transfer action)
    (timed : Timed (setting.watched directory).host action t result duration t')
    (harchive : p.archive = some archive)
    (ht : directory.Holds before archive.path found t.outside) :
    directory.entries t'.outside = before ∧
      ∃ attempts, t'.trace = t.trace ++ List.replicate attempts (.offered archive.path found) := by
  obtain ⟨t₁, t₂, haction, hbegun, hended⟩ := timed.exists_run h
  have ht₁ := ht.of_entries_eq hbegun.entries
  obtain ⟨attempts, htrace, hentries⟩ := transfer_seen h ht₁ setting.context.target
  cases does with
  | transfer saved =>
    cases saved.symm.trans harchive
    have hstate : t₂ = (Archive.transfer (setting.host.watched directory)
        (setting.session.watched directory) setting.context.target archive t₁).2 := by
      rw [evalExcept_map] at haction
      exact (congrArg Prod.snd haction).symm
    rw [← hstate] at htrace hentries
    refine ⟨hended.entries.trans hentries, attempts, ?_⟩
    rw [hended.trace, htrace, hbegun.trace]

/-- A course through the stage that copies, which is not left out, does so. -/
lemma Course.copies {result : Except (Stage × Failure) Progress} {archive : Local}
    {before : String → Option directory.Entry} {found : Option directory.Entry}
    (hcourse : Course (setting.watched directory) options [.transfer] p t records result t')
    (hkept : options.leavesOut .transfer = false) (harchive : p.archive = some archive)
    (ht : directory.Holds before archive.path found t.outside) :
    directory.entries t'.outside = before ∧
      ∃ attempts, t'.trace = t.trace ++ List.replicate attempts (.offered archive.path found) := by
  cases hcourse with
  | leftOut out => exact absurd (out.symm.trans hkept) (by decide)
  | stopped _ does timed => exact does.copies h timed harchive ht
  | passed _ does timed rest =>
    cases rest
    exact does.copies h timed harchive ht

/-- A save and the copy behind it handle the archive, and leave the directory as it was before. -/
lemma Course.handles {result : Except (Stage × Failure) Progress}
    (hcourse : Course (setting.watched directory) options [.exportImage, .transfer] p t records
      result t') : Handles t t' := by
  cases hcourse with
  | leftOut out rest =>
    cases rest with
    | leftOut out' rest =>
      cases rest
      exact Undisturbed.handles ⟨rfl, rfl⟩
    | passed kept => exact absurd ((show _ = true from out).symm.trans kept) (by decide)
    | stopped kept => exact absurd ((show _ = true from out).symm.trans kept) (by decide)
  | stopped kept does timed =>
    obtain ⟨path, found, saved, hfree, htrace, hsaved, hresult⟩ := does.saves h timed
    cases hsaved with
    | kept => cases hresult
    | discarded restored => exact ⟨restored, _, htrace, .saved hfree found⟩
  | passed kept does timed rest =>
    obtain ⟨path, found, saved, hfree, htrace, hsaved, hresult⟩ := does.saves h timed
    cases hsaved with
    | discarded => cases hresult
    | @kept file _ isThere holds =>
      cases hresult
      subst isThere
      obtain ⟨hentries, attempts, htrace'⟩ := rest.copies h kept rfl holds
      refine ⟨hentries, _ :: _, ?_, .offered hfree file attempts⟩
      rw [htrace', htrace, List.append_assoc]
      rfl

/-- A course through all stages handles the archive: the stages around the save and the copy leave
the directory alone. -/
lemma Course.all_handles {result : Except (Stage × Failure) Progress}
    (hcourse : Course (setting.watched directory) options Stage.all p t records result t') :
    Handles t t' := by
  have hparts : Stage.all = Stage.ofBuild ++ ([.exportImage, .transfer] ++
    (.deploy :: Stage.ofTests)) := rfl
  have hbefore : ∀ stage ∈ Stage.ofBuild, stage ≠ .exportImage ∧ stage ≠ .transfer := by decide
  have hbehind : ∀ stage ∈ Stage.deploy :: Stage.ofTests,
    stage ≠ .exportImage ∧ stage ≠ .transfer := by decide
  rw [hparts] at hcourse
  rcases hcourse.of_append with ⟨_, _, hstopped⟩ | ⟨_, _, _, _, hbuilt, hcourse⟩
  · exact (hstopped.spares h hbefore).handles
  have hbegun := hbuilt.spares h hbefore
  rcases hcourse.of_append with ⟨_, _, hstopped⟩ | ⟨_, _, _, _, hcopied, hcourse⟩
  · exact (hstopped.handles h).between hbegun ⟨rfl, rfl⟩
  exact (hcopied.handles h).between hbegun (hcourse.spares h hbehind)

/-- A release handles its archive, whatever becomes of its stages. -/
lemma make_handles (options : Options) (t : Traced σ (Sighting directory.Entry)) :
    Handles t (make (setting.watched directory) options t).2 := by
  have hdated : ∀ t : Traced σ (Sighting directory.Entry),
      Undisturbed t ((setting.watched directory).host.timestamp t).2 := fun t =>
    ⟨h.timestamp t.outside, rfl⟩
  cases groups_implements (setting.watched directory) options []
    ((setting.watched directory).host.timestamp t).2 with
  | passed course _ ran =>
    rw [make_of_ok rfl ran rfl]
    exact (course.all_handles h).between (hdated t) (hdated _)
  | stopped course ran =>
    rw [make_of_error rfl ran]
    exact (course.all_handles h).between (hdated t) ⟨rfl, rfl⟩

/-- If nothing else touches the directory for temporary files, every attempt to copy an archive in a
release finds the file there that was saved in this release, and when the release has ended, well or
not, the directory holds exactly what it held before. -/
theorem make_keeps_directory (options : Options) (s : σ) :
    ∃ sightings, make (setting.watched directory) options ⟨s, []⟩ =
        ((make setting options s).1, ⟨(make setting options s).2, sightings⟩) ∧
      Handled directory (directory.entries s) sightings ∧
      directory.entries (make setting options s).2 = directory.entries s := by
  obtain ⟨⟨result, t⟩, hmade⟩ :
      ∃ made, make (setting.watched directory) options ⟨s, []⟩ = made := ⟨_, rfl⟩
  have hfaithful := make_watched_faithful directory setting options ⟨s, []⟩
  have hhandles := make_handles h options ⟨s, []⟩
  rw [hmade] at hfaithful hhandles ⊢
  obtain ⟨hresult, houtside⟩ := hfaithful
  obtain ⟨hentries, sightings, htrace, hhandled⟩ := hhandles
  obtain rfl : t.trace = sightings := htrace
  rw [← hresult, ← houtside]
  exact ⟨t.trace, rfl, hhandled, hentries⟩

end Spared

/-- A disk, as the files in its directory for temporary files, and the number of copies that were
made of them. -/
structure Disk where
  files : List String
  copies : Nat

namespace Disk

/-- The directory for temporary files. -/
def temporary : Directory Disk where
  Entry := Unit
  IsPath path := ∃ name, path = "/tmp/" ++ name
  IsFile _ := True
  entries disk path := if path ∈ disk.files then some () else none

/-- A path that is longer than all that are in use. -/
def freshPath (disk : Disk) : String :=
  "/tmp/" ++ String.ofList (List.replicate (disk.files.map String.length).sum 'x')

/-- A path that is longer than all that are in use is not in use. -/
lemma freshPath_not_mem (disk : Disk) : disk.freshPath ∉ disk.files := by
  intro hmem
  have hle : disk.freshPath.length ≤ (disk.files.map String.length).sum :=
    List.le_sum_of_mem (List.mem_map_of_mem hmem)
  have hprefix : "/tmp/".length = 5 := by decide
  simp only [freshPath, String.length_append, String.length_ofList, List.length_replicate] at hle
  omega

/-- The disk with one more file. -/
def put (disk : Disk) (path : String) : Disk :=
  { disk with files := path :: disk.files }

/-- The disk without a file. -/
def remove (disk : Disk) (path : String) : Disk :=
  { disk with files := disk.files.filter (· ≠ path) }

/-- A setting with this disk, in which all goes well but that the first copy is lost on its way. -/
def setting (context : Context) : Setting (StateM Disk) where
  host :=
    { environment := fun _ => pure none
      accountHome := pure none
      pathExists := fun path disk => (decide (path ∈ disk.files), disk)
      readText := fun _ => pure (.error .notFound)
      fileSize := fun path disk =>
        (if path ∈ disk.files then .ok 1 else .error .notFound, disk)
      removeFile := fun path disk => ((), disk.remove path)
      capture := fun invocation disk =>
        (.ok ⟨[], [], .exited 0⟩, match savedPath? invocation with
          | some path => if invocation = saveInvocation context path then disk.put path else disk
          | none => disk)
      attach := fun _ => pure (.ok (.exited 0))
      openClient := pure (.ok ())
      freshArchive := fun disk => (disk.freshPath, disk)
      timestamp := pure "now"
      nanoseconds := pure 0
      pause := fun _ => pure () }
  session :=
    { channel :=
        { run := fun _ => pure .silent
          copy := fun _ _ disk =>
            (if disk.copies = 0 then ⟨"", "", false, Remote.connectionExit⟩ else .silent,
              { disk with copies := disk.copies + 1 })
          address := "u@h" }
      policy := .standard
      pause := pure () }
  service := ⟨fun _ => pure (.ok ⟨200, ""⟩)⟩
  context := context
  cases := []
  identities := []

/-- What stands on the disk when a file was put there. -/
lemma entries_put (disk : Disk) (path : String) :
    temporary.entries (disk.put path) = Function.update (temporary.entries disk) path (some ()) := by
  funext other
  by_cases h : other = path <;> simp [temporary, put, Function.update, h]

/-- What stands on the disk when a file was removed. -/
lemma entries_remove (disk : Disk) (path : String) :
    temporary.entries (disk.remove path) = Function.update (temporary.entries disk) path none := by
  funext other
  by_cases h : other = path <;> simp [temporary, remove, Function.update, h]

/-- The setting spares the directory. -/
lemma setting_spared (context : Context) : temporary.Spared (setting context) where
  environment _ _ := rfl
  accountHome _ := rfl
  pathExists _ _ := rfl
  readText _ _ := rfl
  fileSize _ _ := rfl
  attach _ _ := rfl
  timestamp _ := rfl
  nanoseconds _ := rfl
  pause _ _ := rfl
  freshArchive _ := rfl
  run _ _ := rfl
  copy _ _ _ := rfl
  wait _ := rfl
  send _ _ := rfl
  capture invocation hother disk := by
    have hunchanged : ((setting context).host.capture invocation disk).2 = disk := by
      change (match savedPath? invocation with
        | some path => if invocation = saveInvocation context path then disk.put path else disk
        | none => disk) = disk
      split
      · exact if_neg (hother _)
      · rfl
    rw [hunchanged]
  save path disk _ _ := by
    refine ⟨some (), fun _ _ => trivial, ?_⟩
    have hput : ((setting context).host.capture (saveInvocation context path) disk).2 =
        disk.put path := if_pos rfl
    rw [← entries_put, ← hput]
    rfl
  fresh disk := ⟨⟨_, rfl⟩, if_neg disk.freshPath_not_mem⟩
  seen path disk file _ hthere _ := by
    by_contra habsent
    have hnone : temporary.entries disk path = none :=
      if_neg fun hmem => habsent (decide_eq_true hmem)
    rw [hnone] at hthere
    cases hthere
  sized path disk size _ hsize := by
    by_cases h : path ∈ disk.files
    · exact ⟨(), if_pos h⟩
    · have herror : ((setting context).host.fileSize path disk).1 = .error .notFound := if_neg h
      rw [herror] at hsize
      cases hsize
  remove path disk _ _ _ _ := entries_remove disk path
  leave path disk _ hfree := by
    refine (entries_remove disk path).trans ?_
    rw [← hfree, Function.update_eq_self]

/-- A release whose first copy is lost leaves the one file that was there before. -/
theorem make_keeps_other_file :
    temporary.Spared (setting (contextInto "/srv")) ∧ ∃ sightings,
      make ((setting (contextInto "/srv")).watched temporary)
          { skipBuild := true, skipTests := true } ⟨⟨["/tmp/other"], 0⟩, []⟩ =
        ((make (setting (contextInto "/srv")) { skipBuild := true, skipTests := true }
            ⟨["/tmp/other"], 0⟩).1,
          ⟨(make (setting (contextInto "/srv")) { skipBuild := true, skipTests := true }
            ⟨["/tmp/other"], 0⟩).2, sightings⟩) ∧
      Handled temporary (temporary.entries ⟨["/tmp/other"], 0⟩) sightings ∧
      temporary.entries (make (setting (contextInto "/srv"))
          { skipBuild := true, skipTests := true } ⟨["/tmp/other"], 0⟩).2 =
        temporary.entries ⟨["/tmp/other"], 0⟩ :=
  ⟨setting_spared _, make_keeps_directory (setting_spared _) _ _⟩

end Disk

end Release

end Shipyard
