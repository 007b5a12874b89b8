import Shipyard.Archive
import Shipyard.Proofs.Context.Accepted
import Shipyard.Proofs.Deploy.Commands
import Shipyard.Proofs.Remote.Attempts
import Shipyard.Proofs.Text.Blank
import Shipyard.Proofs.Trace.Machine

/-!
# Handing the archive over

The archive is copied to the target by one part of the pipeline, and loaded and removed there by
another. The copy names its place from the directory in which a login starts, the steps of the plan
name it from the work directory to which they change first. Both use the same path, so they mean the
same file exactly if that path does not depend on the directory it is read in, which is the case
exactly if the work directory is a path from the root.
-/

namespace Shipyard

/-! ## Paths -/

/-- Whether a path begins at the root. -/
def isAbsolute (path : String) : Bool :=
  path.toList.head? = some '/'

/-- The file that a path names in a directory: an absolute path names itself. -/
def fileAt (directory path : String) : String :=
  if isAbsolute path then path else directory ++ "/" ++ path

/-- A path without the slashes at its end begins at the root with a slash behind it exactly if it
did before, unless it is empty. -/
lemma isAbsolute_trimEndSlashes {path : String} (hpath : path ≠ "") (rest : String) :
    isAbsolute (Text.trimEndSlashes path ++ "/" ++ rest) = isAbsolute path := by
  obtain ⟨c, cs, hcs⟩ := List.exists_cons_of_ne_nil fun h => hpath (String.toList_eq_nil_iff.mp h)
  have hslash : "/".toList = ['/'] := by decide
  unfold isAbsolute Text.trimEndSlashes
  simp only [String.toList_append, String.toList_ofList, hslash, hcs]
  by_cases hc : c = '/'
  · -- everything may be cut off, and then the slash behind is the first character
    subst hc
    cases htrimmed : Text.dropEndWhile (· == '/') ('/' :: cs) with
    | nil => rfl
    | cons d ds =>
      have hfront := Text.dropEndWhile_prefix (· == '/') ('/' :: cs)
      rw [htrimmed, List.cons_prefix_cons] at hfront
      rw [hfront.1]
      rfl
  · rw [Text.dropEndWhile_cons (by simpa using hc)]
    rfl

/-! ## The place of the archive -/

namespace Target

variable (target : Target)

/-- The archive is put below the work directory. -/
lemma archivePath_eq :
    target.archivePath = Text.trimEndSlashes target.workDir ++ "/" ++ archiveName := by
  unfold archivePath pathInWorkDir
  rw [if_neg (by decide)]

/-- The path of the archive begins at the root exactly if the work directory does. -/
lemma isAbsolute_archivePath (hworkDir : target.workDir ≠ "") :
    isAbsolute target.archivePath = isAbsolute target.workDir := by
  rw [archivePath_eq, isAbsolute_trimEndSlashes hworkDir]

/-- The path of the archive names the same file from the directory of a login and from the work
directory exactly if the work directory is a path from the root. -/
lemma fileAt_archivePath_iff (hworkDir : target.workDir ≠ "") (login : String) :
    fileAt login target.archivePath = fileAt (fileAt login target.workDir) target.archivePath ↔
      isAbsolute target.workDir = true := by
  have harchive := target.isAbsolute_archivePath hworkDir
  unfold fileAt
  rw [harchive]
  cases isAbsolute target.workDir with
  | true => simp
  | false =>
    simp only [Bool.false_eq_true, if_false, iff_false]
    intro heq
    -- the second path is longer by the work directory and a slash
    have hlength := congrArg String.length heq
    simp only [String.length_append] at hlength
    have hslash : "/".length = 1 := by decide
    omega

end Target

/-! ## The steps that use the archive -/

namespace Deploy.Plan

open Shell (andThen plainWord tokens?)

/-- How the shell of the target reads the command lines of the steps of a name. -/
def readings (plan : Plan) (name : String) : List (Option (List Shell.Token)) :=
  (plan.steps.filter (·.name = name)).map fun step => tokens? (plan.commandLine step).toList

/-- A command that changes to the work directory and then uses a path there. -/
def useOf (target : Target) (words : List String) : List Shell.Token :=
  [plainWord "cd".toList, plainWord target.workDir.toList, andThen] ++
    (words.map fun word => plainWord word.toList) ++ [plainWord target.archivePath.toList]

variable (context : Context)

/-- The plan loads the archive once, from its place below the work directory. -/
lemma readings_load : (ofContext context).readings "load-image" =
    [some (useOf context.target ["docker", "load", "-i"])] := by
  obtain _ | ⟨-, _ | ⟨-, _ | ⟨hload, -⟩⟩⟩ := ofContext_isRead context
  exact congrArg (fun reading => [reading]) hload.alone

/-- The plan removes the archive once, at the same place. -/
lemma readings_cleanup : (ofContext context).readings cleanupStep =
    [some (useOf context.target ["rm", "-f"])] := by
  obtain _ | ⟨-, _ | ⟨-, _ | ⟨-, _ | ⟨-, _ | ⟨hremove, -⟩⟩⟩⟩⟩ := ofContext_isRead context
  exact congrArg (fun reading => [reading]) hremove.alone

end Deploy.Plan

/-! ## The handoff -/

namespace Archive

variable {σ : Type} (host : Host (StateM σ)) (session : Remote.Session (StateM σ))

/-- The transfer copies the archive to its place on the target, at least once. -/
lemma transfer_trace (target : Target) (archive : Local) (t : Traced σ Event) :
    ∃ c cs, (transfer host.traced session.traced target archive t).2.trace =
      t.trace ++ (c :: cs).map (Event.copied archive.path target.archivePath) := by
  obtain ⟨c, cs, -, htrace⟩ := session.upload_trace archive.path target.archivePath t
  exact ⟨c, cs, ((discard_emits host archive.path).trace_eq _).trans htrace⟩

/-- In a release whose context was accepted, everything that is copied is the archive, to its place
below the work directory. The only step that loads an archive and the only step that removes one
change to the work directory first and then use that place. The place they use is the place it was
copied to, wherever a login starts, exactly if the work directory is a path from the root. -/
theorem handed_over_iff_isAbsolute {τ : Type} {reader : Host (StateM τ)} {file : ReleaseFile}
    {context : Context} {s s' : τ}
    (accepted : Context.ofReleaseFile reader file s = (.ok context, s')) (archive : Local)
    (t : Traced σ Event) (login : String) :
    (∃ c cs, (transfer host.traced session.traced context.target archive t).2.trace =
        t.trace ++ (c :: cs).map (Event.copied archive.path context.target.archivePath)) ∧
      (Deploy.Plan.ofContext context).readings "load-image" =
        [some (Deploy.Plan.useOf context.target ["docker", "load", "-i"])] ∧
      (Deploy.Plan.ofContext context).readings Deploy.cleanupStep =
        [some (Deploy.Plan.useOf context.target ["rm", "-f"])] ∧
      (fileAt login context.target.archivePath =
          fileAt (fileAt login context.target.workDir) context.target.archivePath ↔
        isAbsolute context.target.workDir = true) := by
  obtain ⟨required, projectDir, identityFile, identities, rfl⟩ := Context.ofReleaseFile_ok accepted
  refine ⟨transfer_trace host session _ archive t, Deploy.Plan.readings_load _,
    Deploy.Plan.readings_cleanup _, Target.fileAt_archivePath_iff _ ?_ login⟩
  intro hempty
  have hworkDir := required.workDir
  change file.remote.workDir = "" at hempty
  rw [hempty] at hworkDir
  exact absurd hworkDir (by decide)

/-- A machine on which there is nothing. -/
def bareHost : Host (StateM Unit) where
  environment _ := pure none
  accountHome := pure none
  pathExists _ := pure false
  readText _ := pure (.error .notFound)
  fileSize _ := pure (.error .notFound)
  removeFile _ := pure ()
  capture _ := pure (.error (.program .notFound))
  attach _ := pure (.error (.program .notFound))
  openClient := pure (.ok ())
  freshArchive := pure "/tmp/image.tar"
  timestamp := pure "now"
  nanoseconds := pure 0
  pause _ := pure ()

/-- A session in which everything succeeds. -/
def willingSession : Remote.Session (StateM Unit) where
  channel := { run := fun _ => pure .silent, copy := fun _ _ => pure .silent, address := "u@h" }
  policy := .once
  pause := pure ()

/-- A release file with a work directory and nothing that is not required. -/
def releaseInto (workDir : String) : ReleaseFile where
  image := "image"
  remote := { host := "h", user := "u", workDir }
  api := { baseUrl := "http://h" }

/-- The context of such a release file. -/
def contextInto (workDir : String) : Context :=
  Context.assembled (releaseInto workDir) "." none []

/-- With a work directory from the root the archive is handed over. -/
theorem handed_over_into_srv :
    Context.ofReleaseFile bareHost (releaseInto "/srv") () = (.ok (contextInto "/srv"), ()) ∧
      fileAt "/home/u" (contextInto "/srv").target.archivePath =
        fileAt (fileAt "/home/u" (contextInto "/srv").target.workDir)
          (contextInto "/srv").target.archivePath := by
  have accepted : Context.ofReleaseFile bareHost (releaseInto "/srv") () =
    (.ok (contextInto "/srv"), ()) := rfl
  have handed := handed_over_iff_isAbsolute bareHost willingSession accepted ⟨"/tmp/image.tar", 1⟩
    ⟨(), []⟩ "/home/u"
  exact ⟨accepted, handed.2.2.2.mpr (by decide)⟩

/-- With a work directory below the one in which a login starts, which is accepted as well, the plan
looks for the archive in another place than it was copied to. -/
theorem not_handed_over_into_w :
    Context.ofReleaseFile bareHost (releaseInto "w") () = (.ok (contextInto "w"), ()) ∧
      fileAt "/home/u" (contextInto "w").target.archivePath ≠
        fileAt (fileAt "/home/u" (contextInto "w").target.workDir)
          (contextInto "w").target.archivePath :=
  ⟨rfl, by decide⟩

end Archive

end Shipyard
