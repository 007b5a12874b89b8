import Shipyard.Proofs.Release.Issue
import Shipyard.Proofs.Trace.Faithful

/-!
# Watching the directory for temporary files

The directory for temporary files is a part of the outside, seen as what stands at each of its
paths. While a release is made it is looked at twice: when a program has been run to save an image,
and when a file is given to the channel. Looking changes nothing, so a release that is watched is
the release.
-/

namespace Shipyard

variable {σ ε α : Type}

/-- Do something outside, and put on the trace what is seen of it before and behind. -/
def Traced.observing (event : σ → α → σ → ε) (action : StateM σ α) :
    StateM (Traced σ ε) α := fun t =>
  ((action t.outside).1, ⟨(action t.outside).2,
    t.trace ++ [event t.outside (action t.outside).1 (action t.outside).2]⟩)

/-- What is observed is done as without a trace. -/
lemma Traced.observing_faithful (event : σ → α → σ → ε) (action : StateM σ α) :
    Faithful (observing event action) action := fun _ => ⟨rfl, rfl⟩

namespace Archive

/-- A directory of the outside, as what stands at its paths. -/
structure Directory (σ : Type) where
  Entry : Type
  /-- Whether a path is one of the directory. -/
  IsPath : String → Prop
  /-- Whether an entry is a regular file. -/
  IsFile : Entry → Prop
  /-- What stands at a path. -/
  entries : σ → String → Option Entry

/-- Something that was seen of a directory. -/
inductive Sighting (Entry : Type) where
  /-- What stood at a path when an image had been saved there, or had not. -/
  | saved (path : String) (found : Option Entry)
  /-- What stood at a path when the file there was given to the channel. -/
  | offered (path : String) (found : Option Entry)

/-- The path to which a program saves an image, if it is run for that. -/
def savedPath? (invocation : Invocation) : Option String :=
  match invocation.arguments with
  | ["save", "-o", path, _] => some path
  | _ => none

end Archive

open Archive

variable (directory : Directory σ)

/-- A machine that is watched when it saves an image. -/
def Host.watched (host : Host (StateM σ)) :
    Host (StateM (Traced σ (Sighting directory.Entry))) where
  environment name := Traced.silently (host.environment name)
  accountHome := Traced.silently host.accountHome
  pathExists path := Traced.silently (host.pathExists path)
  readText path := Traced.silently (host.readText path)
  fileSize path := Traced.silently (host.fileSize path)
  removeFile path := Traced.silently (host.removeFile path)
  capture invocation :=
    match savedPath? invocation with
    | some path =>
      Traced.observing (fun _ _ s => .saved path (directory.entries s path))
        (host.capture invocation)
    | none => Traced.silently (host.capture invocation)
  attach invocation := Traced.silently (host.attach invocation)
  openClient := Traced.silently host.openClient
  freshArchive := Traced.silently host.freshArchive
  timestamp := Traced.silently host.timestamp
  nanoseconds := Traced.silently host.nanoseconds
  pause seconds := Traced.silently (host.pause seconds)

section Capture

variable {directory} {host : Host (StateM σ)} {invocation : Invocation}

/-- A program that saves an image is watched. -/
lemma Host.watched_capture_of_some {path : String} (h : savedPath? invocation = some path) :
    (host.watched directory).capture invocation =
      Traced.observing (fun _ _ s => .saved path (directory.entries s path))
        (host.capture invocation) := by
  simp only [watched, h]

/-- A program that does not save an image is not watched. -/
lemma Host.watched_capture_of_none (h : savedPath? invocation = none) :
    (host.watched directory).capture invocation = Traced.silently (host.capture invocation) := by
  simp only [watched, h]

end Capture

/-- A session that is watched when it is given a file. -/
def Remote.Session.watched (session : Remote.Session (StateM σ)) :
    Remote.Session (StateM (Traced σ (Sighting directory.Entry))) where
  channel :=
    { run := fun command => Traced.silently (session.channel.run command)
      copy := fun localPath remotePath =>
        Traced.observing (fun s _ _ => .offered localPath (directory.entries s localPath))
          (session.channel.copy localPath remotePath)
      address := session.channel.address }
  policy := session.policy
  pause := Traced.silently session.pause

namespace Release

/-- What a release works with, watched. -/
def Setting.watched (setting : Setting (StateM σ)) :
    Setting (StateM (Traced σ (Sighting directory.Entry))) where
  host := setting.host.watched directory
  session := setting.session.watched directory
  service := ⟨fun request => Traced.silently (setting.service.send request)⟩
  context := setting.context
  cases := setting.cases
  identities := setting.identities

open Traced in
/-- What a release works with does the same when it is watched. -/
lemma Setting.watched_alike (setting : Setting (StateM σ)) :
    (setting.watched directory).Alike (faithfulness σ (Sighting directory.Entry)) setting where
  host :=
    { environment := fun _ => silently_faithful _
      accountHome := silently_faithful _
      pathExists := fun _ => silently_faithful _
      readText := fun _ => silently_faithful _
      fileSize := fun _ => silently_faithful _
      removeFile := fun _ => silently_faithful _
      capture := fun invocation => by
        cases h : savedPath? invocation with
        | some path =>
          rw [Setting.watched, Host.watched_capture_of_some h]
          exact observing_faithful _ _
        | none =>
          rw [Setting.watched, Host.watched_capture_of_none h]
          exact silently_faithful _
      attach := fun _ => silently_faithful _
      freshArchive := silently_faithful _
      timestamp := silently_faithful _
      nanoseconds := silently_faithful _
      pause := fun _ => silently_faithful _ }
  session :=
    { channel := ⟨fun _ => silently_faithful _, fun _ _ => observing_faithful _ _, rfl⟩
      policy := rfl
      pause := silently_faithful _ }
  service := ⟨fun _ => silently_faithful _⟩
  context := rfl
  cases := rfl
  identities := rfl

/-- A release that is watched is the release. -/
theorem make_watched_faithful (setting : Setting (StateM σ)) (options : Options) :
    Traced.Faithful (make (setting.watched directory) options) (make setting options) :=
  make_alike (setting.watched_alike directory) options

end Release

end Shipyard
