import Shipyard.Context
import Shipyard.Remote.Session

/-!
# The image archive

The image is saved to an archive on this machine and copied to the target. The local archive is
discarded when the copy has ended, well or not, and when the save has failed.
-/

namespace Shipyard.Archive

/-- An archive on this machine. -/
structure Local where
  path : String
  size : Nat
  deriving DecidableEq, Repr

/-- An archive on the target. -/
structure Delivered where
  remotePath : String
  size : Nat
  deriving DecidableEq, Repr

/-- A delivered archive as a document. -/
def Delivered.toJson (d : Delivered) : Json :=
  .object [("remotePath", .text d.remotePath), ("size", .ofNat d.size)]

/-- The arguments with which an image is saved. -/
def saveArguments (image path : String) : List String :=
  ["save", "-o", path, image]

variable {m : Type → Type} [Monad m]

/-- Remove a local archive, if it is there. -/
def discard (host : Host m) (path : String) : m Unit := do
  if ← host.pathExists path then host.removeFile path

/-- Save an image to a path. -/
def save (host : Host m) (dockerBin image path : String) : ExceptT Failure m Local := do
  let completion ←
    host.runCaptured { program := dockerBin, arguments := saveArguments image path }
  if completion.success then
    match ← host.fileSize path with
    | .ok size => return ⟨path, size⟩
    | .error fault =>
      ExceptT.lift (discard host path)
      throw (Cause.exportFailed
        ("Export reported success but " ++ path ++ " is unreadable: " ++ fault.message)
        completion.exitCode).failure
  else
    ExceptT.lift (discard host path)
    throw (Cause.exportFailed
      ("Failed to export " ++ image ++ ": " ++ completion.errorText) completion.exitCode).failure

/-- Save the image of a context to a fresh archive. -/
def saveImage (host : Host m) (context : Context) : ExceptT Failure m Local := do
  save host context.dockerBin context.image (← host.freshArchive)

/-- What a copy that has ended means. -/
def delivery (archive : Local) (remotePath : String) (c : Completion) : Except Failure Delivered :=
  if c.success then .ok ⟨remotePath, archive.size⟩
  else .error (Cause.transferFailed archive.path remotePath c.exitCode c.errorText)

/-- Copy an archive to its place on the target and discard it here. -/
def transfer (host : Host m) (session : Remote.Session m) (target : Target) (archive : Local) :
    ExceptT Failure m Delivered :=
  ExceptT.mk do
    let copied ← (session.upload archive.path target.archivePath).run
    discard host archive.path
    return copied.bind (delivery archive target.archivePath)

end Shipyard.Archive
