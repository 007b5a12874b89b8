import Shipyard.Failure
import Shipyard.Host
import Shipyard.ReleaseFile.Decode

/-!
# Loading release files

Reading a release file of a machine.
-/

namespace Shipyard.ReleaseFile

variable {m : Type → Type} [Monad m]

/-- What to do about a release file that cannot be read. -/
def loadHint : String :=
  "Create " ++ defaultPath ++ " or pass --config <path>"

/-- The release file of that name. -/
def load (host : Host m) (path : String) : ExceptT Failure m ReleaseFile := do
  match ← host.readText path with
  | .ok text => ExceptT.mk (pure (parse text path))
  | .error fault =>
    throw ((Cause.io fault.message (some ("read " ++ path))).failure.withHint loadHint)

end Shipyard.ReleaseFile
