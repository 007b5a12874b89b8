import Std.Time.DateTime.Timestamp
import Shipyard.CommandLine.Program
import Shipyard.Http.Sending
import Shipyard.Text.Moment

/-!
# The program on a real machine

The machine that the program is started on, and the start of the program. This layer has files,
the environment and the clock; it starts no other programs, sends no requests and knows no accounts,
so every program counts as absent, the service as out of reach, and no home directory is registered.
-/

namespace Shipyard.Main

/-- The number of an error. Some operations report it as a negative one. -/
def errorNumber (code : UInt32) : Nat :=
  if code < 0x80000000 then code.toNat else (0 - code).toNat

/-- The fault of an operation on a file. -/
def faultOf : IO.Error → FileFault
  | .noFileOrDirectory .. => .notFound
  | .permissionDenied .. => .denied
  | .inappropriateType _ code details =>
    if errorNumber code = 20 then .notDirectory
    else if errorNumber code = 21 then .isDirectory
    else .other details
  | .invalidArgument _ code details =>
    if errorNumber code = 36 then .tooLong else .other details
  | other => .other (toString other)

/-- The bytes of a file. -/
def readBytes (path : String) : IO (Except FileFault ByteArray) := do
  try
    return .ok (← IO.FS.readBinFile path)
  catch e =>
    return .error (faultOf e)

/-- Whether there is a file or a directory of a name. -/
def exists? (path : String) : IO Bool := do
  try
    let _ ← IO.FS.Handle.mk path .read
    return true
  catch e =>
    return faultOf e != .notFound && faultOf e != .notDirectory

/-- The text of a file. -/
def readText (path : String) : IO (Except FileFault String) := do
  match ← readBytes path with
  | .ok bytes =>
    return match Text.Utf8.decode? bytes.toList with
      | some text => .ok text
      | none => .error .notText
  | .error fault => return .error fault

/-- Wait for a number of seconds. -/
def wait : Nat → IO Unit
  | 0 => return
  | seconds + 1 => do
    IO.sleep 1000
    wait seconds

/-- A name that has not been given out before. -/
def freshName : IO String := do
  let bytes ← IO.getRandomBytes 16
  return String.ofList (bytes.toList.flatMap fun b => (Json.hexFour b.toNat).drop 2)

/-- The machine that the program is started on. -/
def host : Host IO where
  environment name := IO.getEnv name
  accountHome := return none
  pathExists := exists?
  readText := readText
  fileSize path := return (← readBytes path).map ByteArray.size
  removeFile path := do
    try IO.FS.removeFile path catch _ => return
  capture _ := return .error (.program .notFound)
  attach _ := return .error (.program .notFound)
  openClient := return .ok ()
  freshArchive := do
    let directory := (← IO.getEnv "TMPDIR").getD "/tmp"
    return directory ++ "/flowship-" ++ (← freshName) ++ ".tar"
  timestamp := do
    let now ← Std.Time.Timestamp.now
    let elapsed := now.toNanosecondsSinceUnixEpoch.toInt.toNat
    let moment : Text.Moment :=
      ⟨elapsed / Builder.nanosPerSecond, elapsed % Builder.nanosPerSecond⟩
    return moment.toText
  nanoseconds := IO.monoNanosNow
  pause := wait

/-- A service that is out of reach. -/
def service : Http.Service IO where
  send request := return .error (Http.unsentProblem request)

end Shipyard.Main

/-- Run the program and print what comes of it. -/
def main (arguments : List String) : IO UInt32 := do
  let outcome ← Shipyard.CommandLine.run Shipyard.Main.host Shipyard.Main.service arguments
  IO.print outcome.display.text
  if outcome.display = .misuse then
    IO.eprintln Shipyard.CommandLine.usageText
  return (Shipyard.CommandLine.exitStatus outcome.exitCode).toUInt32
