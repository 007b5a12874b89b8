import Shipyard.Http.Sending
import Shipyard.Rehearsal.Interpreter
import Shipyard.Remote.Session

/-!
# Rehearsals

A rehearsal is a run on a machine that exists only as a value, with a service and a channel that
answer from a script. What the run asks of them is recorded.
-/

namespace Shipyard.Rehearsal

/-- An answer of the scripted service. The first of several for the same method and URL is used up
as long as there is another one. -/
structure Route where
  method : Http.Method
  url : String
  reply : Http.Reply

/-- Everything that a rehearsal can change. -/
structure World where
  machine : Machine := .standard
  routes : List Route := []
  /-- The requests that were made to the scripted service. -/
  requests : List Http.Request := []
  /-- The next answers of the scripted channel. -/
  replies : List Completion := []
  /-- The answer of the scripted channel when there are no others. -/
  fallback : Completion := .silent
  /-- What was asked of the scripted channel. -/
  transport : List String := []

end Rehearsal

/-- A run in a rehearsed world. -/
abbrev Rehearsal : Type → Type := StateM Rehearsal.World

namespace Rehearsal

/-! ### The scripted service -/

/-- Whether a route is for a request. -/
def Route.serves (request : Http.Request) (route : Route) : Bool :=
  route.method == request.method && route.url == request.url

/-- The answer for a request that has no route. -/
def unknownRoute : Http.Response := ⟨404, ""⟩

/-- The answer to a request, and the routes that are left. -/
def answer (request : Http.Request) (routes : List Route) : Http.Reply × List Route :=
  match routes.filter (Route.serves request) with
  | [] => (.ok unknownRoute, routes)
  | [route] => (route.reply, routes)
  | route :: _ => (route.reply, routes.eraseP (Route.serves request))

/-- The scripted service. -/
def service : Http.Service Rehearsal where
  send request := modifyGet fun w =>
    let (reply, routes) := answer request w.routes
    (reply, { w with routes, requests := w.requests ++ [request] })

/-- A service that no request gets to. -/
def unreachableService : Http.Service Rehearsal where
  send request := return .error (Http.unsentProblem request)

/-! ### The scripted channel -/

/-- The next answer of the channel to what is asked of it. -/
def ask (what : String) : Rehearsal Completion :=
  modifyGet fun w =>
    let w := { w with transport := w.transport ++ [what] }
    match w.replies with
    | reply :: replies => (reply, { w with replies })
    | [] => (w.fallback, w)

/-- The scripted channel to an address. -/
def channel (address : String) : Remote.Channel Rehearsal where
  run command := ask command
  copy localPath remotePath := ask ("copy " ++ localPath ++ " -> " ++ remotePath)
  address := address

/-- A session on the scripted channel that does not wait between attempts. -/
def session (address : String) (maxAttempts : Nat) : Remote.Session Rehearsal where
  channel := channel address
  policy := ⟨maxAttempts, 0⟩
  pause := pure ()

/-! ### The machine -/

/-- Something that the machine tells. -/
def inspect {α : Type} (f : Machine → α) : Rehearsal α := do
  return f (← get).machine

/-- Change the machine. -/
def change {α : Type} (f : Machine → α × Machine) : Rehearsal α :=
  modifyGet fun w =>
    let (value, machine) := f w.machine
    (value, { w with machine })

/-- The fault of an invocation with a character that none can have. -/
def badInvocation : FileFault :=
  .other "nul byte found in provided data"

/-- Whether an invocation has a character that none can have. -/
def hasNul (invocation : Invocation) : Bool :=
  (invocation.program :: invocation.arguments ++ invocation.directory.toList).any
    (·.toList.contains '\x00')

/-- The bytes of the input of an invocation. A directory has none. -/
def inputOf (invocation : Invocation) (m : Machine) : Except StartFault (List UInt8) :=
  match invocation.input with
  | none => .ok []
  | some path =>
    match m.find path with
    | .ok (.file content) => .ok content
    | .ok .directory => .ok []
    | .error fault => .error (.input fault)

/-- The machine with another working directory, if one is asked for. -/
def enter (invocation : Invocation) (m : Machine) : Except StartFault Machine :=
  match invocation.directory with
  | none => .ok m
  | some path =>
    match m.locate path with
    | .error fault => .error (.program fault)
    | .ok place =>
      match m.node? place with
      | some .directory => .ok { m with directory := place }
      | some (.file _) => .error (.program .notDirectory)
      | none => .error (.program .notFound)

/-- Run an invocation on a machine. -/
def start (invocation : Invocation) (m : Machine) : Except StartFault (Finished × Machine) := do
  let input ← inputOf invocation m
  if hasNul invocation then throw (.program badInvocation)
  let inside ← enter invocation m
  match runProgram programFuel invocation.program invocation.arguments input inside with
  | .ok (done, after) => return (done, { after with directory := m.directory })
  | .error fault => throw (.program fault)

/-- The path of the next archive. -/
def nextArchive (m : Machine) : String × Machine :=
  (((m.valueOf? "TMPDIR").getD "/tmp") ++ "/flowship-" ++ Cause.integerText m.archives ++ ".tar",
    { m with archives := m.archives + 1 })

/-- The machine of a rehearsal. Its clock stands still. -/
def host : Host Rehearsal where
  environment name := inspect (·.valueOf? name)
  accountHome := inspect (·.accountHome)
  pathExists path := inspect fun m => (m.find path).toBool
  readText path := inspect fun m => do
    match Text.Utf8.decode? (← m.read path) with
    | some text => return text
    | none => throw .notText
  fileSize path := inspect fun m => do
    match ← m.find path with
    | .file content => return content.length
    | .directory => return 4096
  removeFile path := change fun m =>
    match m.remove path with
    | .ok m => ((), m)
    | .error _ => ((), m)
  capture invocation := change fun m =>
    match start invocation m with
    | .ok (done, m) => (.ok done, m)
    | .error fault => (.error fault, m)
  attach invocation := change fun m =>
    match start invocation m with
    | .ok (done, m) => (.ok done.ending, { m with terminal := m.terminal ++ done.stdout })
    | .error fault => (.error fault, m)
  openClient := return .ok ()
  freshArchive := change nextArchive
  timestamp := return ""
  nanoseconds := return 0
  pause _ := return ()

end Rehearsal

end Shipyard
