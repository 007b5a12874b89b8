import Shipyard.Host
import Shipyard.Text.Dictionary

/-!
# A machine as a value

The part of a machine that a run can see: a tree of files, a working directory, an environment,
programs that have been told what to answer, and what was written to the terminal.
-/

namespace Shipyard.Rehearsal

/-- A file or a directory. -/
inductive Node where
  | file (content : List UInt8)
  | directory
  deriving DecidableEq, Repr

/-- A place in the tree: the names on the way from the root. -/
abbrev Place : Type := List String

/-- What a program does in one call: which calls it is meant for, what it writes and how it ends. -/
structure Reaction where
  /-- How the arguments of the call begin, with a blank between two of them. -/
  beginning : String := ""
  stdout : String := ""
  stderr : String := ""
  exitCode : Nat := 0
  /-- What it writes to the file that is named behind the flag for its output. -/
  output : Option String := none
  deriving DecidableEq, Repr

/-- A machine. -/
structure Machine where
  nodes : List (Place × Node) := []
  directory : Place := []
  environment : Dictionary String := []
  /-- The home directory that is registered for the user. -/
  accountHome : Option String := none
  /-- What the scripted programs do in their next calls. -/
  reactions : List (String × Reaction) := []
  /-- The calls of scripted programs so far. -/
  calls : List (List String) := []
  terminal : List UInt8 := []
  /-- The number of archive names that were given out. -/
  archives : Nat := 0
  deriving Repr

namespace Machine

/-- What is at a place. The root is always there. -/
def node? (m : Machine) (place : Place) : Option Node :=
  if place.isEmpty then some .directory else (m.nodes.find? (·.1 == place)).map (·.2)

/-- The greatest number of bytes of a name. -/
def nameLimit : Nat := 255

/-- The greatest number of bytes of a path. -/
def pathLimit : Nat := 4095

/-- Go from a place along names. Only a directory can be gone through; the last name need not be
there. -/
def walk (m : Machine) : Place → List String → Except FileFault Place
  | place, [] => .ok place
  | place, name :: names =>
    match m.node? place with
    | none => .error .notFound
    | some (.file _) => .error .notDirectory
    | some .directory =>
      if name.isEmpty || name == "." then walk m place names
      else if name == ".." then walk m place.dropLast names
      else if nameLimit < name.utf8ByteSize then .error .tooLong
      else walk m (place ++ [name]) names

/-- The fault of a path with a character that no path can have. -/
def badPath : FileFault :=
  .other "file name contained an unexpected NUL byte"

/-- The place that a path names. -/
def locate (m : Machine) (path : String) : Except FileFault Place :=
  if path.isEmpty then .error .notFound
  else if path.toList.contains '\x00' then .error badPath
  else if pathLimit < path.utf8ByteSize then .error .tooLong
  else m.walk (if path.toList.head? == some '/' then [] else m.directory) (path.splitOn "/")

/-- What a path leads to. -/
def find (m : Machine) (path : String) : Except FileFault Node := do
  match m.node? (← m.locate path) with
  | some node => return node
  | none => throw .notFound

/-- The bytes of a file. -/
def read (m : Machine) (path : String) : Except FileFault (List UInt8) := do
  match ← m.find path with
  | .file content => return content
  | .directory => throw .isDirectory

/-- Put a node at a place. -/
def put (m : Machine) (place : Place) (node : Node) : Machine :=
  { m with nodes := (place, node) :: m.nodes.filter (·.1 != place) }

/-- Put a node at a place, and directories on the way to it. -/
def install (m : Machine) (place : Place) (node : Node) : Machine :=
  let way := (List.range place.length).map place.take
  (way.foldl (fun m p => if (m.node? p).isNone then m.put p .directory else m) m).put place node

/-- The place of the file that swallows what is written to it. -/
def sink : Place := ["dev", "null"]

/-- Write a file. -/
def write (m : Machine) (path : String) (content : List UInt8) : Except FileFault Machine := do
  let place ← m.locate path
  match m.node? place with
  | some .directory => throw .isDirectory
  | _ => return if place = sink then m else m.put place (.file content)

/-- Remove a file. -/
def remove (m : Machine) (path : String) : Except FileFault Machine := do
  let place ← m.locate path
  match m.node? place with
  | some (.file _) => return { m with nodes := m.nodes.filter (·.1 != place) }
  | some .directory => throw .isDirectory
  | none => throw .notFound

/-- The value of a variable. -/
def valueOf? (m : Machine) (name : String) : Option String :=
  m.environment.get? name

/-- How many files and directories stand in a directory. -/
def entryCount (m : Machine) (place : Place) : Nat :=
  (m.nodes.filter fun entry => !entry.1.isEmpty && entry.1.dropLast == place).length

/-! ### The standard machine -/

/-- The working directory. -/
def workPlace : Place := ["rehearsal", "work"]

/-- The directory for archives. -/
def archivePlace : Place := ["rehearsal", "archives"]

/-- The directory of the scripted programs. -/
def scriptDirectory : String := "/rehearsal/bin"

/-- The directories of the ordinary programs. -/
def systemDirectories : List String := ["/usr/bin", "/bin"]

/-- A path as text. -/
def pathText (place : Place) : String :=
  "/" ++ String.intercalate "/" place

/-- The machine on which nothing has happened yet. -/
def standard : Machine :=
  { nodes :=
      [ (["rehearsal"], .directory), (workPlace, .directory), (archivePlace, .directory),
        (["dev"], .directory), (sink, .file []), (["tmp"], .directory) ]
    directory := workPlace
    accountHome := some "/root"
    environment :=
      Dictionary.ofEntries
        [ ("HOME", "/home/operator"), ("TMPDIR", pathText archivePlace),
          ("PATH", String.intercalate ":" (scriptDirectory :: systemDirectories)) ] }

/-- The directories in which programs are looked for. -/
def searchPath (m : Machine) : List String :=
  ((m.valueOf? "PATH").getD "").splitOn ":"

end Machine

end Shipyard.Rehearsal
