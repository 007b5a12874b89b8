import Shipyard.Rehearsal.Machine
import Shipyard.Json.Draft
import Shipyard.Text.Utf8

/-!
# Programs of a machine

The scripted programs, which do what they were told and have their calls recorded, and some ordinary
programs without which no shell command gets far.
-/

namespace Shipyard.Rehearsal

/-- A program that has written texts and ended. -/
def finished (stdout stderr : String) (exitCode : Nat) : Finished :=
  ⟨Text.Utf8.encode stdout, Text.Utf8.encode stderr, .exited exitCode⟩

/-! ### Scripted programs -/

/-- The names of the scripted programs. -/
def scriptedNames : List String := ["docker", "ssh", "scp"]

/-- What stands behind the flag for the output. -/
def outputPath? : List String → Option String
  | "-o" :: path :: _ => some path
  | _ :: arguments => outputPath? arguments
  | [] => none

/-- Whether a reaction is meant for a call. -/
def Reaction.isFor (r : Reaction) (arguments : List String) : Bool :=
  r.beginning.toList.isPrefixOf (String.intercalate " " arguments).toList

/-- Write the output of a reaction, if there is a place for it. -/
def Reaction.writeOutput (r : Reaction) (arguments : List String) (m : Machine) : Machine :=
  match r.output, outputPath? arguments with
  | some text, some path =>
    match m.write path (Text.Utf8.encode text) with
    | .ok m => m
    | .error _ => m
  | _, _ => m

/-- Call a scripted program: the first reaction that is meant for the call is used up. -/
def callScripted (name : String) (arguments : List String) (m : Machine) : Finished × Machine :=
  let m := { m with calls := m.calls ++ [name :: arguments] }
  let isMeant (entry : String × Reaction) : Bool := entry.1 == name && entry.2.isFor arguments
  match m.reactions.find? isMeant with
  | some (_, r) =>
    (finished r.stdout r.stderr r.exitCode,
      r.writeOutput arguments { m with reactions := m.reactions.eraseP isMeant })
  | none => (finished "" "" 0, m)

/-! ### Ordinary programs -/

/-- Show files, or the input if none is named. -/
def concatenate (m : Machine) (input : List UInt8) (paths : List String) : Finished :=
  let shown (path : String) : Except FileFault (List UInt8) :=
    if path == "-" then .ok input else m.read path
  let add (done : Finished) (path : String) : Finished :=
    match shown path with
    | .ok content => { done with stdout := done.stdout ++ content }
    | .error fault =>
      { done with
        stderr := done.stderr ++ Text.Utf8.encode ("cat: " ++ path ++ ": " ++ fault.reason ++ "\n")
        ending := .exited 1 }
  (if paths.isEmpty then ["-"] else paths).foldl add (finished "" "" 0)

/-- The value of an octal digit. -/
def octalValue? (c : Char) : Option Nat :=
  if '0' ≤ c ∧ c ≤ '7' then some (c.toNat - '0'.toNat) else none

/-- The bytes of a character. -/
def charBytes (c : Char) : List UInt8 :=
  Text.Utf8.encode c.toString

/-- The character that a letter behind a backslash stands for. -/
def escapedLetter? (c : Char) : Option Char :=
  if c = 'n' then some '\n'
  else if c = 't' then some '\t'
  else if c = 'r' then some '\r'
  else if c = 'f' then some '\x0C'
  else if c = 'v' then some '\x0B'
  else if c = 'a' then some '\x07'
  else if c = 'b' then some '\x08'
  else if c = '\\' then some '\\'
  else if c = '"' then some '"'
  else none

/-- The bytes of a format: escapes stand for bytes, and every `%s` for the next argument. -/
def formatOnce : List Char → List String → List UInt8 × List String
  | [], arguments => ([], arguments)
  | '\\' :: a :: b :: c :: cs, arguments =>
    match octalValue? a, octalValue? b, octalValue? c with
    | some x, some y, some z =>
      let (bytes, left) := formatOnce cs arguments
      (UInt8.ofNat ((x * 8 + y) * 8 + z) :: bytes, left)
    | _, _, _ =>
      match escapedLetter? a with
      | some letter =>
        let (bytes, left) := formatOnce (b :: c :: cs) arguments
        (charBytes letter ++ bytes, left)
      | none =>
        let (bytes, left) := formatOnce (b :: c :: cs) arguments
        (charBytes '\\' ++ charBytes a ++ bytes, left)
  | '\\' :: a :: cs, arguments =>
    let (bytes, left) := formatOnce cs arguments
    match escapedLetter? a with
    | some letter => (charBytes letter ++ bytes, left)
    | none => (charBytes '\\' ++ charBytes a ++ bytes, left)
  | '%' :: '%' :: cs, arguments =>
    let (bytes, left) := formatOnce cs arguments
    (charBytes '%' ++ bytes, left)
  | '%' :: 's' :: cs, arguments =>
    let (bytes, left) := formatOnce cs (arguments.drop 1)
    (Text.Utf8.encode (arguments.head?.getD "") ++ bytes, left)
  | c :: cs, arguments =>
    let (bytes, left) := formatOnce cs arguments
    (charBytes c ++ bytes, left)

/-- The bytes of a format that is used again as long as it takes up arguments. -/
def formatAll : Nat → List Char → List String → List UInt8
  | 0, _, _ => []
  | fuel + 1, format, arguments =>
    let (bytes, left) := formatOnce format arguments
    if left.isEmpty || left.length == arguments.length then bytes
    else bytes ++ formatAll fuel format left

/-- Write arguments under a format. -/
def printFormatted : List String → Finished
  | format :: arguments =>
    ⟨formatAll (arguments.length + 1) format.toList arguments, [], .exited 0⟩
  | [] => finished "" "printf: missing operand\n" 1

/-- Write arguments on a line. -/
def echo (escapes : Bool) (arguments : List String) : Finished :=
  let line (arguments : List String) : List UInt8 :=
    let text := String.intercalate " " arguments
    if escapes then
      (formatOnce (text.toList.flatMap fun c => if c = '%' then ['%', '%'] else [c]) []).1
    else Text.Utf8.encode text
  match arguments with
  | "-n" :: arguments => ⟨line arguments, [], .exited 0⟩
  | arguments => ⟨line arguments ++ charBytes '\n', [], .exited 0⟩

/-- Remove files. -/
def removeFiles (arguments : List String) (m : Machine) : Finished × Machine :=
  let force := arguments.contains "-f"
  let remove (done : Finished × Machine) (path : String) : Finished × Machine :=
    match done.2.remove path with
    | .ok m => (done.1, m)
    | .error fault =>
      let complain (text : String) : Finished × Machine :=
        ({ done.1 with
            stderr := done.1.stderr ++
              Text.Utf8.encode ("rm: cannot remove '" ++ path ++ "': " ++ text ++ "\n")
            ending := .exited 1 }, done.2)
      match fault with
      | .isDirectory | .tooLong => complain fault.reason
      | _ => if force then done else complain fault.reason
  (arguments.filter (· != "-f")).foldl remove (finished "" "" 0, m)

/-- The names of the ordinary programs, apart from the shell. -/
def ordinaryNames : List String := ["true", "false", "echo", "printf", "cat", "rm"]

/-- Run an ordinary program. -/
def runOrdinary (name : String) (arguments : List String) (input : List UInt8) (m : Machine) :
    Finished × Machine :=
  match name with
  | "false" => (finished "" "" 1, m)
  | "echo" => (echo false arguments, m)
  | "printf" => (printFormatted arguments, m)
  | "cat" => (concatenate m input arguments, m)
  | "rm" => removeFiles arguments m
  | _ => (finished "" "" 0, m)

/-- What kind of program a name leads to. -/
inductive Found where
  | scripted
  | ordinary
  | shell
  deriving DecidableEq, Repr

/-- Look for a program. A name with a slash is a path; no file of a machine can be run. -/
def findProgram (m : Machine) (name : String) : Except FileFault Found :=
  if name.toList.contains '/' then
    match m.find name with
    | .ok _ => .error .denied
    | .error fault => .error fault
  else if Machine.nameLimit < name.utf8ByteSize then .error .tooLong
  else if scriptedNames.contains name && m.searchPath.contains Machine.scriptDirectory then
    .ok .scripted
  else if m.searchPath.any Machine.systemDirectories.contains then
    if name == "sh" then .ok .shell
    else if ordinaryNames.contains name then .ok .ordinary
    else .error .notFound
  else .error .notFound

end Shipyard.Rehearsal
