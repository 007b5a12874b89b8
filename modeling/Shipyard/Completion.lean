import Shipyard.Json.Basic
import Shipyard.Text.Blank
import Shipyard.Text.Utf8

/-!
# Finished commands

What is known of a command that has been run: what it wrote, whether it succeeded and its exit
code. A command that was killed by a signal, or that could not be started at all, has exit code
-1.
-/

namespace Shipyard

/-- How a program ended. -/
inductive Ending where
  | exited (code : Nat)
  | signalled (signal : Nat)
  deriving DecidableEq, Repr

namespace Ending

/-- The ending that a wait status of 16 bits stands for: the signal is in the low seven bits, the
exit code in the high eight. -/
def ofWaitStatus (status : Nat) : Ending :=
  if status % 128 = 0 then .exited (status / 256 % 256) else .signalled (status % 128)

/-- Only exit code zero is a success. -/
def succeeded : Ending → Bool
  | .exited code => code == 0
  | .signalled _ => false

/-- The exit code that is reported. -/
def exitCode : Ending → Int
  | .exited code => code
  | .signalled _ => -1

end Ending

/-- A program that has ended, with the bytes it wrote. -/
structure Finished where
  stdout : List UInt8
  stderr : List UInt8
  ending : Ending
  deriving DecidableEq, Repr

/-- A command that has been run. -/
structure Completion where
  stdout : String
  stderr : String
  success : Bool
  exitCode : Int
  deriving DecidableEq, Repr

namespace Completion

/-- What is known of a program that has ended; its output is read as UTF-8. -/
def ofFinished (finished : Finished) : Completion where
  stdout := Text.Utf8.decodeLossy finished.stdout
  stderr := Text.Utf8.decodeLossy finished.stderr
  success := finished.ending.succeeded
  exitCode := finished.ending.exitCode

/-- A command whose output went elsewhere. -/
def ofEnding (ending : Ending) : Completion where
  stdout := ""
  stderr := ""
  success := ending.succeeded
  exitCode := ending.exitCode

/-- A command that could not be started. -/
def notStarted (context problem : String) : Completion where
  stdout := ""
  stderr := context ++ ": " ++ problem
  success := false
  exitCode := -1

/-- A success that wrote nothing. -/
def silent : Completion :=
  ⟨"", "", true, 0⟩

/-- What a command has to say about its failure: its error output, or its output if there is none.
-/
def errorText (c : Completion) : String :=
  if Text.isBlankText c.stderr then Text.trim c.stdout else Text.trim c.stderr

/-- A text member that is left out when it is empty. -/
def textMember (name text : String) : List (String × Json) :=
  if text.isEmpty then [] else [(name, .text text)]

/-- The completion as a document. -/
def toJson (c : Completion) : Json :=
  .object (textMember "stdout" c.stdout ++ textMember "stderr" c.stderr ++
    [("success", .bool c.success), ("exitCode", .ofInt c.exitCode)])

end Completion

end Shipyard
