import Shipyard.Context
import Shipyard.Json.Decode
import Shipyard.Text.Lines

/-!
# Builder registrations

A registration file names a remote build agent. It is a JSON record with a name and perhaps an
endpoint; a text that is no such record is read line by line, and the first line that is neither
blank nor a comment is the name.
-/

namespace Shipyard.Builder

/-- A registered build agent. -/
structure Registration where
  name : String
  endpoint : Option String := none
  deriving DecidableEq, Repr

namespace Registration

/-- A registration as a JSON record. -/
def decode : Json.Decoder Registration :=
  Json.Decode.record "struct BuilderRegistration"
    [ .must "name" Json.Decode.text fun v r => { r with name := v },
      .may "endpoint" (Json.Decode.optional Json.Decode.text) fun v r => { r with endpoint := v } ]
    { name := "" }

/-- Whether a line without blanks at its ends is the name in a plain registration. -/
def isNameLine (line : List Char) : Bool :=
  match line with
  | [] => false
  | c :: _ => c != '#'

/-- The name in a plain registration. -/
def plainName? (text : String) : Option String :=
  (((Text.lines text.toList).map Text.trimChars).find? isNameLine).map String.ofList

/-- The registration that a text is. -/
def parse? (text : String) : Option Registration :=
  match Json.decodeText decode text with
  | .ok registration => if Text.isBlankText registration.name then none else some registration
  | .error _ => (plainName? text).map fun name => { name }

/-- A registration as a document. -/
def toJson (r : Registration) : Json :=
  .object (("name", .text r.name) :: Json.optional "endpoint" (r.endpoint.map .text))

variable {m : Type → Type} [Monad m]

/-- The registration in the file of that name. There is none if no file is named, or if there is no
such file. -/
def read (host : Host m) (setting : Option String) : ExceptT Failure m (Option Registration) := do
  match Context.nonEmpty? setting with
  | none => return none
  | some path =>
    let path ← host.expandHome path
    if ← host.pathExists path then
      match ← host.readText path with
      | .ok text => return parse? text
      | .error fault => throw (Cause.io fault.message (some ("read " ++ path))).failure
    else return none

end Registration

end Shipyard.Builder
