import Shipyard.Redaction
import Shipyard.Remote.Session
import Shipyard.Shell.Quote
import Shipyard.Text.Lines

/-!
# The build-time secret

The secret is the value of a key in a `key=value` file on the remote host. The first line that
defines the key counts. Blank lines and lines that begin with `#` define nothing, and a line may
begin with `export `. Blanks and then quotes around the value are taken off, and blanks once more.
-/

namespace Shipyard.Secret

/-- The word that may stand in front of a definition. -/
def exportWord : List Char := "export ".toList

/-- A line without the word that may stand in front of it. -/
def dropExport (line : List Char) : List Char :=
  if exportWord.isPrefixOf line then line.drop exportWord.length else line

/-- The name and the text behind the equals sign, for a line that defines something. -/
def definition? (line : List Char) : Option (List Char × List Char) :=
  let line := Text.trimChars line
  if line.isEmpty || line.head? == some '#' then none
  else
    (splitAtFirst '=' (dropExport line)).map fun parts => (Text.trimChars parts.1, parts.2)

/-- Whether a character is a quote. -/
def isQuote (c : Char) : Bool := c == '"' || c == '\''

/-- A value without the blanks and quotes around it. -/
def stripValue (value : List Char) : List Char :=
  Text.trimChars (Text.stripWhile isQuote (Text.trimChars value))

/-- What the lines give for a key: the value of the first line that defines it, unless that is
empty. -/
def valueIn? (key : List Char) : List (List Char) → Option (List Char)
  | [] => none
  | line :: lines =>
    match definition? line with
    | some (name, value) =>
      if name = key then
        if (stripValue value).isEmpty then none else some (stripValue value)
      else valueIn? key lines
    | none => valueIn? key lines

/-- The value of a key in the text of a file. -/
def value? (content key : String) : Option String :=
  (valueIn? key.toList (Text.lines content.toList)).map String.ofList

/-- The command that shows a file. -/
def showCommand (path : String) : String :=
  "cat " ++ Shell.quotePath path

variable {m : Type → Type} [Monad m]

/-- The failure of a file that does not define a key. -/
def missing (path key : String) : Failure :=
  (Cause.missingKey key (some path)).failure.withHint
    ("Add " ++ key ++ "=<value> to " ++ path ++ " on the remote host")

/-- Fetch the value of a key from a file on the remote host. -/
def resolve (session : Remote.Session m) (path key : String) : ExceptT Failure m String := do
  let content ← session.run (showCommand path)
  match value? content key with
  | some value => return value
  | none => throw (missing path key)

end Shipyard.Secret
