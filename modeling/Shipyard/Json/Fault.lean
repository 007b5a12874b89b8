import Shipyard.Json.Draft
import Shipyard.Text.Quoted

/-!
# Faults in documents

Why a document could not be taken for a value of some type, and the wording of it.
-/

namespace Shipyard.Json

/-- What stood in a document where something else was expected. -/
inductive Found where
  | null
  | bool (value : Bool)
  | integer (value : Int)
  | decimal (value : Decimal.Binary64)
  | text (value : String)
  | sequence
  | map
  deriving DecidableEq, Repr

/-- How a thing found is named. -/
def Found.describe : Found → String
  | .null => "null"
  | .bool true => "boolean `true`"
  | .bool false => "boolean `false`"
  | .integer i => "integer `" ++ (Number.integer i).toText ++ "`"
  | .decimal x => "floating point `" ++ x.toText ++ "`"
  | .text s => "string " ++ Text.quoted s
  | .sequence => "sequence"
  | .map => "map"

/-- A fault in a document. -/
inductive Fault where
  /-- The text is not JSON. -/
  | malformed
  | missingField (name : String)
  | duplicateField (name : String)
  | invalidType (found : Found) (expected : String)
  | invalidValue (found : Found) (expected : String)
  | invalidLength (length : Nat) (expected : String)
  | unknownVariant (name : String) (known : List String)
  deriving DecidableEq, Repr

/-- The names one of which was expected. -/
def expectedNames : List String → String
  | [a] => "`" ++ a ++ "`"
  | [a, b] => "`" ++ a ++ "` or `" ++ b ++ "`"
  | names => "one of " ++ String.intercalate ", " (names.map fun name => "`" ++ name ++ "`")

/-- The wording of a fault. -/
def Fault.message : Fault → String
  | .malformed => "syntax"
  | .missingField name => "missing field `" ++ name ++ "`"
  | .duplicateField name => "duplicate field `" ++ name ++ "`"
  | .invalidType found expected => "invalid type: " ++ found.describe ++ ", expected " ++ expected
  | .invalidValue found expected => "invalid value: " ++ found.describe ++ ", expected " ++ expected
  | .invalidLength length expected =>
    "invalid length " ++ toString length ++ ", expected " ++ expected
  | .unknownVariant name known =>
    "unknown variant `" ++ name ++ "`, expected " ++ expectedNames known

/-- The fault of a draft that stands where `expected` should. An array or object is refused at its
bracket, whatever is in it. -/
def Draft.mismatch (expected : String) : Draft → Fault
  | .null => .invalidType .null expected
  | .bool b => .invalidType (.bool b) expected
  | .number (some (.integer i)) => .invalidType (.integer i) expected
  | .number (some (.decimal x)) => .invalidType (.decimal x) expected
  | .number none => .malformed
  | .text (some s) => .invalidType (.text s) expected
  | .text none => .malformed
  | .array _ _ => .invalidType .sequence expected
  | .object _ _ => .invalidType .map expected
  | .broken => .malformed

end Shipyard.Json
