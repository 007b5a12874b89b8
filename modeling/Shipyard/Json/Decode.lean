import Shipyard.Json.Fault

/-!
# Taking values of a type out of a document

A decoder takes a draft for a value of some type or reports the first fault in the order of the
document. Records are described by their slots, one to a field. A record may be written as an
object or as an array of its fields in the order of the slots; fields that are not known are
passed over if they follow the grammar.
-/

namespace Shipyard.Json

/-- A reader of values of one type. -/
abbrev Decoder (α : Type) : Type := Draft → Except Fault α

/-- Read a whole text with a decoder: its faults come first, then what is wrong behind the value. -/
def decodeText {α : Type} (decode : Decoder α) (text : String) : Except Fault α := do
  let document := Document.read text
  let value ← decode document.content
  if document.ended then pure value else throw .malformed

namespace Decode

variable {α β : Type}

/-- A text. -/
def text : Decoder String
  | .text (some s) => .ok s
  | draft => .error (draft.mismatch "a string")

/-- A value, or `none` for null. -/
def optional (decode : Decoder α) : Decoder (Option α)
  | .null => .ok none
  | draft => (decode draft).map some

/-- A natural number below `bound`, of a type that is called `type`. -/
def natural (bound : Nat) (type : String) : Decoder Nat
  | .number (some (.integer i)) =>
    if 0 ≤ i ∧ i < bound then .ok i.toNat else .error (.invalidValue (.integer i) type)
  | draft => .error (draft.mismatch type)

/-- A number of 16 bits. -/
def natural16 : Decoder Nat := natural 65536 "u16"

/-- A number of 32 bits. -/
def natural32 : Decoder Nat := natural 4294967296 "u32"

/-- A number of 64 bits. -/
def natural64 : Decoder Nat := natural 18446744073709551616 "u64"

/-- A value of any kind with at most `room` arrays and objects inside one another. -/
def any (room : Nat) : Decoder Json := fun draft =>
  match draft.toJson? room with
  | some value => .ok value
  | none => .error .malformed

/-- Decode the items of an array in order. -/
def items (decode : Decoder α) : List Draft → Except Fault (List α)
  | [] => .ok []
  | draft :: drafts => do
    let value ← decode draft
    let values ← items decode drafts
    return value :: values

/-- The values of an array. -/
def list (decode : Decoder α) : Decoder (List α)
  | .array drafts closed => do
    let values ← items decode drafts
    if closed then pure values else throw .malformed
  | draft => .error (draft.mismatch "a sequence")

/-- A key of an object. -/
def key : Decoder String
  | .text (some name) => .ok name
  | _ => .error .malformed

/-- Decode the members of a map from texts to texts in order. -/
def textMembers : List (Draft × Draft) → Except Fault (List (String × String))
  | [] => .ok []
  | (k, v) :: members => do
    let name ← key k
    let value ← text v
    let entries ← textMembers members
    return (name, value) :: entries

/-- A map from texts to texts; of several values under one key the last stays. -/
def textMap : Decoder (Dictionary String)
  | .object members closed => do
    let entries ← textMembers members
    if closed then pure (Dictionary.ofEntries entries) else throw .malformed
  | draft => .error (draft.mismatch "a map")

/-- The alternative of a name. -/
def named (variants : List (String × α)) (name : String) : Except Fault α :=
  match variants.find? (·.1 == name) with
  | some variant => .ok variant.2
  | none => .error (.unknownVariant name (variants.map (·.1)))

/-- The alternative whose name stands as a text. -/
def identifier (variants : List (String × α)) : Decoder α
  | .text (some name) => named variants name
  | draft => .error (draft.mismatch "variant identifier")

/-- One of several named alternatives: its name, or an object with null under its name. -/
def choice (variants : List (String × α)) : Decoder α
  | .text (some name) => named variants name
  | .object ((k, v) :: members) closed => do
    let value ← identifier variants k
    match v with
    | .null => if members.isEmpty && closed then pure value else throw .malformed
    | draft => throw (draft.mismatch "unit")
  | _ => .error .malformed

/-- A field of a record of type `α`. -/
structure Slot (α : Type) where
  name : String
  /-- Whether the record is refused without this field. -/
  required : Bool
  /-- Decode a value and put it into the record. -/
  fill : Draft → α → Except Fault α

/-- A field that has to be there. -/
def Slot.must (name : String) (decode : Decoder β) (set : β → α → α) : Slot α :=
  ⟨name, true, fun draft record => (decode draft).map (set · record)⟩

/-- A field that may be left out. -/
def Slot.may (name : String) (decode : Decoder β) (set : β → α → α) : Slot α :=
  ⟨name, false, fun draft record => (decode draft).map (set · record)⟩

/-- Fill a record from members in order; the record and the names of the fields that were filled. -/
def fillMembers (slots : List (Slot α)) :
    List (Draft × Draft) → List String → α → Except Fault (α × List String)
  | [], seen, record => .ok (record, seen)
  | (k, v) :: members, seen, record => do
    let name ← key k
    match slots.find? (·.name == name) with
    | some slot =>
      if seen.contains name then throw (.duplicateField name)
      else
        let record ← slot.fill v record
        fillMembers slots members (name :: seen) record
    | none => if v.isWhole then fillMembers slots members seen record else throw .malformed

/-- Fill a record from the members of an object that is read to its end. -/
def fromMembers (slots : List (Slot α)) (start : α) (members : List (Draft × Draft))
    (closed : Bool) : Except Fault α := do
  let (record, seen) ← fillMembers slots members [] start
  if closed then
    match slots.find? fun slot => slot.required && !seen.contains slot.name with
    | some slot => throw (.missingField slot.name)
    | none => pure record
  else throw .malformed

/-- A number of elements in words. -/
def elementCount (n : Nat) : String :=
  if n = 1 then "1 element" else toString n ++ " elements"

/-- Fill a record from items in the order of its slots, of which `done` are filled already; the
items that are left. -/
def fillItems (type : String) (total : Nat) (closed : Bool) :
    List (Slot α) → Nat → List Draft → α → Except Fault (α × List Draft)
  | [], _, drafts, record => .ok (record, drafts)
  | slot :: slots, done, draft :: drafts, record => do
    let record ← slot.fill draft record
    fillItems type total closed slots (done + 1) drafts record
  | slot :: slots, done, [], record =>
    if closed then
      if slot.required then .error (.invalidLength done (type ++ " with " ++ elementCount total))
      else fillItems type total closed slots (done + 1) [] record
    else .error .malformed

/-- A record that is called `type`, with the values of `start` in the fields that are left out. -/
def record (type : String) (slots : List (Slot α)) (start : α) : Decoder α
  | .object members closed => fromMembers slots start members closed
  | .array drafts closed => do
    let (value, rest) ← fillItems type slots.length closed slots 0 drafts start
    if rest.isEmpty && closed then pure value else throw .malformed
  | draft => .error (draft.mismatch type)

/-- An alternative of a tagged type: its tag, what it is called, its slots and the values its fields
start from. -/
structure Alternative (α : Type) where
  tag : String
  type : String
  slots : List (Slot α)
  start : α

/-- The tag among the members of an object, and the other members. The tag is decoded where it
stands, the others have to be values with at most `room` arrays and objects inside one another. -/
def splitTag (tag : String) (variants : List (String × β)) (room : Nat) :
    List (Draft × Draft) → Option β → Except Fault (Option β × List (Draft × Draft))
  | [], found => .ok (found, [])
  | (k, v) :: members, found => do
    let name ← key k
    if name == tag then
      match found with
      | some _ => throw (.duplicateField tag)
      | none =>
        let variant ← identifier variants v
        splitTag tag variants room members (some variant)
    else
      let _ ← any room v
      let (found, others) ← splitTag tag variants room members found
      return (found, (k, v) :: others)

/-- A value of a tagged type: an object whose member `tag` tells the alternative, or an array that
begins with the tag. At most `room` arrays and objects may stand inside one another. -/
def tagged (tag type : String) (alternatives : List (Alternative α)) (room : Nat) : Decoder α
  | .object members closed => do
    let variants := alternatives.map fun a => (a.tag, a)
    let (found, others) ← splitTag tag variants (room - 1) members none
    if closed then
      match found with
      | none => throw (.missingField tag)
      | some a => fromMembers a.slots a.start others true
    else throw .malformed
  | .array drafts closed => do
    let variants := alternatives.map fun a => (a.tag, a)
    match drafts with
    | [] => if closed then throw (.missingField tag) else throw .malformed
    | first :: rest =>
      let a ← identifier variants first
      let _ ← items (any (room - 1)) rest
      if closed then
        let (value, left) ← fillItems a.type a.slots.length true a.slots 0 rest a.start
        if left.isEmpty then pure value
        else throw (.invalidLength rest.length (elementCount a.slots.length ++ " in sequence"))
      else throw .malformed
  | draft => .error (draft.mismatch type)

end Decode

end Shipyard.Json
