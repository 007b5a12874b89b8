import Shipyard.Decimal.Shortest
import Shipyard.Text.Dictionary

/-!
# JSON values

A JSON number is an integer of at most 64 bits or a binary64 number; which of the two it is can be
seen, `1` and `1.0` are different values. The members of an object stand in the order in which they
are written; a document that is read gives them in the order of their keys.
-/

namespace Shipyard

/-- A JSON number. -/
inductive Json.Number where
  | integer (value : Int)
  | decimal (value : Decimal.Binary64)
  deriving DecidableEq, Repr

/-- A JSON value. -/
inductive Json where
  | null
  | bool (value : Bool)
  | number (value : Json.Number)
  | text (value : String)
  | array (items : List Json)
  | object (members : List (String × Json))
  deriving Repr

namespace Json

instance : Inhabited Json := ⟨.null⟩

mutual

/-- Whether two values are the same: kinds, order of items and members, and numbers as written. -/
def same : Json → Json → Bool
  | .null, .null => true
  | .bool a, .bool b => a == b
  | .number a, .number b => a == b
  | .text a, .text b => a == b
  | .array as, .array bs => sameItems as bs
  | .object as, .object bs => sameMembers as bs
  | _, _ => false

/-- Whether two lists of items are the same. -/
def sameItems : List Json → List Json → Bool
  | [], [] => true
  | a :: as, b :: bs => same a b && sameItems as bs
  | _, _ => false

/-- Whether two lists of members are the same. -/
def sameMembers : List (String × Json) → List (String × Json) → Bool
  | [], [] => true
  | (k, a) :: as, (l, b) :: bs => k == l && same a b && sameMembers as bs
  | _, _ => false

end

mutual

theorem eq_of_same : ∀ {a b : Json}, same a b = true → a = b
  | .null, .null, _ => rfl
  | .bool _, .bool _, h => by simpa [same] using h
  | .number _, .number _, h => by simpa [same] using h
  | .text _, .text _, h => by simpa [same] using h
  | .array _, .array _, h => by simpa [same] using eq_of_sameItems (by simpa [same] using h)
  | .object _, .object _, h => by simpa [same] using eq_of_sameMembers (by simpa [same] using h)

theorem eq_of_sameItems : ∀ {as bs : List Json}, sameItems as bs = true → as = bs
  | [], [], _ => rfl
  | _ :: _, _ :: _, h => by
    simp only [sameItems, Bool.and_eq_true] at h
    rw [eq_of_same h.1, eq_of_sameItems h.2]

theorem eq_of_sameMembers :
    ∀ {as bs : List (String × Json)}, sameMembers as bs = true → as = bs
  | [], [], _ => rfl
  | (_, _) :: _, (_, _) :: _, h => by
    simp only [sameMembers, Bool.and_eq_true, beq_iff_eq] at h
    rw [h.1.1, eq_of_same h.1.2, eq_of_sameMembers h.2]

end

mutual

theorem same_self : ∀ a : Json, same a a = true
  | .null => rfl
  | .bool _ => by simp [same]
  | .number _ => by simp [same]
  | .text _ => by simp [same]
  | .array as => by simpa [same] using sameItems_self as
  | .object as => by simpa [same] using sameMembers_self as

theorem sameItems_self : ∀ as : List Json, sameItems as as = true
  | [] => rfl
  | a :: as => by simp [sameItems, same_self a, sameItems_self as]

theorem sameMembers_self : ∀ as : List (String × Json), sameMembers as as = true
  | [] => rfl
  | (_, a) :: as => by simp [sameMembers, same_self a, sameMembers_self as]

end

instance : DecidableEq Json := fun a b =>
  if h : same a b = true then isTrue (eq_of_same h)
  else isFalse fun e => h (e ▸ same_self a)

/-- The value of a member of an object; `none` for other values and absent members. -/
def member? (name : String) : Json → Option Json
  | .object members => (members.find? (·.1 == name)).map (·.2)
  | _ => none

/-- The text of a text value. -/
def text? : Json → Option String
  | .text s => some s
  | _ => none

/-- A natural number as a value. -/
def ofNat (n : Nat) : Json := .number (.integer n)

/-- An integer as a value. -/
def ofInt (i : Int) : Json := .number (.integer i)

/-- A list of texts as a value. -/
def ofTexts (texts : List String) : Json := .array (texts.map .text)

/-- A text if there is one, and null otherwise. -/
def ofText? : Option String → Json
  | some s => .text s
  | none => .null

/-- A member, if there is a value for it. -/
def optional (name : String) (value : Option Json) : List (String × Json) :=
  (value.map fun v => (name, v)).toList

namespace Number

/-- The number as text. -/
def toText : Number → String
  | .integer i => String.ofList ((if i < 0 then ['-'] else []) ++ Nat.toDigits 10 i.natAbs)
  | .decimal x => x.toText

/-- The number as a binary64 number. -/
def toBinary64 : Number → Decimal.Binary64
  | .integer i => Decimal.Binary64.ofInt i
  | .decimal x => x

end Number

end Json

end Shipyard
