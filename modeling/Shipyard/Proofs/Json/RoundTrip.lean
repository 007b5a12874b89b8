import Shipyard.Proofs.Json.Escape
import Shipyard.Proofs.Json.Number
import Shipyard.Proofs.Text.Dictionary

/-!
# Reading what was written

A value without decimals is read back from its text on one line: reading gives the draft that
mirrors the value, and taking the value out of that draft gives the value again if its members stand
in the order of their keys and it is not nested too deep.

The induction follows the writing: one statement for values, one for the items of an array and one
for the members of an object. The fuel of the reader is twice the number of characters, which the
commas and brackets in between pay for.
-/

namespace Shipyard.Json

/-! ## Words -/

/-- A word is read in front of anything. -/
lemma readWord_append (word : String) (value : Draft) (rest : List Char) :
    readWord word value (word.toList ++ rest) = (value, some rest) := by
  unfold readWord
  rw [if_pos (List.isPrefixOf_iff_prefix.mpr (List.prefix_append _ _)), List.drop_left]

/-! ## Values -/

mutual

/-- Every number in a value is an integer that fits 64 bits. -/
def Integral : Json → Prop
  | .number (.integer i) => Fits64 i
  | .number (.decimal _) => False
  | .array items => ItemsIntegral items
  | .object members => MembersIntegral members
  | _ => True

/-- Every number in items is an integer that fits 64 bits. -/
def ItemsIntegral : List Json → Prop
  | [] => True
  | item :: items => Integral item ∧ ItemsIntegral items

/-- Every number in members is an integer that fits 64 bits. -/
def MembersIntegral : List (String × Json) → Prop
  | [] => True
  | (_, value) :: members => Integral value ∧ MembersIntegral members

end

mutual

/-- What is read of a value that was written. -/
def toDraft : Json → Draft
  | .null => .null
  | .bool b => .bool b
  | .number n => .number (some n)
  | .text s => .text (some s)
  | .array items => .array (itemsToDraft items) true
  | .object members => .object (membersToDraft members) true

/-- What is read of items that were written. -/
def itemsToDraft : List Json → List Draft
  | [] => []
  | item :: items => toDraft item :: itemsToDraft items

/-- What is read of members that were written. -/
def membersToDraft : List (String × Json) → List (Draft × Draft)
  | [] => []
  | (key, value) :: members => (.text (some key), toDraft value) :: membersToDraft members

end

/-- A character with which a number may begin. -/
def BeginsNumber (c : Char) : Prop := c.isDigit = true ∨ c = '-'

/-- A number begins with no other character than a digit or a minus sign. -/
lemma BeginsNumber.ne {c d : Char} (h : BeginsNumber c) (hdigit : d.isDigit = false)
    (hminus : d ≠ '-') : c ≠ d := by
  rintro rfl
  rcases h with h | h
  · rw [hdigit] at h
    cases h
  · exact hminus h

/-- A number does not begin with a gap. -/
lemma BeginsNumber.isGap_eq_false {c : Char} (h : BeginsNumber c) : isGap c = false := by
  simp only [isGap, Bool.or_eq_false_iff, beq_eq_false_iff_ne]
  exact ⟨⟨⟨h.ne (by decide) (by decide), h.ne (by decide) (by decide)⟩,
    h.ne (by decide) (by decide)⟩, h.ne (by decide) (by decide)⟩

/-- What is written for an integer begins as a number does. -/
lemma exists_toText_eq_cons (i : Int) :
    ∃ c cs, (Number.integer i).toText.toList = c :: cs ∧ BeginsNumber c := by
  rw [toList_toText_integer]
  by_cases hneg : i < 0
  · rw [if_pos hneg]
    exact ⟨'-', _, rfl, Or.inr rfl⟩
  · rw [if_neg hneg, List.nil_append]
    obtain ⟨d, ds, hdigits⟩ := List.exists_cons_of_ne_nil (Nat.toDigits_ne_nil (n := i.natAbs))
    exact ⟨d, ds, hdigits, Or.inl (isDigit_of_mem_toDigits (hdigits ▸ List.mem_cons_self))⟩

/-- What is written for a value begins with a character that is no gap and closes no array. -/
lemma exists_compactChars_eq_cons {v : Json} (hv : v.Integral) :
    ∃ c cs, compactChars v = c :: cs ∧ isGap c = false ∧ c ≠ ']' := by
  cases v with
  | null => exact ⟨'n', _, rfl, by decide, by decide⟩
  | bool b =>
    cases b with
    | true => exact ⟨'t', _, rfl, by decide, by decide⟩
    | false => exact ⟨'f', _, rfl, by decide, by decide⟩
  | number n =>
    cases n with
    | integer i =>
      obtain ⟨c, cs, hchars, hc⟩ := exists_toText_eq_cons i
      exact ⟨c, cs, hchars, hc.isGap_eq_false, hc.ne (by decide) (by decide)⟩
    | decimal x => exact absurd hv id
  | text s => exact ⟨'"', _, rfl, by decide, by decide⟩
  | array items => exact ⟨'[', _, rfl, by decide, by decide⟩
  | object members => exact ⟨'{', _, rfl, by decide, by decide⟩

/-- There is no gap in front of a character that is none. -/
lemma skipGap_cons {c : Char} (hc : isGap c = false) (cs : List Char) :
    skipGap (c :: cs) = c :: cs :=
  List.dropWhile_cons_of_neg (by simp [hc])

/-- A value that begins as a number does is read as a number. -/
lemma readValue_number {c : Char} (hc : BeginsNumber c) (fuel : Nat) (cs : List Char) :
    readValue (fuel + 1) (c :: cs) = readNumber (c :: cs) := by
  rw [readValue, skipGap_cons hc.isGap_eq_false]
  split
  case h_1 h => cases h
  case h_2 h => exact absurd (List.cons.inj h).1 (hc.ne (by decide) (by decide))
  case h_3 h => exact absurd (List.cons.inj h).1 (hc.ne (by decide) (by decide))
  case h_4 h => exact absurd (List.cons.inj h).1 (hc.ne (by decide) (by decide))
  case h_5 h => exact absurd (List.cons.inj h).1 (hc.ne (by decide) (by decide))
  case h_6 h => exact absurd (List.cons.inj h).1 (hc.ne (by decide) (by decide))
  case h_7 h => exact absurd (List.cons.inj h).1 (hc.ne (by decide) (by decide))
  case h_8 => rfl

/-- An array with items is read as its items. -/
lemma readValue_array {c : Char} (hgap : isGap c = false) (hclose : c ≠ ']') (fuel : Nat)
    (cs : List Char) :
    readValue (fuel + 1) ('[' :: c :: cs) =
      (.array (readItems fuel (c :: cs)).1 (readItems fuel (c :: cs)).2.isSome,
        (readItems fuel (c :: cs)).2) := by
  rw [readValue, skipGap_cons (by decide)]
  simp only [skipGap_cons hgap]
  split
  · rename_i h
    exact absurd (List.cons.inj h).1 hclose
  · rfl

/-- An object with members is read as its members. -/
lemma readValue_object (fuel : Nat) (cs : List Char) :
    readValue (fuel + 1) ('{' :: '"' :: cs) =
      (.object (readMembers fuel ('"' :: cs)).1 (readMembers fuel ('"' :: cs)).2.isSome,
        (readMembers fuel ('"' :: cs)).2) := by
  rw [readValue, skipGap_cons (by decide)]
  rfl

/-- A text is read between its quotes. -/
lemma readValue_quoteChars (s : String) (fuel : Nat) (rest : List Char) :
    readValue (fuel + 1) (quoteChars s ++ rest) = (.text (some s), some rest) := by
  rw [quoteChars, List.append_assoc, List.singleton_append]
  exact readText_escaped s rest

/-- What is written for an array, in front of anything. -/
lemma compactChars_array_append (items : List Json) (rest : List Char) :
    compactChars (.array items) ++ rest = '[' :: (compactItems items ++ ']' :: rest) := by
  rw [compactChars, List.cons_append, List.cons_append, List.append_assoc, List.singleton_append]

/-- What is written for an object, in front of anything. -/
lemma compactChars_object_append (members : List (String × Json)) (rest : List Char) :
    compactChars (.object members) ++ rest = '{' :: (compactMembers members ++ '}' :: rest) := by
  rw [compactChars, List.cons_append, List.cons_append, List.append_assoc, List.singleton_append]

/-- What is written for members begins with a quote. -/
lemma exists_compactMembers_eq_cons (member : String × Json) (members : List (String × Json)) :
    ∃ cs, compactMembers (member :: members) = '"' :: cs := by
  cases members with
  | nil => exact ⟨_, rfl⟩
  | cons next members => exact ⟨_, rfl⟩

/-- What is written for items begins with what is written for the first of them. -/
lemma exists_compactItems_eq_append (item : Json) (items : List Json) :
    ∃ cs, compactItems (item :: items) = compactChars item ++ cs := by
  cases items with
  | nil => exact ⟨[], (List.append_nil _).symm⟩
  | cons next items => exact ⟨_, rfl⟩

mutual

/-- A value is read back from what is written for it, whatever stands behind, as long as that cannot
be taken for more of a number. The fuel is twice the number of characters. -/
theorem readValue_compactChars : ∀ (v : Json) (fuel : Nat) (rest : List Char), v.Integral →
    2 * (compactChars v).length ≤ fuel → EndsNumber rest →
    readValue fuel (compactChars v ++ rest) = (v.toDraft, some rest)
  | v, 0, rest, hv, hfuel, _ => by
    obtain ⟨c, cs, hchars, -⟩ := exists_compactChars_eq_cons hv
    rw [hchars, List.length_cons] at hfuel
    omega
  | .null, fuel + 1, rest, _, _, _ => readWord_append "ull" .null rest
  | .bool true, fuel + 1, rest, _, _, _ => readWord_append "rue" (.bool true) rest
  | .bool false, fuel + 1, rest, _, _, _ => readWord_append "alse" (.bool false) rest
  | .number (.integer i), fuel + 1, rest, hv, _, hrest => by
    obtain ⟨c, cs, hchars, hc⟩ := exists_toText_eq_cons i
    have hread := readNumber_toText hv hrest
    rw [hchars, List.cons_append] at hread
    rw [compactChars, hchars, List.cons_append, readValue_number hc, hread]
    rfl
  | .number (.decimal _), _, _, hv, _, _ => absurd hv id
  | .text s, fuel + 1, rest, _, _, _ => readValue_quoteChars s fuel rest
  | .array [], fuel + 1, rest, _, _, _ => rfl
  | .array (item :: items), fuel + 1, rest, hv, hfuel, _ => by
    have hlength : 2 * (compactItems (item :: items)).length < fuel := by
      simp only [compactChars, List.length_append, List.length_cons] at hfuel
      omega
    have hitems := readItems_compactItems item items fuel rest hv hlength
    obtain ⟨c, cs, hchars, hgap, hclose⟩ := exists_compactChars_eq_cons hv.1
    obtain ⟨more, hmore⟩ := exists_compactItems_eq_append item items
    rw [hmore, hchars, List.cons_append, List.cons_append] at hitems
    rw [compactChars_array_append, hmore, hchars, List.cons_append, List.cons_append,
      readValue_array hgap hclose, hitems]
    rfl
  | .object [], fuel + 1, rest, _, _, _ => rfl
  | .object (member :: members), fuel + 1, rest, hv, hfuel, _ => by
    have hlength : 2 * (compactMembers (member :: members)).length < fuel := by
      simp only [compactChars, List.length_append, List.length_cons] at hfuel
      omega
    have hmembers := readMembers_compactMembers member members fuel rest hv hlength
    obtain ⟨cs, hchars⟩ := exists_compactMembers_eq_cons member members
    rw [hchars, List.cons_append] at hmembers
    rw [compactChars_object_append, hchars, List.cons_append, readValue_object, hmembers]
    rfl

/-- Items are read back from what is written for them in front of a closing bracket. -/
theorem readItems_compactItems : ∀ (item : Json) (items : List Json) (fuel : Nat)
    (rest : List Char), ItemsIntegral (item :: items) →
    2 * (compactItems (item :: items)).length < fuel →
    readItems fuel (compactItems (item :: items) ++ ']' :: rest) =
      (itemsToDraft (item :: items), some rest)
  | _, _, 0, _, _, hfuel => absurd hfuel (Nat.not_lt_zero _)
  | item, [], fuel + 1, rest, hitems, hfuel => by
    have hread := readValue_compactChars item fuel (']' :: rest) hitems.1
      (by rw [compactItems] at hfuel; omega) (endsNumber_cons (by decide) _)
    rw [compactItems, readItems, hread]
    rfl
  | item, next :: items, fuel + 1, rest, hitems, hfuel => by
    simp only [compactItems, List.length_append, List.length_cons] at hfuel
    have hread := readValue_compactChars item fuel
      (',' :: (compactItems (next :: items) ++ ']' :: rest)) hitems.1 (by omega)
      (endsNumber_cons (by decide) _)
    have hmore := readItems_compactItems next items fuel rest hitems.2 (by omega)
    rw [compactItems, List.append_assoc, List.cons_append, readItems, hread]
    · simp only [skipGap_cons (show isGap ',' = false by decide), hmore]
      rfl
    · exact List.cons_ne_nil _ _

/-- Members are read back from what is written for them in front of a closing brace. -/
theorem readMembers_compactMembers : ∀ (member : String × Json) (members : List (String × Json))
    (fuel : Nat) (rest : List Char), MembersIntegral (member :: members) →
    2 * (compactMembers (member :: members)).length < fuel →
    readMembers fuel (compactMembers (member :: members) ++ '}' :: rest) =
      (membersToDraft (member :: members), some rest)
  | _, _, 0, _, _, hfuel => absurd hfuel (Nat.not_lt_zero _)
  | (key, value), [], fuel + 1, rest, hmembers, hfuel => by
    simp only [compactMembers, List.length_append, List.length_cons] at hfuel
    obtain ⟨fuel, rfl⟩ : ∃ k, fuel = k + 1 := ⟨fuel - 1, by omega⟩
    have hread := readValue_compactChars value (fuel + 1) ('}' :: rest) hmembers.1 (by omega)
      (endsNumber_cons (by decide) _)
    rw [compactMembers, List.append_assoc, List.cons_append, readMembers, readValue_quoteChars]
    simp only [skipGap_cons (show isGap ':' = false by decide), hread]
    rfl
  | (key, value), next :: members, fuel + 1, rest, hmembers, hfuel => by
    simp only [compactMembers, List.length_append, List.length_cons] at hfuel
    obtain ⟨fuel, rfl⟩ : ∃ k, fuel = k + 1 := ⟨fuel - 1, by omega⟩
    have hread := readValue_compactChars value (fuel + 1)
      (',' :: (compactMembers (next :: members) ++ '}' :: rest)) hmembers.1 (by omega)
      (endsNumber_cons (by decide) _)
    have hmore := readMembers_compactMembers next members (fuel + 1) rest hmembers.2 (by omega)
    rw [compactMembers, List.append_assoc, List.cons_append, List.append_assoc, readMembers,
      readValue_quoteChars]
    · simp only [skipGap_cons (show isGap ':' = false by decide), List.cons_append, hread,
        skipGap_cons (show isGap ',' = false by decide), hmore]
      rfl
    · exact List.cons_ne_nil _ _

end

/-- A document is read back from the text of its value. -/
theorem read_compact {v : Json} (hv : v.Integral) : Document.read v.compact = ⟨v.toDraft, true⟩ := by
  have hread := readValue_compactChars v (2 * (compactChars v).length + 2) [] hv (by omega)
    endsNumber_nil
  rw [List.append_nil] at hread
  rw [Document.read, compact, String.toList_ofList]
  simp only [hread]
  rfl

/-! ## Values in the order of their keys -/

mutual

/-- A value in which the keys of every object are strictly ascending and at most `room` arrays and
objects stand inside one another. -/
def Canonical : Nat → Json → Prop
  | room + 1, .array items => ItemsCanonical room items
  | room + 1, .object members => Dictionary.Ascending members ∧ MembersCanonical room members
  | 0, .array _ => False
  | 0, .object _ => False
  | _, _ => True

/-- Items that are all canonical. -/
def ItemsCanonical (room : Nat) : List Json → Prop
  | [] => True
  | item :: items => Canonical room item ∧ ItemsCanonical room items

/-- Members whose values are all canonical. -/
def MembersCanonical (room : Nat) : List (String × Json) → Prop
  | [] => True
  | (_, value) :: members => Canonical room value ∧ MembersCanonical room members

end

mutual

/-- A canonical value is taken out of the draft that mirrors it. -/
theorem toJson?_toDraft : ∀ {room : Nat} {v : Json}, Canonical room v →
    v.toDraft.toJson? room = some v
  | _, .null, _ => rfl
  | _, .bool _, _ => rfl
  | _, .number _, _ => rfl
  | _, .text _, _ => rfl
  | 0, .array _, h => absurd h id
  | 0, .object _, h => absurd h id
  | room + 1, .array items, h => by
    rw [toDraft, Draft.toJson?, itemsToJson?_itemsToDraft h, Option.map_some]
  | room + 1, .object members, h => by
    rw [toDraft, Draft.toJson?, membersToJson?_membersToDraft h.2, Option.map_some,
      Dictionary.ofEntries_of_ascending h.1]

/-- Canonical items are taken out of the drafts that mirror them. -/
theorem itemsToJson?_itemsToDraft : ∀ {room : Nat} {items : List Json}, ItemsCanonical room items →
    Draft.itemsToJson? room (itemsToDraft items) = some items
  | _, [], _ => rfl
  | room, item :: items, h => by
    rw [itemsToDraft, Draft.itemsToJson?, toJson?_toDraft h.1, itemsToJson?_itemsToDraft h.2]
    rfl

/-- Members with canonical values are taken out of the drafts that mirror them. -/
theorem membersToJson?_membersToDraft : ∀ {room : Nat} {members : List (String × Json)},
    MembersCanonical room members →
    Draft.membersToJson? room (membersToDraft members) = some members
  | _, [], _ => rfl
  | room, (key, value) :: members, h => by
    rw [membersToDraft, Draft.membersToJson?, toJson?_toDraft h.1,
      membersToJson?_membersToDraft h.2]
    rfl

end

/-- A canonical value without decimals is read back from its text. -/
theorem parse?_compact {v : Json} (hv : v.Integral) (hcanonical : Canonical depthLimit v) :
    parse? v.compact = some v := by
  rw [parse?, read_compact hv]
  exact toJson?_toDraft hcanonical

end Shipyard.Json
