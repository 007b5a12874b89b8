import Shipyard.Proofs.Json.Members
import Shipyard.Proofs.Json.RoundTrip

/-!
# What is taken out of a document

A value that is taken out of a document stands in the order of its keys and is not nested too deep,
and its numbers are among those that were read. An integer that was read fits 64 bits: digits are
taken up no further, and what has more of them is kept as a decimal. So without decimals in it such
a value is one that is read back from its text.

Reading goes by fuel and not by the parts of what is read, so the first induction is on the fuel,
for values, items and members at once. The second one is on the draft.
-/

namespace Shipyard.Json

/-! ## Numbers in values and drafts -/

/-- A number that is kept as it is written: decimals always are, integers if they fit 64 bits. -/
def Number.Kept : Number → Prop
  | .integer i => Fits64 i
  | .decimal _ => True

mutual

/-- The numbers that stand in a value. -/
def numbers : Json → List Number
  | .number n => [n]
  | .array items => itemsNumbers items
  | .object members => membersNumbers members
  | _ => []

/-- The numbers that stand in items. -/
def itemsNumbers : List Json → List Number
  | [] => []
  | item :: items => numbers item ++ itemsNumbers items

/-- The numbers that stand in the values of members. -/
def membersNumbers : List (String × Json) → List Number
  | [] => []
  | (_, value) :: members => numbers value ++ membersNumbers members

end

mutual

/-- The numbers that are read in a draft. -/
def Draft.numbers : Draft → List Number
  | .number n => n.toList
  | .array items _ => Draft.itemsNumbers items
  | .object members _ => Draft.membersNumbers members
  | _ => []

/-- The numbers that are read in items. -/
def Draft.itemsNumbers : List Draft → List Number
  | [] => []
  | item :: items => Draft.numbers item ++ Draft.itemsNumbers items

/-- The numbers that are read in the values of members. -/
def Draft.membersNumbers : List (Draft × Draft) → List Number
  | [] => []
  | (_, value) :: members => Draft.numbers value ++ Draft.membersNumbers members

end

/-- A number stands in members exactly if it stands in the value of one of them. -/
lemma mem_membersNumbers_iff {n : Number} {members : List (String × Json)} :
    n ∈ membersNumbers members ↔ ∃ member ∈ members, n ∈ numbers member.2 := by
  induction members with
  | nil => simp [membersNumbers]
  | cons member members ih => simp [membersNumbers, ih]

/-- Members are canonical if the values of all of them are. -/
lemma membersCanonical_iff {room : Nat} {members : List (String × Json)} :
    MembersCanonical room members ↔ ∀ member ∈ members, Canonical room member.2 := by
  induction members with
  | nil => simp [MembersCanonical]
  | cons member members ih => simp [MembersCanonical, ih]

mutual

/-- A value without decimals whose integers are kept has only integers that fit 64 bits. -/
theorem integral_of_numbers : ∀ {v : Json}, (∀ n ∈ numbers v, n.Kept) →
    (∀ x, .decimal x ∉ numbers v) → v.Integral
  | .null, _, _ => trivial
  | .bool _, _, _ => trivial
  | .text _, _, _ => trivial
  | .number (.integer _), hkept, _ => hkept _ List.mem_cons_self
  | .number (.decimal x), _, hdecimal => absurd List.mem_cons_self (hdecimal x)
  | .array _, hkept, hdecimal => itemsIntegral_of_numbers hkept hdecimal
  | .object _, hkept, hdecimal => membersIntegral_of_numbers hkept hdecimal

/-- Items without decimals whose integers are kept have only integers that fit 64 bits. -/
theorem itemsIntegral_of_numbers : ∀ {items : List Json}, (∀ n ∈ itemsNumbers items, n.Kept) →
    (∀ x, .decimal x ∉ itemsNumbers items) → ItemsIntegral items
  | [], _, _ => trivial
  | item :: items, hkept, hdecimal => by
    rw [itemsNumbers, List.forall_mem_append] at hkept
    have hfirst : ∀ x, .decimal x ∉ numbers item := fun x hx =>
      hdecimal x (List.mem_append_left _ hx)
    have hlater : ∀ x, .decimal x ∉ itemsNumbers items := fun x hx =>
      hdecimal x (List.mem_append_right _ hx)
    exact ⟨integral_of_numbers hkept.1 hfirst, itemsIntegral_of_numbers hkept.2 hlater⟩

/-- Members without decimals whose integers are kept have only integers that fit 64 bits. -/
theorem membersIntegral_of_numbers : ∀ {members : List (String × Json)},
    (∀ n ∈ membersNumbers members, n.Kept) → (∀ x, .decimal x ∉ membersNumbers members) →
    MembersIntegral members
  | [], _, _ => trivial
  | (_, value) :: members, hkept, hdecimal => by
    rw [membersNumbers, List.forall_mem_append] at hkept
    have hfirst : ∀ x, .decimal x ∉ numbers value := fun x hx =>
      hdecimal x (List.mem_append_left _ hx)
    have hlater : ∀ x, .decimal x ∉ membersNumbers members := fun x hx =>
      hdecimal x (List.mem_append_right _ hx)
    exact ⟨integral_of_numbers hkept.1 hfirst, membersIntegral_of_numbers hkept.2 hlater⟩

end

/-! ## Numbers that are read -/

namespace Numeral

/-- Digits are not taken up beyond the limit. -/
lemma takeUp_le {n : Nat} (hn : n ≤ digitLimit) (digits : List Char) :
    (takeUp n digits).1 ≤ digitLimit := by
  induction digits generalizing n with
  | nil => exact hn
  | cons d ds ih =>
    rw [takeUp]
    split
    · exact ih ‹_›
    · exact hn

/-- An integer with a sign that is kept as one fits 64 bits. -/
lemma fits64_of_integer? {negative : Bool} {magnitude : Nat} {i : Int}
    (hmagnitude : magnitude ≤ digitLimit) (h : integer? negative magnitude = some i) :
    Fits64 i := by
  unfold digitLimit at hmagnitude
  unfold integer? at h
  unfold Fits64
  split at h
  · split at h
    · cases h
      omega
    · cases h
  · cases h
    omega

/-- What a numeral stands for is kept. -/
lemma kept_of_value? {numeral : Numeral} {n : Number} (h : numeral.value? = some n) : n.Kept := by
  have hdecimal : ∀ {digits : Nat} {power : Int},
      (Decimal.Binary64.ofDecimal? numeral.negative digits power).map Number.decimal = some n →
      n.Kept := by
    intro digits power hn
    obtain ⟨x, -, rfl⟩ := Option.map_eq_some_iff.mp hn
    trivial
  unfold value? at h
  dsimp only at h
  split at h
  · split at h
    · rename_i i _ hi
      cases h
      exact fits64_of_integer? (takeUp_le (Nat.zero_le _) _) hi
    · exact hdecimal h
  · exact hdecimal h
  · exact hdecimal h

end Numeral

/-- The numbers of a draft are kept. -/
def Draft.Kept (draft : Draft) : Prop := ∀ n ∈ draft.numbers, n.Kept

/-- The numbers of items are kept. -/
def Draft.ItemsKept (items : List Draft) : Prop := ∀ n ∈ Draft.itemsNumbers items, n.Kept

/-- The numbers in the values of members are kept. -/
def Draft.MembersKept (members : List (Draft × Draft)) : Prop :=
  ∀ n ∈ Draft.membersNumbers members, n.Kept

/-- Items are kept if the first of them and the others are. -/
lemma Draft.itemsKept_cons {item : Draft} {items : List Draft} :
    ItemsKept (item :: items) ↔ item.Kept ∧ ItemsKept items := by
  unfold ItemsKept
  rw [itemsNumbers, List.forall_mem_append]
  rfl

/-- Members are kept if the value of the first of them and the others are. -/
lemma Draft.membersKept_cons {key value : Draft} {members : List (Draft × Draft)} :
    MembersKept ((key, value) :: members) ↔ value.Kept ∧ MembersKept members := by
  unfold MembersKept
  rw [membersNumbers, List.forall_mem_append]
  rfl

/-- A draft without numbers is kept. -/
lemma Draft.kept_of_numbers_eq_nil {draft : Draft} (h : draft.numbers = []) : draft.Kept := by
  unfold Kept
  rw [h]
  exact List.forall_mem_nil _

/-- A number that is read is kept. -/
lemma readNumber_kept (cs : List Char) : (readNumber cs).1.Kept := by
  unfold readNumber
  split
  · intro n hn
    exact Numeral.kept_of_value? (Option.mem_toList.mp hn)
  · exact Draft.kept_of_numbers_eq_nil rfl

/-- There is no number in a text. -/
lemma readText_kept (cs : List Char) : (readText cs).1.Kept := by
  unfold readText
  split
  · exact Draft.kept_of_numbers_eq_nil rfl
  · exact Draft.kept_of_numbers_eq_nil rfl

/-- There is no number in a word that stands for something else. -/
lemma readWord_kept (word : String) {value : Draft} (h : value.numbers = []) (cs : List Char) :
    (readWord word value cs).1.Kept := by
  unfold readWord
  split
  · exact Draft.kept_of_numbers_eq_nil h
  · exact Draft.kept_of_numbers_eq_nil rfl

/-- Whatever the fuel is, the numbers that are read in a value, in items and in members are kept. -/
lemma read_kept (fuel : Nat) :
    (∀ cs, (readValue fuel cs).1.Kept) ∧ (∀ cs, Draft.ItemsKept (readItems fuel cs).1) ∧
      ∀ cs, Draft.MembersKept (readMembers fuel cs).1 := by
  induction fuel with
  | zero => exact ⟨fun _ => nofun, fun _ => nofun, fun _ => nofun⟩
  | succ fuel ih =>
    obtain ⟨hvalue, hitems, hmembers⟩ := ih
    have hno : Draft.ItemsKept [] ∧ Draft.MembersKept [] := ⟨nofun, nofun⟩
    refine ⟨fun cs => ?_, fun cs => ?_, fun cs => ?_⟩
    · rw [readValue]
      split
      · exact Draft.kept_of_numbers_eq_nil rfl
      · exact readText_kept _
      · split
        · exact Draft.kept_of_numbers_eq_nil rfl
        · exact hitems _
      · split
        · exact Draft.kept_of_numbers_eq_nil rfl
        · exact hmembers _
      · exact readWord_kept _ rfl _
      · exact readWord_kept _ rfl _
      · exact readWord_kept _ rfl _
      · exact readNumber_kept _
    · have hitem := hvalue cs
      rw [readItems]
      split
      · rename_i hread
        rw [hread] at hitem
        exact Draft.itemsKept_cons.mpr ⟨hitem, hno.1⟩
      · rename_i hread
        rw [hread] at hitem
        split
        · exact Draft.itemsKept_cons.mpr ⟨hitem, hitems _⟩
        · exact Draft.itemsKept_cons.mpr ⟨hitem, hno.1⟩
        · exact Draft.itemsKept_cons.mpr ⟨hitem, hno.1⟩
    · -- what stands in the place of a key does not count, only the value behind it
      have hbroken : Draft.broken.Kept := Draft.kept_of_numbers_eq_nil rfl
      rw [readMembers]
      split
      · split
        · rename_i later _
          have hmember := hvalue later
          split
          · rename_i hread
            rw [hread] at hmember
            exact Draft.membersKept_cons.mpr ⟨hmember, hno.2⟩
          · rename_i hread
            rw [hread] at hmember
            split
            · exact Draft.membersKept_cons.mpr ⟨hmember, hmembers _⟩
            · exact Draft.membersKept_cons.mpr ⟨hmember, hno.2⟩
            · exact Draft.membersKept_cons.mpr ⟨hmember, hno.2⟩
        · exact Draft.membersKept_cons.mpr ⟨hbroken, hno.2⟩
      · exact Draft.membersKept_cons.mpr ⟨hbroken, hno.2⟩

/-- The numbers of a document are kept. -/
lemma Document.read_kept (text : String) : (Document.read text).content.Kept := by
  have hvalue := (Json.read_kept (2 * text.toList.length + 2)).1 text.toList
  unfold Document.read
  dsimp only
  split
  · rename_i hread
    rwa [hread] at hvalue
  · rename_i hread
    rwa [hread] at hvalue

/-! ## Values that are taken out -/

/-! A value without items and members is canonical, however little room there is. -/

@[simp] lemma canonical_null (room : Nat) : Canonical room .null := by
  cases room <;> trivial

@[simp] lemma canonical_bool (room : Nat) (b : Bool) : Canonical room (.bool b) := by
  cases room <;> trivial

@[simp] lemma canonical_number (room : Nat) (n : Number) : Canonical room (.number n) := by
  cases room <;> trivial

@[simp] lemma canonical_text (room : Nat) (s : String) : Canonical room (.text s) := by
  cases room <;> trivial

mutual

/-- A value that is taken out of a draft is canonical, and its numbers are among those that were
read. -/
theorem taken_of_toJson? : ∀ {room : Nat} {draft : Draft} {v : Json},
    draft.toJson? room = some v → Canonical room v ∧ numbers v ⊆ draft.numbers
  | room, .null, _, h => by
    cases h
    exact ⟨canonical_null room, List.Subset.refl _⟩
  | room, .bool _, _, h => by
    cases h
    exact ⟨canonical_bool room _, List.Subset.refl _⟩
  | room, .number _, _, h => by
    obtain ⟨n, rfl, rfl⟩ := Option.map_eq_some_iff.mp h
    exact ⟨canonical_number room n, List.Subset.refl _⟩
  | room, .text _, _, h => by
    obtain ⟨s, rfl, rfl⟩ := Option.map_eq_some_iff.mp h
    exact ⟨canonical_text room s, List.Subset.refl _⟩
  | _, .broken, _, h => by cases h
  | 0, .array _ _, _, h => by cases h
  | room + 1, .array items false, _, h => by cases h
  | room + 1, .array items true, _, h => by
    obtain ⟨values, hvalues, rfl⟩ := Option.map_eq_some_iff.mp h
    exact itemsTaken_of_toJson? hvalues
  | 0, .object _ _, _, h => by cases h
  | room + 1, .object members false, _, h => by cases h
  | room + 1, .object members true, _, h => by
    obtain ⟨entries, hentries, rfl⟩ := Option.map_eq_some_iff.mp h
    obtain ⟨hcanonical, hnumbers⟩ := membersTaken_of_toJson? hentries
    refine ⟨⟨Dictionary.ascending_ofEntries entries, ?_⟩, ?_⟩
    · refine membersCanonical_iff.mpr fun member hmember => ?_
      have hentry := Dictionary.mem_of_mem_ofEntries hmember
      exact membersCanonical_iff.mp hcanonical member hentry
    · intro n hn
      obtain ⟨member, hmember, hn⟩ := mem_membersNumbers_iff.mp hn
      have hentry := Dictionary.mem_of_mem_ofEntries hmember
      exact hnumbers (mem_membersNumbers_iff.mpr ⟨member, hentry, hn⟩)

/-- Items that are taken out of drafts are canonical, and their numbers are among those that were
read. -/
theorem itemsTaken_of_toJson? : ∀ {room : Nat} {drafts : List Draft} {values : List Json},
    Draft.itemsToJson? room drafts = some values →
    ItemsCanonical room values ∧ itemsNumbers values ⊆ Draft.itemsNumbers drafts
  | _, [], _, h => by
    cases h
    exact ⟨trivial, List.Subset.refl _⟩
  | room, draft :: drafts, _, h => by
    simp only [Draft.itemsToJson?, Option.bind_eq_bind, Option.bind_eq_some_iff] at h
    obtain ⟨value, hvalue, values, hvalues, heq⟩ := h
    cases heq
    obtain ⟨hcanonical, hnumbers⟩ := taken_of_toJson? hvalue
    obtain ⟨hmore, hmoreNumbers⟩ := itemsTaken_of_toJson? hvalues
    exact ⟨⟨hcanonical, hmore⟩, List.append_subset.mpr
      ⟨List.subset_append_of_subset_left _ hnumbers,
        List.subset_append_of_subset_right _ hmoreNumbers⟩⟩

/-- The values of members that are taken out of drafts are canonical, and their numbers are among
those that were read. -/
theorem membersTaken_of_toJson? : ∀ {room : Nat} {drafts : List (Draft × Draft)}
    {members : List (String × Json)}, Draft.membersToJson? room drafts = some members →
    MembersCanonical room members ∧ membersNumbers members ⊆ Draft.membersNumbers drafts
  | _, [], _, h => by
    cases h
    exact ⟨trivial, List.Subset.refl _⟩
  | room, (.text (some key), draft) :: drafts, _, h => by
    simp only [Draft.membersToJson?, Option.bind_eq_bind, Option.bind_eq_some_iff] at h
    obtain ⟨value, hvalue, members, hmembers, heq⟩ := h
    cases heq
    obtain ⟨hcanonical, hnumbers⟩ := taken_of_toJson? hvalue
    obtain ⟨hmore, hmoreNumbers⟩ := membersTaken_of_toJson? hmembers
    exact ⟨⟨hcanonical, hmore⟩, List.append_subset.mpr
      ⟨List.subset_append_of_subset_left _ hnumbers,
        List.subset_append_of_subset_right _ hmoreNumbers⟩⟩

end

/-- Null is taken out of nothing but null. -/
lemma eq_null_of_toJson? {room : Nat} {draft : Draft} (h : draft.toJson? room = some .null) :
    draft = .null := by
  cases draft with
  | null => rfl
  | bool b => cases h
  | broken => cases h
  | number n =>
    obtain ⟨_, -, hvalue⟩ := Option.map_eq_some_iff.mp h
    cases hvalue
  | text s =>
    obtain ⟨_, -, hvalue⟩ := Option.map_eq_some_iff.mp h
    cases hvalue
  | array items closed =>
    unfold Draft.toJson? at h
    split at h
    · obtain ⟨_, -, hvalue⟩ := Option.map_eq_some_iff.mp h
      cases hvalue
    · cases h
  | object members closed =>
    unfold Draft.toJson? at h
    split at h
    · obtain ⟨_, -, hvalue⟩ := Option.map_eq_some_iff.mp h
      cases hvalue
    · cases h

namespace Decode

/-- A value that is made of a text is decoded from a draft whose numbers are kept. -/
lemma exists_of_decodeText {α : Type} {decode : Decoder α} {text : String} {a : α}
    (h : decodeText decode text = .ok a) : ∃ draft : Draft, draft.Kept ∧ decode draft = .ok a := by
  obtain ⟨value, hdecode, hrest⟩ := exists_of_andThen_eq_ok h
  split at hrest
  · cases hrest
    exact ⟨_, Document.read_kept text, hdecode⟩
  · cases hrest

/-- The parts of a draft are kept if it is. -/
lemma kept_of_mem_parts {draft part : Draft} (h : draft.Kept) (hpart : part ∈ parts draft) :
    part.Kept := by
  cases draft with
  | array items closed =>
    change Draft.ItemsKept items at h
    change part ∈ items at hpart
    induction items with
    | nil => cases hpart
    | cons item items ih =>
      obtain ⟨hitem, hitems⟩ := Draft.itemsKept_cons.mp h
      rcases List.mem_cons.mp hpart with rfl | hpart
      · exact hitem
      · exact ih hitems hpart
  | object members closed =>
    change Draft.MembersKept members at h
    change part ∈ members.map Prod.snd at hpart
    induction members with
    | nil => cases hpart
    | cons member members ih =>
      obtain ⟨hvalue, hmembers⟩ := Draft.membersKept_cons.mp h
      rcases List.mem_cons.mp hpart with rfl | hpart
      · exact hvalue
      · exact ih hmembers hpart
  | _ => cases hpart

/-- What is sure of a value that was read where null stands for none: it is not null itself, it is
canonical, and its numbers are kept. -/
structure Whole (room : Nat) (v : Json) : Prop where
  ne_null : v ≠ .null
  canonical : Canonical room v
  kept : ∀ n ∈ numbers v, n.Kept

/-- A value of any kind that was read where null stands for none is whole. -/
lemma whole_of_optional_any {room : Nat} {draft : Draft} {v : Json} (hkept : draft.Kept)
    (h : optional (any room) draft = .ok (some v)) : Whole room v := by
  unfold optional at h
  split at h
  · cases h
  · rename_i hnull
    obtain ⟨value, hany, hvalue⟩ := exists_of_map_eq_ok h
    cases hvalue
    unfold any at hany
    split at hany
    · rename_i htaken
      cases hany
      obtain ⟨hcanonical, hnumbers⟩ := taken_of_toJson? htaken
      refine ⟨?_, hcanonical, fun n hn => hkept n (hnumbers hn)⟩
      rintro rfl
      exact hnull (eq_null_of_toJson? htaken)
    · cases hany

/-- The keys of a map that is decoded are in order. -/
lemma ascending_of_textMap {draft : Draft} {table : Dictionary String}
    (h : textMap draft = .ok table) : Dictionary.Ascending table := by
  unfold textMap at h
  split at h
  · obtain ⟨entries, -, hrest⟩ := exists_of_andThen_eq_ok h
    split at hrest
    · cases hrest
      exact Dictionary.ascending_ofEntries entries
    · cases hrest
  · cases h

end Decode

end Shipyard.Json
