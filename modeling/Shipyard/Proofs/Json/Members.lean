import Mathlib.Data.List.Find
import Mathlib.Data.List.Nodup
import Shipyard.Json.Decode

/-!
# What the members of a record decide

A record is filled from one member after another. A property that every slot keeps holds of every
record that is decoded from a start of which it holds, and a property of one field holds as well of
every object in which that field is not mentioned. A member that is put into an object changes the
record by what filling its slot does, as long as that goes together with filling the other slots.

What a field comes to can be said without the filling: there is at most one value under its name,
and the field has what this value is decoded to.
-/

namespace Shipyard.Json.Decode

variable {α β : Type} {slots : List (Slot α)} {seen : List String}

/-- A decoding that succeeds is one whose first part does. -/
lemma exists_of_andThen_eq_ok {x : Except Fault α} {f : α → Except Fault β} {b : β}
    (h : x.bind f = .ok b) : ∃ a, x = .ok a ∧ f a = .ok b := by
  cases x with
  | error fault => cases h
  | ok a => exact ⟨a, rfl, h⟩

/-- A value that is made of a decoded one. -/
lemma exists_of_map_eq_ok {x : Except Fault α} {f : α → β} {b : β} (h : x.map f = .ok b) :
    ∃ a, x = .ok a ∧ f a = b := by
  cases x with
  | error fault => cases h
  | ok a => exact ⟨a, rfl, Except.ok.inj h⟩

/-- A decoded natural number is below the bound of its type. -/
lemma lt_of_natural {bound : Nat} {type : String} {draft : Draft} {n : Nat}
    (h : natural bound type draft = .ok n) : n < bound := by
  unfold natural at h
  split at h
  · split at h
    · cases h
      omega
    · cases h
  · cases h

/-! ## One member -/

/-- Fill a record from one member; the record and the names of the fields that are filled then. -/
def fillMember (slots : List (Slot α)) (member : Draft × Draft) (seen : List String) (record : α) :
    Except Fault (α × List String) := do
  let name ← key member.1
  match slots.find? (·.name == name) with
  | some slot =>
    if seen.contains name then throw (.duplicateField name)
    else (slot.fill member.2 record).map fun filled => (filled, name :: seen)
  | none => if member.2.isWhole then pure (record, seen) else throw .malformed

/-- Members are filled in one after another. -/
lemma fillMembers_cons (slots : List (Slot α)) (member : Draft × Draft)
    (members : List (Draft × Draft)) (seen : List String) (a : α) :
    fillMembers slots (member :: members) seen a =
      (fillMember slots member seen a).bind fun filled =>
        fillMembers slots members filled.2 filled.1 := by
  obtain ⟨k, v⟩ := member
  rw [fillMembers, fillMember]
  cases key k with
  | error fault => rfl
  | ok name =>
    simp only [bind, Except.bind]
    cases slots.find? (·.name == name) with
    | none =>
      dsimp only
      split <;> rfl
    | some slot =>
      dsimp only
      split
      · rfl
      · cases slot.fill v a <;> rfl

/-- A slot is found under its name. -/
lemma find?_slot (hnames : (slots.map Slot.name).Nodup) {slot : Slot α} (hslot : slot ∈ slots) :
    slots.find? (·.name == slot.name) = some slot := by
  induction slots with
  | nil => cases hslot
  | cons first slots ih =>
    rw [List.map_cons, List.nodup_cons] at hnames
    rcases List.mem_cons.mp hslot with rfl | hmem
    · exact List.find?_cons_of_pos (beq_self_eq_true _)
    · have hne : first.name ≠ slot.name := by
        intro heq
        exact hnames.1 (heq ▸ List.mem_map_of_mem hmem)
      rw [List.find?_cons_of_neg (by simpa using hne), ih hnames.2 hmem]

/-- Only a member whose key is a text is filled in. -/
lemma exists_key_of_fillMember {member : Draft × Draft} {a : α} {filled : α × List String}
    (h : fillMember slots member seen a = .ok filled) : ∃ name, member.1 = .text (some name) := by
  obtain ⟨name, hname, -⟩ := exists_of_andThen_eq_ok h
  unfold key at hname
  split at hname
  · exact ⟨_, ‹_›⟩
  · cases hname

/-- A member under a name that no slot has changes nothing, and has to be whole. -/
lemma fillMember_other {name : String} (h : ∀ slot ∈ slots, slot.name ≠ name) (value : Draft)
    (seen : List String) (a : α) :
    fillMember slots (.text (some name), value) seen a =
      if value.isWhole then .ok (a, seen) else .error .malformed := by
  have hnone : slots.find? (·.name == name) = none := by simpa using h
  rw [fillMember, key]
  simp only [bind, Except.bind, hnone]
  rfl

/-- A member under the name of a slot that is not filled yet fills this slot. -/
lemma fillMember_slot (hnames : (slots.map Slot.name).Nodup) {slot : Slot α} (hslot : slot ∈ slots)
    (hseen : slot.name ∉ seen) (value : Draft) (a : α) :
    fillMember slots (.text (some slot.name), value) seen a =
      (slot.fill value a).map fun filled => (filled, slot.name :: seen) := by
  have hfresh : ¬seen.contains slot.name = true := by simpa using hseen
  rw [fillMember, key]
  simp only [bind, Except.bind, find?_slot hnames hslot, if_neg hfresh]

/-- A slot is filled once only. -/
lemma fillMember_slot_of_mem (hnames : (slots.map Slot.name).Nodup) {slot : Slot α}
    (hslot : slot ∈ slots) (hseen : slot.name ∈ seen) (value : Draft) (a : α) :
    fillMember slots (.text (some slot.name), value) seen a =
      .error (.duplicateField slot.name) := by
  have hagain : seen.contains slot.name = true := by simpa using hseen
  rw [fillMember, key]
  simp only [bind, Except.bind, find?_slot hnames hslot, if_pos hagain]
  rfl

/-- A member under the name of a field is filled in if the field is not filled yet and its value is
decoded. -/
lemma fillMember_eq_ok_iff (hnames : (slots.map Slot.name).Nodup) {slot : Slot α}
    (hslot : slot ∈ slots) {decode : Decoder β} {set : β → α → α}
    (hfill : ∀ draft a, slot.fill draft a = (decode draft).map (set · a)) {value : Draft} {a : α}
    {filled : α × List String} :
    fillMember slots (.text (some slot.name), value) seen a = .ok filled ↔
      slot.name ∉ seen ∧ ∃ v, decode value = .ok v ∧ (set v a, slot.name :: seen) = filled := by
  by_cases hseen : slot.name ∈ seen
  · rw [fillMember_slot_of_mem hnames hslot hseen]
    exact iff_of_false (fun h => by cases h) fun h => h.1 hseen
  · rw [fillMember_slot hnames hslot hseen, hfill, and_iff_right hseen]
    cases decode value with
    | error fault => simp [Except.map]
    | ok v => simp [Except.map]

/-- A member that is filled in stands under the name of a slot that it fills, or changes nothing. -/
lemma exists_slot_of_fillMember {member : Draft × Draft} {filled : List String} {a b : α}
    (h : fillMember slots member seen a = .ok (b, filled)) :
    (∃ slot ∈ slots, member.1 = .text (some slot.name) ∧ slot.fill member.2 a = .ok b ∧
      filled = slot.name :: seen) ∨ b = a ∧ filled = seen := by
  obtain ⟨k, v⟩ := member
  unfold fillMember key at h
  dsimp only at h
  split at h
  case h_2 => cases h
  case h_1 name =>
    simp only [bind, Except.bind] at h
    split at h
    case h_2 =>
      split at h
      · cases h
        exact Or.inr ⟨rfl, rfl⟩
      · cases h
    case h_1 slot hfound =>
      have hname : slot.name = name := by simpa using List.find?_some hfound
      subst hname
      split at h
      · cases h
      · obtain ⟨b', hfill, hb⟩ := exists_of_map_eq_ok h
        cases hb
        exact Or.inl ⟨slot, List.mem_of_find?_eq_some hfound, rfl, hfill, rfl⟩

/-! ## Properties that are kept -/

/-- Filling a slot with a value keeps a property of the record. -/
def Slot.KeepsFrom (P : α → Prop) (slot : Slot α) (value : Draft) : Prop :=
  ∀ ⦃a b⦄, slot.fill value a = .ok b → P a → P b

/-- Filling a slot keeps a property of the record. -/
def Slot.Keeps (P : α → Prop) (slot : Slot α) : Prop :=
  ∀ ⦃draft a b⦄, slot.fill draft a = .ok b → P a → P b

/-- A slot keeps a property from a value if the record has it with what this value is decoded to. -/
lemma Slot.keepsFrom_of_decode {P : α → Prop} {slot : Slot α} {decode : Decoder β}
    {set : β → α → α} {value : Draft}
    (hfill : ∀ draft a, slot.fill draft a = (decode draft).map (set · a))
    (h : ∀ ⦃v a⦄, decode value = .ok v → P a → P (set v a)) : slot.KeepsFrom P value := by
  intro a b hfilled ha
  rw [hfill] at hfilled
  obtain ⟨v, hdecode, rfl⟩ := exists_of_map_eq_ok hfilled
  exact h hdecode ha

/-- A slot keeps a property that the record has with every value that can be decoded. -/
lemma Slot.keeps_of_decode {P : α → Prop} {slot : Slot α} {decode : Decoder β} {set : β → α → α}
    (hfill : ∀ draft a, slot.fill draft a = (decode draft).map (set · a))
    (h : ∀ ⦃draft v a⦄, decode draft = .ok v → P a → P (set v a)) : slot.Keeps P := by
  intro draft
  exact Slot.keepsFrom_of_decode hfill fun _ _ hdecode ha => h hdecode ha

/-- This is so for a field that may be left out. -/
lemma Slot.may_keeps {P : α → Prop} {name : String} {decode : Decoder β} {set : β → α → α}
    (h : ∀ ⦃draft v a⦄, decode draft = .ok v → P a → P (set v a)) :
    (Slot.may name decode set).Keeps P :=
  Slot.keeps_of_decode (fun _ _ => rfl) h

variable {P : α → Prop}

/-- Filling from members keeps what the slots keep from the values under their names. -/
lemma fillMembers_keeps {members : List (Draft × Draft)} {filled : List String} {a b : α}
    (h : ∀ slot ∈ slots, ∀ value, (.text (some slot.name), value) ∈ members →
      slot.KeepsFrom P value)
    (hfill : fillMembers slots members seen a = .ok (b, filled)) (ha : P a) : P b := by
  induction members generalizing seen a with
  | nil =>
    cases hfill
    exact ha
  | cons member members ih =>
    have hmore : ∀ slot ∈ slots, ∀ value, (.text (some slot.name), value) ∈ members →
        slot.KeepsFrom P value := by
      intro slot hslot value hvalue
      exact h slot hslot value (List.mem_cons_of_mem _ hvalue)
    rw [fillMembers_cons] at hfill
    obtain ⟨⟨c, seen'⟩, hmember, hrest⟩ := exists_of_andThen_eq_ok hfill
    refine ih hmore hrest ?_
    rcases exists_slot_of_fillMember hmember with ⟨slot, hslot, hname, hfilled, -⟩ | ⟨rfl, -⟩
    · exact h slot hslot member.2 (hname ▸ List.mem_cons_self) hfilled ha
    · exact ha

/-- An object keeps what the slots keep from the values under their names. -/
lemma fromMembers_keepsFrom {start b : α} {members : List (Draft × Draft)} {closed : Bool}
    (h : ∀ slot ∈ slots, ∀ value, (.text (some slot.name), value) ∈ members →
      slot.KeepsFrom P value)
    (hdecode : fromMembers slots start members closed = .ok b) (hstart : P start) : P b := by
  obtain ⟨⟨filled, names⟩, hfill, hrest⟩ := exists_of_andThen_eq_ok hdecode
  dsimp only at hrest
  split at hrest
  · split at hrest
    · cases hrest
    · cases hrest
      exact fillMembers_keeps h hfill hstart
  · cases hrest

/-- An object keeps what the slots of its members keep. -/
lemma fromMembers_keeps {start b : α} {members : List (Draft × Draft)} {closed : Bool}
    (h : ∀ slot ∈ slots, (∃ value, (.text (some slot.name), value) ∈ members) → slot.Keeps P)
    (hdecode : fromMembers slots start members closed = .ok b) (hstart : P start) : P b :=
  fromMembers_keepsFrom (fun slot hslot value hvalue _ _ hfill ha =>
    h slot hslot ⟨value, hvalue⟩ hfill ha) hdecode hstart

/-- Filling from items keeps what all slots keep from these items. -/
lemma fillItems_keeps {type : String} {total done : Nat} {closed : Bool} {drafts rest : List Draft}
    {a b : α} (h : ∀ slot ∈ slots, ∀ draft ∈ drafts, slot.KeepsFrom P draft)
    (hfill : fillItems type total closed slots done drafts a = .ok (b, rest)) (ha : P a) : P b := by
  induction slots generalizing done drafts a with
  | nil =>
    cases hfill
    exact ha
  | cons slot slots ih =>
    cases drafts with
    | nil =>
      rw [fillItems] at hfill
      split at hfill
      · split at hfill
        · cases hfill
        · exact ih (fun _ _ _ hd => absurd hd List.not_mem_nil) hfill ha
      · cases hfill
    | cons draft drafts =>
      rw [fillItems] at hfill
      obtain ⟨c, hfilled, hrest⟩ := exists_of_andThen_eq_ok hfill
      have hmore : ∀ slot ∈ slots, ∀ draft ∈ drafts, slot.KeepsFrom P draft := fun s hs d hd =>
        h s (List.mem_cons_of_mem _ hs) d (List.mem_cons_of_mem _ hd)
      exact ih hmore hrest (h slot List.mem_cons_self draft List.mem_cons_self hfilled ha)

/-- The values that stand in an array or an object. -/
def parts : Draft → List Draft
  | .array items _ => items
  | .object members _ => members.map Prod.snd
  | _ => []

/-- What all slots of a record keep from its parts holds of every record that is decoded. -/
theorem record_keepsFrom {type : String} {start b : α} {draft : Draft}
    (h : ∀ slot ∈ slots, ∀ part ∈ parts draft, slot.KeepsFrom P part)
    (hdecode : record type slots start draft = .ok b) (hstart : P start) : P b := by
  unfold record at hdecode
  split at hdecode
  · exact fromMembers_keepsFrom (fun slot hslot value hvalue =>
      h slot hslot value (List.mem_map_of_mem hvalue)) hdecode hstart
  case h_2 drafts closed =>
    obtain ⟨⟨filled, rest⟩, hfill, hrest⟩ := exists_of_andThen_eq_ok hdecode
    dsimp only at hrest
    split at hrest
    · cases hrest
      exact fillItems_keeps h hfill hstart
    · cases hrest
  · cases hdecode

/-- What all slots of a record keep holds of every record that is decoded. -/
theorem record_keeps {type : String} {start b : α} {draft : Draft}
    (h : ∀ slot ∈ slots, slot.Keeps P) (hdecode : record type slots start draft = .ok b)
    (hstart : P start) : P b :=
  record_keepsFrom (fun slot hslot _ _ _ _ hfill ha => h slot hslot hfill ha) hdecode hstart

/-- The alternative of an identifier is one of those that there are. -/
lemma exists_of_identifier {variants : List (String × β)} {draft : Draft} {b : β}
    (h : identifier variants draft = .ok b) : ∃ variant ∈ variants, variant.2 = b := by
  unfold identifier named at h
  split at h
  · split at h
    · rename_i variant hfound
      cases h
      exact ⟨variant, List.mem_of_find?_eq_some hfound, rfl⟩
    · cases h
  · cases h

/-- A tag that is found among members is one of those that there are, if one found before is. -/
lemma exists_of_splitTag {variants : List (String × β)} {tag : String} {room : Nat}
    {members others : List (Draft × Draft)} {found : Option β} {b : β}
    (hfound : ∀ a, found = some a → ∃ variant ∈ variants, variant.2 = a)
    (h : splitTag tag variants room members found = .ok (some b, others)) :
    ∃ variant ∈ variants, variant.2 = b := by
  induction members generalizing found others with
  | nil =>
    cases h
    exact hfound b rfl
  | cons member members ih =>
    obtain ⟨k, v⟩ := member
    obtain ⟨name, -, h⟩ := exists_of_andThen_eq_ok h
    dsimp only at h
    split at h
    · split at h
      · cases h
      · obtain ⟨variant, hvariant, h⟩ := exists_of_andThen_eq_ok h
        refine ih (fun a ha => ?_) h
        cases ha
        exact exists_of_identifier hvariant
    · obtain ⟨_, -, h⟩ := exists_of_andThen_eq_ok h
      obtain ⟨⟨later, rest⟩, hlater, h⟩ := exists_of_andThen_eq_ok h
      cases h
      exact ih hfound hlater

/-- What holds of the start of every alternative of a tagged type, and is kept by the slots of the
alternative, holds of every value that is decoded. -/
theorem tagged_keeps {tag type : String} {alternatives : List (Alternative α)} {room : Nat}
    {draft : Draft} {b : α}
    (h : ∀ a ∈ alternatives, P a.start ∧ ∀ slot ∈ a.slots, slot.Keeps P)
    (hdecode : tagged tag type alternatives room draft = .ok b) : P b := by
  have hvariant : ∀ a, (∃ variant ∈ alternatives.map fun a => (a.tag, a), variant.2 = a) →
      P a.start ∧ ∀ slot ∈ a.slots, slot.Keeps P := by
    rintro a ⟨variant, hmem, rfl⟩
    obtain ⟨a, ha, rfl⟩ := List.mem_map.mp hmem
    exact h a ha
  unfold tagged at hdecode
  split at hdecode
  · obtain ⟨⟨found, others⟩, hsplit, hdecode⟩ := exists_of_andThen_eq_ok hdecode
    dsimp only at hdecode
    split at hdecode
    · split at hdecode
      · cases hdecode
      · obtain ⟨hstart, hslots⟩ := hvariant _ (exists_of_splitTag (by rintro _ ⟨⟩) hsplit)
        exact fromMembers_keeps (fun slot hslot _ => hslots slot hslot) hdecode hstart
    · cases hdecode
  · dsimp only at hdecode
    split at hdecode
    · split at hdecode <;> cases hdecode
    · obtain ⟨a, hfirst, hdecode⟩ := exists_of_andThen_eq_ok hdecode
      obtain ⟨_, -, hdecode⟩ := exists_of_andThen_eq_ok hdecode
      split at hdecode
      · obtain ⟨⟨value, left⟩, hfill, hrest⟩ := exists_of_andThen_eq_ok hdecode
        obtain ⟨hstart, hslots⟩ := hvariant a (exists_of_identifier hfirst)
        dsimp only at hrest
        split at hrest
        · cases hrest
          exact fillItems_keeps (fun slot hslot _ _ _ _ hfilled ha =>
            hslots slot hslot hfilled ha) hfill hstart
        · cases hrest
      · cases hdecode
  · cases hdecode

/-- Every value of a list is decoded from one of the items. -/
lemma exists_of_mem_items {decode : Decoder β} {drafts : List Draft} {values : List β}
    (h : items decode drafts = .ok values) {v : β} (hv : v ∈ values) :
    ∃ draft ∈ drafts, decode draft = .ok v := by
  induction drafts generalizing values with
  | nil =>
    cases h
    cases hv
  | cons draft drafts ih =>
    obtain ⟨first, hfirst, hrest⟩ := exists_of_andThen_eq_ok h
    obtain ⟨later, hlater, hvalues⟩ := exists_of_andThen_eq_ok hrest
    cases hvalues
    rcases List.mem_cons.mp hv with rfl | hv
    · exact ⟨draft, List.mem_cons_self, hfirst⟩
    · obtain ⟨other, hother, hdecode⟩ := ih hlater hv
      exact ⟨other, List.mem_cons_of_mem _ hother, hdecode⟩

/-- Every value of a list is decoded from a part of the document. -/
lemma exists_of_mem_list {decode : Decoder β} {draft : Draft} {values : List β}
    (h : list decode draft = .ok values) {v : β} (hv : v ∈ values) :
    ∃ part ∈ parts draft, decode part = .ok v := by
  unfold list at h
  split at h
  · obtain ⟨found, hitems, hrest⟩ := exists_of_andThen_eq_ok h
    split at hrest
    · cases hrest
      exact exists_of_mem_items hitems hv
    · cases hrest
  · cases h

/-! ## A member more -/

/-- Filling a slot goes together with a change of the record: it does not matter which comes
first. -/
def Slot.Commutes (change : α → α) (slot : Slot α) : Prop :=
  ∀ draft a, slot.fill draft (change a) = (slot.fill draft a).map change

/-- A slot goes together with a change that its field does not take part in. -/
lemma Slot.may_commutes {change : α → α} {name : String} {decode : Decoder β} {set : β → α → α}
    (h : ∀ v a, set v (change a) = change (set v a)) :
    (Slot.may name decode set).Commutes change := by
  intro draft a
  unfold Slot.may
  dsimp only
  cases decode draft with
  | error fault => rfl
  | ok v => exact congrArg Except.ok (h v a)

/-- What goes together with a change keeps the records that the change leaves alone. -/
lemma Slot.Commutes.keeps {change : α → α} {slot : Slot α} (h : slot.Commutes change) :
    slot.Keeps fun a => change a = a := by
  intro draft a b hfill ha
  have hchanged := h draft a
  rw [ha, hfill] at hchanged
  exact (Except.ok.inj hchanged).symm

/-- Two fillings of a record that differ by a change of the record and by a name among the names of
the filled fields. -/
inductive DifferBy (name : String) (change : α → α) :
    Except Fault (α × List String) → Except Fault (α × List String) → Prop
  | ok {a : α} {seen seen' : List String} (h : ∀ other ≠ name, other ∈ seen' ↔ other ∈ seen) :
      DifferBy name change (.ok (a, seen)) (.ok (change a, seen'))
  | error (fault : Fault) : DifferBy name change (.error fault) (.error fault)

variable {slot : Slot α} {change : α → α} {seen' : List String} {a : α}

/-- Filling in another member keeps such a difference. -/
lemma fillMember_differBy {member : Draft × Draft} {name : String}
    (hcommutes : ∀ other ∈ slots, other.name ≠ name → other.Commutes change)
    (hmember : member.1 ≠ .text (some name))
    (hseen : ∀ other ≠ name, other ∈ seen' ↔ other ∈ seen) :
    DifferBy name change (fillMember slots member seen a)
      (fillMember slots member seen' (change a)) := by
  obtain ⟨k, v⟩ := member
  unfold fillMember key
  dsimp only at hmember ⊢
  split
  case h_2 => exact .error _
  case h_1 other =>
    have hother : other ≠ name := by
      rintro rfl
      exact hmember rfl
    simp only [bind, Except.bind]
    split
    case h_2 =>
      split
      · exact .ok hseen
      · exact .error _
    case h_1 slot hfound =>
      have hname : slot.name = other := by simpa using List.find?_some hfound
      have hcontains : seen'.contains other = seen.contains other := by
        rw [Bool.eq_iff_iff, List.contains_iff_mem, List.contains_iff_mem, hseen other hother]
      rw [hcontains, hcommutes slot (List.mem_of_find?_eq_some hfound) (hname ▸ hother) v a]
      split
      · exact .error _
      · cases slot.fill v a with
        | error fault => exact .error _
        | ok b =>
          refine .ok fun third hthird => ?_
          rw [List.mem_cons, List.mem_cons, hseen third hthird]

/-- Filling in other members keeps such a difference. -/
lemma fillMembers_differBy {members : List (Draft × Draft)} {name : String}
    (hcommutes : ∀ other ∈ slots, other.name ≠ name → other.Commutes change)
    (hmembers : ∀ member ∈ members, member.1 ≠ .text (some name))
    (hseen : ∀ other ≠ name, other ∈ seen' ↔ other ∈ seen) :
    DifferBy name change (fillMembers slots members seen a)
      (fillMembers slots members seen' (change a)) := by
  induction members generalizing seen seen' a with
  | nil => exact .ok hseen
  | cons member members ih =>
    rw [fillMembers_cons, fillMembers_cons]
    have hmember := fillMember_differBy (a := a) hcommutes
      (hmembers member List.mem_cons_self) hseen
    generalize fillMember slots member seen a = filled at hmember ⊢
    generalize fillMember slots member seen' (change a) = filled' at hmember ⊢
    cases hmember with
    | error fault => exact .error fault
    | ok hmore => exact ih (fun m hm => hmembers m (List.mem_cons_of_mem _ hm)) hmore

/-- A member that is put between others makes no other difference than the change that it stands
for. -/
lemma fillMembers_insert (hnames : (slots.map Slot.name).Nodup) (hslot : slot ∈ slots)
    {value : Draft} (hvalue : ∀ a, slot.fill value a = .ok (change a))
    (hcommutes : ∀ other ∈ slots, other.name ≠ slot.name → other.Commutes change)
    {before after : List (Draft × Draft)}
    (habsent : ∀ member ∈ before ++ after, member.1 ≠ .text (some slot.name))
    (hseen : slot.name ∉ seen) :
    DifferBy slot.name change (fillMembers slots (before ++ after) seen a)
      (fillMembers slots (before ++ (.text (some slot.name), value) :: after) seen a) := by
  induction before generalizing seen a with
  | nil =>
    rw [List.nil_append, List.nil_append, fillMembers_cons,
      fillMember_slot hnames hslot hseen, hvalue]
    refine fillMembers_differBy hcommutes habsent fun other hother => ?_
    rw [List.mem_cons, or_iff_right hother]
  | cons member before ih =>
    rw [List.cons_append, List.cons_append, fillMembers_cons, fillMembers_cons]
    cases hmember : fillMember slots member seen a with
    | error fault => exact .error fault
    | ok reached =>
      obtain ⟨b, filled⟩ := reached
      refine ih (fun m hm => habsent m (List.mem_cons_of_mem _ hm)) ?_
      rcases exists_slot_of_fillMember hmember with ⟨other, -, hname, -, rfl⟩ | ⟨-, rfl⟩
      · have hother : slot.name ≠ other.name := by
          intro heq
          exact habsent member List.mem_cons_self (heq ▸ hname)
        exact List.not_mem_cons_of_ne_of_not_mem hother hseen
      · exact hseen

/-- A member of an object under a name that is not mentioned otherwise changes the record by what
filling its slot does. -/
theorem fromMembers_insert (hnames : (slots.map Slot.name).Nodup) (hslot : slot ∈ slots)
    (hrequired : slot.required = false) {value : Draft}
    (hvalue : ∀ a, slot.fill value a = .ok (change a))
    (hcommutes : ∀ other ∈ slots, other.name ≠ slot.name → other.Commutes change)
    {before after : List (Draft × Draft)}
    (habsent : ∀ member ∈ before ++ after, member.1 ≠ .text (some slot.name)) (start : α)
    (closed : Bool) :
    fromMembers slots start (before ++ (.text (some slot.name), value) :: after) closed =
      (fromMembers slots start (before ++ after) closed).map change := by
  have hdiffer := fillMembers_insert (a := start) hnames hslot hvalue hcommutes habsent
    List.not_mem_nil
  unfold fromMembers
  simp only [bind, Except.bind]
  generalize fillMembers slots (before ++ after) [] start = filled at hdiffer
  generalize fillMembers slots (before ++ _ :: after) [] start = filled' at hdiffer
  cases hdiffer with
  | error fault => rfl
  | @ok a seen seen' hseen =>
    have hmissing : (slots.find? fun s => s.required && !seen'.contains s.name) =
        slots.find? fun s => s.required && !seen.contains s.name := by
      refine List.find?_congr fun other hother => ?_
      by_cases hname : other.name = slot.name
      · rw [List.inj_on_of_nodup_map hnames hother hslot hname, hrequired, Bool.false_and,
          Bool.false_and]
      · have hcontains : seen'.contains other.name = seen.contains other.name := by
          rw [Bool.eq_iff_iff, List.contains_iff_mem, List.contains_iff_mem, hseen _ hname]
        rw [hcontains]
    dsimp only
    rw [hmissing]
    split
    · split <;> rfl
    · rfl

/-! ## The values under a name -/

/-- Whether a draft is the text of a name. -/
def isName (name : String) : Draft → Bool
  | .text (some key) => key == name
  | _ => false

/-- The values that stand under a name among the members of an object, in their order. -/
def valuesUnder (name : String) (members : List (Draft × Draft)) : List Draft :=
  (members.filter fun member => isName name member.1).map Prod.snd

variable {name other : String} {value : Draft} {members : List (Draft × Draft)}

/-- A member under the name gives its value. -/
lemma valuesUnder_cons_self (name : String) (value : Draft) (members : List (Draft × Draft)) :
    valuesUnder name ((.text (some name), value) :: members) =
      value :: valuesUnder name members := by
  unfold valuesUnder
  rw [List.filter_cons_of_pos (by simp [isName]), List.map_cons]

/-- A member under another name gives nothing. -/
lemma valuesUnder_cons_of_ne (h : other ≠ name) (value : Draft) (members : List (Draft × Draft)) :
    valuesUnder name ((.text (some other), value) :: members) = valuesUnder name members := by
  unfold valuesUnder
  rw [List.filter_cons_of_neg (by simpa [isName] using h)]

/-- What members make of a field: it stays if it is not mentioned, and otherwise it was not filled
before and there is one value under its name, which is decoded to the new one. -/
def Takes (name : String) (decode : Decoder β) (members : List (Draft × Draft))
    (seen : List String) (old new : β) : Prop :=
  valuesUnder name members = [] ∧ new = old ∨
    name ∉ seen ∧ ∃ value, valuesUnder name members = [value] ∧ decode value = .ok new

variable {decode : Decoder β} {old new : β}

/-- No members leave a field as it is. -/
lemma takes_nil : Takes name decode [] seen old new ↔ new = old := by
  unfold Takes
  simp [valuesUnder]

/-- A member under the name of a field fills it, and no member after it may do so again. -/
lemma takes_cons_self : Takes name decode ((.text (some name), value) :: members) seen old new ↔
    name ∉ seen ∧ ∃ v, decode value = .ok v ∧ Takes name decode members (name :: seen) v new := by
  unfold Takes
  rw [valuesUnder_cons_self]
  constructor
  · rintro (⟨hnil, -⟩ | ⟨hseen, only, hvalues, hdecode⟩)
    · cases hnil
    · obtain ⟨rfl, hrest⟩ := List.cons.inj hvalues
      exact ⟨hseen, new, hdecode, Or.inl ⟨hrest, rfl⟩⟩
  · rintro ⟨hseen, v, hdecode, ⟨hrest, rfl⟩ | ⟨hagain, -⟩⟩
    · exact Or.inr ⟨hseen, value, by rw [hrest], hdecode⟩
    · exact absurd List.mem_cons_self hagain

/-- A member under another name does not matter for a field. -/
lemma takes_cons_of_ne (h : other ≠ name) :
    Takes name decode ((.text (some other), value) :: members) seen old new ↔
      Takes name decode members seen old new := by
  unfold Takes
  rw [valuesUnder_cons_of_ne h]

/-- It does not matter for a field whether another one is filled. -/
lemma takes_seen_of_ne (h : other ≠ name) :
    Takes name decode members (other :: seen) old new ↔ Takes name decode members seen old new := by
  unfold Takes
  rw [List.mem_cons, or_iff_right h.symm]

end Shipyard.Json.Decode
