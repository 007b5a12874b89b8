import Shipyard.Proofs.Json.Members
import Shipyard.Proofs.Json.RoundTrip

/-!
# What decoders restore

A decoder restores a value of its type from a document if it makes that value of the document when
its text is read back. This goes by the kinds of decoders: texts, numbers, options, lists, maps, and
records of which every field that has to be there is written under the name of its slot, in the
order of the slots. A tagged value is the record of its alternative, with the tag in front of it.
-/

namespace Shipyard.Json

namespace Decode

variable {α β : Type}

/-- A document without decimals of which a decoder makes `b` when it is read back. -/
structure Restores (decode : Decoder β) (v : Json) (b : β) : Prop where
  integral : v.Integral
  decoded : decode v.toDraft = .ok b

/-- What a decoder restores from a document, it makes of the text of the document. -/
theorem Restores.decodeText_compact {decode : Decoder β} {v : Json} {b : β}
    (h : Restores decode v b) : decodeText decode v.compact = .ok b := by
  rw [decodeText, read_compact h.integral]
  dsimp only
  rw [h.decoded]
  rfl

/-- A text is restored. -/
lemma restores_text (s : String) : Restores text (.text s) s :=
  ⟨trivial, rfl⟩

/-- A text that may be absent is restored from itself or from null. -/
lemma restores_optional (s : Option String) : Restores (optional text) (ofText? s) s := by
  cases s with
  | none => exact ⟨trivial, rfl⟩
  | some s => exact ⟨trivial, rfl⟩

/-- A number below the bound of its type is restored. -/
lemma restores_natural {n bound : Nat} {type : String} (hn : n < bound)
    (hbound : bound ≤ 18446744073709551616) : Restores (natural bound type) (.ofNat n) n := by
  have hfits : Fits64 n := by
    unfold Fits64
    omega
  have hrange : 0 ≤ (n : Int) ∧ (n : Int) < bound := by omega
  refine ⟨hfits, ?_⟩
  change (if 0 ≤ (n : Int) ∧ (n : Int) < bound then _ else _) = _
  rw [if_pos hrange, Int.toNat_natCast]

/-- An alternative is restored from its name. -/
lemma restores_choice {variants : List (String × β)} {name : String} {b : β}
    (h : variants.find? (·.1 == name) = some (name, b)) :
    Restores (choice variants) (.text name) b := by
  refine ⟨trivial, ?_⟩
  change named variants name = _
  rw [named, h]

/-- A list is restored if its items are. -/
lemma restores_list {decode : Decoder β} {encode : β → Json} {bs : List β}
    (h : ∀ b ∈ bs, Restores decode (encode b) b) :
    Restores (list decode) (.array (bs.map encode)) bs := by
  suffices hitems : ItemsIntegral (bs.map encode) ∧
      items decode (itemsToDraft (bs.map encode)) = .ok bs by
    refine ⟨hitems.1, ?_⟩
    rw [toDraft, list, hitems.2]
    rfl
  induction bs with
  | nil => exact ⟨trivial, rfl⟩
  | cons b bs ih =>
    have hb := h b List.mem_cons_self
    have hbs := ih fun b hb => h b (List.mem_cons_of_mem _ hb)
    refine ⟨⟨hb.integral, hbs.1⟩, ?_⟩
    rw [List.map_cons, itemsToDraft, items, hb.decoded, hbs.2]
    rfl

/-! ## Records -/

/-- Members under the names of slots, in their order, with what filling the slots one after another
makes of a record. -/
inductive Fills : List (Slot α) → List (String × Json) → α → α → Prop
  | nil (a : α) : Fills [] [] a a
  | cons {slot : Slot α} {value : Json} {slots : List (Slot α)} {members : List (String × Json)}
      {a b c : α} (integral : value.Integral) (filled : slot.fill value.toDraft a = .ok b)
      (more : Fills slots members b c) : Fills (slot :: slots) ((slot.name, value) :: members) a c

namespace Fills

variable {slots : List (Slot α)} {members : List (String × Json)} {a c : α} {name : String}
  {decode : Decoder β} {set : β → α → α} {value : Json} {b : β}

/-- A slot that sets a field to what is decoded for it is filled with what is restored for it. -/
lemma field {slot : Slot α} (hfill : ∀ draft a, slot.fill draft a = (decode draft).map (set · a))
    (hvalue : Restores decode value b) (more : Fills slots members (set b a) c) :
    Fills (slot :: slots) ((slot.name, value) :: members) a c := by
  have hfilled : slot.fill value.toDraft a = .ok (set b a) := by
    rw [hfill, hvalue.decoded]
    rfl
  exact .cons hvalue.integral hfilled more

/-- A field that may be left out is filled with what is restored for it. -/
lemma may (hvalue : Restores decode value b) (more : Fills slots members (set b a) c) :
    Fills (Slot.may name decode set :: slots) ((name, value) :: members) a c :=
  field (fun _ _ => rfl) hvalue more

/-- A field that has to be there is filled with what is restored for it. -/
lemma must (hvalue : Restores decode value b) (more : Fills slots members (set b a) c) :
    Fills (Slot.must name decode set :: slots) ((name, value) :: members) a c :=
  field (fun _ _ => rfl) hvalue more

/-- The values of the members have no decimals. -/
lemma integral (h : Fills slots members a c) : MembersIntegral members := by
  induction h with
  | nil => trivial
  | cons hvalue _ _ ih => exact ⟨hvalue, ih⟩

end Fills

/-- Members under the names of slots that are not filled yet fill these slots. -/
lemma fillMembers_of_fills {slots : List (Slot α)} (hnames : (slots.map Slot.name).Nodup)
    {left : List (Slot α)} {members : List (String × Json)} {a b : α}
    (h : Fills left members a b) (hleft : ∀ slot ∈ left, slot ∈ slots)
    (hapart : (left.map Slot.name).Nodup) {seen : List String}
    (hseen : ∀ slot ∈ left, slot.name ∉ seen) :
    fillMembers slots (membersToDraft members) seen a =
      .ok (b, (left.map Slot.name).reverse ++ seen) := by
  induction h generalizing seen with
  | nil a => rfl
  | @cons slot value left members a b c hvalue hfilled hmore ih =>
    rw [List.map_cons, List.nodup_cons] at hapart
    have hslot := hleft slot List.mem_cons_self
    have hmoreSeen : ∀ other ∈ left, other.name ∉ slot.name :: seen := by
      intro other hother hmem
      rcases List.mem_cons.mp hmem with heq | hmem
      · exact hapart.1 (heq ▸ List.mem_map_of_mem hother)
      · exact hseen other (List.mem_cons_of_mem _ hother) hmem
    have hmembers := ih (fun other hother => hleft other (List.mem_cons_of_mem _ hother))
      hapart.2 hmoreSeen
    rw [membersToDraft, Decode.fillMembers_cons,
      fillMember_slot hnames hslot (hseen slot List.mem_cons_self), hfilled]
    change fillMembers slots (membersToDraft members) (slot.name :: seen) b = _
    rw [hmembers, List.map_cons, List.reverse_cons, List.append_assoc, List.singleton_append]

/-- An object is filled from its members, each under the name of its slot. Fields that do not have
to be there may be left out. -/
lemma fromMembers_of_fills {slots left : List (Slot α)} {members : List (String × Json)}
    {start b : α} (hnames : (slots.map Slot.name).Nodup) (hleft : left.Sublist slots)
    (hrequired : ∀ slot ∈ slots, slot.required = true → slot ∈ left)
    (h : Fills left members start b) :
    fromMembers slots start (membersToDraft members) true = .ok b := by
  have hfilled := fillMembers_of_fills hnames h (fun _ hslot => hleft.subset hslot)
    ((hleft.map _).nodup hnames) fun _ _ => List.not_mem_nil
  have hpresent : (slots.find? fun slot => slot.required &&
      !((left.map Slot.name).reverse ++ []).contains slot.name) = none := by
    refine List.find?_eq_none.mpr fun slot hslot habsent => ?_
    rw [Bool.and_eq_true] at habsent
    have hname : slot.name ∈ (left.map Slot.name).reverse ++ [] := by
      rw [List.append_nil, List.mem_reverse]
      exact List.mem_map_of_mem (hrequired slot hslot habsent.1)
    rw [List.contains_iff_mem.mpr hname] at habsent
    exact Bool.false_ne_true habsent.2
  rw [fromMembers, hfilled]
  simp only [bind, Except.bind, if_pos, hpresent]
  rfl

/-- A record is restored from its fields, each under the name of its slot. Fields that do not have
to be there may be left out. -/
theorem restores_record_of_sublist {type : String} {slots left : List (Slot α)}
    {members : List (String × Json)} {start b : α} (hnames : (slots.map Slot.name).Nodup)
    (hleft : left.Sublist slots)
    (hrequired : ∀ slot ∈ slots, slot.required = true → slot ∈ left)
    (h : Fills left members start b) : Restores (record type slots start) (.object members) b := by
  refine ⟨h.integral, ?_⟩
  rw [toDraft, record]
  exact fromMembers_of_fills hnames hleft hrequired h

/-- A record is restored from its fields, each under the name of its slot. -/
theorem restores_record {type : String} {slots : List (Slot α)} {members : List (String × Json)}
    {start b : α} (hnames : (slots.map Slot.name).Nodup) (h : Fills slots members start b) :
    Restores (record type slots start) (.object members) b :=
  restores_record_of_sublist hnames (List.Sublist.refl slots) (fun _ hslot _ => hslot) h

/-! ## Tagged types -/

/-- Behind a tag that was found, other members are only looked through. -/
lemma splitTag_of_canonical {variants : List (String × β)} {tag : String} {room : Nat}
    {members : List (String × Json)} (hnames : ∀ member ∈ members, member.1 ≠ tag)
    (hcanonical : MembersCanonical room members) (found : Option β) :
    splitTag tag variants room (membersToDraft members) found =
      .ok (found, membersToDraft members) := by
  induction members with
  | nil => rfl
  | cons member members ih =>
    obtain ⟨key, value⟩ := member
    obtain ⟨hname, hnames⟩ := List.forall_mem_cons.mp hnames
    have hother : ¬(key == tag) = true := by simpa using hname
    rw [membersToDraft]
    simp only [splitTag, Decode.key, bind, Except.bind, if_neg hother, any,
      toJson?_toDraft hcanonical.1, ih hnames hcanonical.2]
    rfl

/-- A value of a tagged type is restored from its tag, with the fields of its alternative behind. -/
theorem restores_tagged {tag type : String} {alternatives : List (Alternative α)} {room : Nat}
    {a : Alternative α} {members : List (String × Json)} {b : α}
    (hfind : (alternatives.map fun a => (a.tag, a)).find? (·.1 == a.tag) = some (a.tag, a))
    (hnames : ∀ member ∈ members, member.1 ≠ tag)
    (hcanonical : MembersCanonical (room - 1) members) (hslots : (a.slots.map Slot.name).Nodup)
    (h : Fills a.slots members a.start b) :
    Restores (tagged tag type alternatives room) (.object ((tag, .text a.tag) :: members)) b := by
  refine ⟨⟨trivial, h.integral⟩, ?_⟩
  have hfields := fromMembers_of_fills hslots (List.Sublist.refl _) (fun _ hslot _ => hslot) h
  have hidentifier : identifier (alternatives.map fun a => (a.tag, a)) (.text (some a.tag)) =
      .ok a := by
    rw [identifier, named, hfind]
  rw [toDraft, membersToDraft, toDraft, tagged]
  simp only [splitTag, Decode.key, bind, Except.bind, beq_self_eq_true, if_pos, hidentifier,
    splitTag_of_canonical hnames hcanonical, hfields]

/-! ## Maps and values of any kind -/

/-- A map from texts to texts is restored if its keys are in order. -/
lemma restores_textMap {table : Dictionary String} (h : Dictionary.Ascending table) :
    Restores textMap (.object (table.map fun entry => (entry.1, .text entry.2))) table := by
  suffices hmembers : ∀ entries : List (String × String),
      MembersIntegral (entries.map fun entry => (entry.1, .text entry.2)) ∧
        textMembers (membersToDraft (entries.map fun entry => (entry.1, .text entry.2))) =
          .ok entries by
    refine ⟨(hmembers table).1, ?_⟩
    rw [toDraft, textMap, (hmembers table).2]
    simp only [bind, Except.bind, if_pos, Dictionary.ofEntries_of_ascending h]
    rfl
  intro entries
  induction entries with
  | nil => exact ⟨trivial, rfl⟩
  | cons entry entries ih =>
    refine ⟨⟨trivial, ih.1⟩, ?_⟩
    rw [List.map_cons, membersToDraft, textMembers, ih.2]
    rfl

/-- A value of any kind is restored, with or without null in its place, if it stands in the order of
its keys, has no decimals and is not null itself. -/
lemma restores_any {room : Nat} {v : Json} (hnull : v ≠ .null) (hcanonical : Canonical room v)
    (hintegral : v.Integral) : Restores (optional (any room)) v (some v) := by
  refine ⟨hintegral, ?_⟩
  have hany : any room v.toDraft = .ok v := by
    rw [any, toJson?_toDraft hcanonical]
  have hdraft : v.toDraft ≠ .null := by
    cases v with
    | null => exact absurd rfl hnull
    | _ => exact nofun
  rw [optional.eq_2 _ _ hdraft, hany]
  rfl

end Decode

end Shipyard.Json
