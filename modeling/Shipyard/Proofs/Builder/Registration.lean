import Mathlib.Data.List.Basic
import Shipyard.Builder.Registration
import Shipyard.Proofs.Json.Members
import Shipyard.Proofs.Text.Blank
import Shipyard.Proofs.Text.Lines

/-!
# Registrations as records and as plain names

A text is read as a record first, and as a plain name if that fails for any reason. Which texts are
records is said here apart from the reader: the document is an object with one text under `name`
and at most one endpoint, or an array of these two, and everything else in it follows the grammar.
The reader goes through the members one by one and keeps the names that are filled, so the notion
that carries the induction is that members complete a registration of which some fields are filled.

An object that is no record is no plain registration either, but this is what it is taken for. It is
never refused: in front of the brace of an object only blanks can stand, hence the line of the brace
is the first one that is neither blank nor a comment, and the name begins with the brace.
-/

namespace Shipyard

namespace Json

/-! ## Objects -/

/-- A text is a document that consists of an object: it is read up to its closing brace, and only a
gap follows. -/
def IsObject (text : String) : Prop :=
  (Document.read text).ended = true ∧
    ∃ members, (Document.read text).content = .object members true

/-- A draft whose value is an object is a closed object. -/
lemma exists_members_of_toJson? {room : Nat} {draft : Draft} {found : List (String × Json)}
    (h : draft.toJson? room = some (.object found)) : ∃ members, draft = .object members true := by
  cases draft with
  | object members closed =>
    unfold Draft.toJson? at h
    split at h
    · exact ⟨members, rfl⟩
    · cases h
  | array items closed =>
    unfold Draft.toJson? at h
    split at h
    · obtain ⟨_, _, hvalue⟩ := Option.map_eq_some_iff.mp h
      cases hvalue
    · cases h
  | number n =>
    obtain ⟨_, _, hvalue⟩ := Option.map_eq_some_iff.mp h
    cases hvalue
  | text s =>
    obtain ⟨_, _, hvalue⟩ := Option.map_eq_some_iff.mp h
    cases hvalue
  | _ => cases h

/-- A document whose value is an object consists of an object. -/
lemma isObject_of_parse? {text : String} {found : List (String × Json)}
    (h : parse? text = some (.object found)) : IsObject text := by
  unfold parse? at h
  dsimp only at h
  split at h
  · exact ⟨‹_›, exists_members_of_toJson? h⟩
  · cases h

variable {cs : List Char} {members : List (Draft × Draft)} {closed : Bool}
  {rest : Option (List Char)}

/-- What is read behind a quote is no object. -/
lemma readText_ne_object : readText cs ≠ (.object members closed, rest) := by
  unfold readText
  split <;> simp

/-- A word that stands for no object is not read as one. -/
lemma readWord_ne_object {word : String} {value : Draft} (h : value ≠ .object members closed) :
    readWord word value cs ≠ (.object members closed, rest) := by
  unfold readWord
  split <;> simp [h]

/-- An object begins with a brace. -/
lemma exists_skipGap_of_readValue {fuel : Nat}
    (h : readValue fuel cs = (.object members closed, rest)) : ∃ tail, skipGap cs = '{' :: tail := by
  cases fuel with
  | zero => cases h
  | succ fuel =>
    unfold readValue at h
    split at h
    -- what is read behind any other character is no object
    case h_4 tail htail => exact ⟨tail, htail⟩
    case h_1 => cases h
    case h_2 => exact absurd h readText_ne_object
    case h_3 =>
      split at h
      · cases h
      · cases h
    case h_5 => exact absurd h (readWord_ne_object (by simp))
    case h_6 => exact absurd h (readWord_ne_object (by simp))
    case h_7 => exact absurd h (readWord_ne_object (by simp))
    case h_8 =>
      unfold readNumber at h
      split at h <;> cases h

/-- The gaps between the tokens of a document are blank. -/
lemma isBlank_of_isGap {c : Char} (h : isGap c = true) : Text.isBlank c = true := by
  simp only [isGap, Bool.or_eq_true, beq_iff_eq] at h
  rcases h with ((rfl | rfl) | rfl) | rfl <;> decide

/-- In front of the brace of an object there is nothing but a gap. -/
lemma exists_gap_of_isObject {text : String} (h : IsObject text) :
    ∃ gap tail, text.toList = gap ++ '{' :: tail ∧ ∀ c ∈ gap, isGap c = true := by
  obtain ⟨-, members, hcontent⟩ := h
  have hread : ∃ fuel rest, readValue fuel text.toList = (.object members true, rest) := by
    unfold Document.read at hcontent
    dsimp only at hcontent
    split at hcontent
    all_goals
      rename_i hvalue
      exact ⟨_, _, hvalue.trans (by rw [← hcontent])⟩
  obtain ⟨fuel, rest, hvalue⟩ := hread
  obtain ⟨tail, htail⟩ := exists_skipGap_of_readValue hvalue
  refine ⟨text.toList.takeWhile isGap, tail, ?_, fun _ => List.mem_takeWhile_imp⟩
  rw [← htail, skipGap, List.takeWhile_append_dropWhile]

end Json

namespace Builder.Registration

open Json (Draft IsObject)
open Json.Decode hiding optional

/-! ## Records -/

/-- The endpoint that values stand for: there is none, or it is null, or it is a text. -/
inductive IsEndpoint : List Draft → Option String → Prop
  | absent : IsEndpoint [] none
  | null : IsEndpoint [.null] none
  | given (endpoint : String) : IsEndpoint [.text (some endpoint)] (some endpoint)

/-- The keys of members are texts, and their values follow the grammar. -/
def Legible (members : List (Draft × Draft)) : Prop :=
  ∀ member ∈ members, (∃ key, member.1 = .text (some key)) ∧ member.2.isWhole = true

/-- What a registration is as a record: an object with one text under its name, or an array that
begins with the name. -/
inductive IsRecord : Draft → Registration → Prop
  | object {members : List (Draft × Draft)} {r : Registration} (legible : Legible members)
      (name : valuesUnder "name" members = [.text (some r.name)])
      (endpoint : IsEndpoint (valuesUnder "endpoint" members) r.endpoint) :
      IsRecord (.object members true) r
  | array {rest : List Draft} {r : Registration} (endpoint : IsEndpoint rest r.endpoint) :
      IsRecord (.array (.text (some r.name) :: rest) true) r

/-- A text is decoded from a draft of it. -/
lemma text_eq_ok_iff {value : Draft} {s : String} :
    text value = .ok s ↔ value = .text (some s) := by
  unfold text
  split <;> simp_all

/-- An endpoint is decoded from what stands for it. -/
lemma optional_eq_ok_iff {value : Draft} {endpoint : Option String} :
    Json.Decode.optional text value = .ok endpoint ↔ IsEndpoint [value] endpoint := by
  constructor
  · intro h
    unfold Json.Decode.optional at h
    split at h
    · cases h
      exact .null
    · obtain ⟨s, hs, rfl⟩ := exists_of_map_eq_ok h
      rw [text_eq_ok_iff.mp hs]
      exact .given s
  · rintro (_ | _ | _) <;> rfl

/-- The field of the name. -/
def nameSlot : Slot Registration :=
  .must "name" text fun v r => { r with name := v }

/-- The field of the endpoint. -/
def endpointSlot : Slot Registration :=
  .may "endpoint" (Json.Decode.optional text) fun v r => { r with endpoint := v }

/-- The fields of a registration. -/
def slots : List (Slot Registration) := [nameSlot, endpointSlot]

/-- The fields have different names. -/
lemma slots_names : (slots.map Slot.name).Nodup := by decide

/-- What members make of a registration of which some fields are filled. -/
structure Completes (members : List (Draft × Draft)) (seen : List String) (r r' : Registration) :
    Prop where
  legible : Legible members
  named : "name" ∈ seen ∨ valuesUnder "name" members ≠ []
  name : Takes "name" text members seen r.name r'.name
  endpoint : Takes "endpoint" (Json.Decode.optional text) members seen r.endpoint r'.endpoint

variable {members : List (Draft × Draft)} {member : Draft × Draft} {value : Draft} {key : String}
  {seen : List String} {r r' : Registration}

/-- A member is legible if its key is a text and its value follows the grammar. -/
lemma legible_cons : Legible ((.text (some key), value) :: members) ↔
    value.isWhole = true ∧ Legible members := by
  unfold Legible
  simp

/-- A name is filled in once, and has to be a text. -/
lemma fillMember_name {filled : Registration × List String} :
    fillMember slots (.text (some "name"), value) seen r = .ok filled ↔
      "name" ∉ seen ∧ ∃ name, text value = .ok name ∧
        ({ r with name }, "name" :: seen) = filled := by
  have hslot : nameSlot ∈ slots := List.mem_cons_self
  exact fillMember_eq_ok_iff slots_names hslot fun _ _ => rfl

/-- An endpoint is filled in once, and has to be a text or null. -/
lemma fillMember_endpoint {filled : Registration × List String} :
    fillMember slots (.text (some "endpoint"), value) seen r = .ok filled ↔
      "endpoint" ∉ seen ∧ ∃ endpoint, Json.Decode.optional text value = .ok endpoint ∧
        ({ r with endpoint }, "endpoint" :: seen) = filled := by
  have hslot : endpointSlot ∈ slots := List.mem_cons_of_mem _ List.mem_cons_self
  exact fillMember_eq_ok_iff slots_names hslot fun _ _ => rfl

/-- A name completes a registration if it can be filled in and the members behind it complete what
comes of that. -/
lemma completes_name : Completes ((.text (some "name"), value) :: members) seen r r' ↔
    ∃ filled, fillMember slots (.text (some "name"), value) seen r = .ok filled ∧
      Completes members filled.2 filled.1 r' := by
  have hne : "name" ≠ "endpoint" := by decide
  constructor
  · intro h
    obtain ⟨hseen, name, hname, hrest⟩ := takes_cons_self.mp h.name
    refine ⟨({ r with name }, "name" :: seen), fillMember_name.mpr ⟨hseen, name, hname, rfl⟩, ?_⟩
    exact
      { legible := (legible_cons.mp h.legible).2
        named := Or.inl List.mem_cons_self
        name := hrest
        endpoint := (takes_seen_of_ne hne).mpr ((takes_cons_of_ne hne).mp h.endpoint) }
  · rintro ⟨filled, hfill, h⟩
    obtain ⟨hseen, name, hname, rfl⟩ := fillMember_name.mp hfill
    have hwhole : value.isWhole = true := by
      rw [text_eq_ok_iff.mp hname]
      rfl
    exact
      { legible := legible_cons.mpr ⟨hwhole, h.legible⟩
        named := Or.inr (by simp [valuesUnder_cons_self])
        name := takes_cons_self.mpr ⟨hseen, name, hname, h.name⟩
        endpoint := (takes_cons_of_ne hne).mpr ((takes_seen_of_ne hne).mp h.endpoint) }

/-- An endpoint completes a registration if it can be filled in and the members behind it complete
what comes of that. -/
lemma completes_endpoint : Completes ((.text (some "endpoint"), value) :: members) seen r r' ↔
    ∃ filled, fillMember slots (.text (some "endpoint"), value) seen r = .ok filled ∧
      Completes members filled.2 filled.1 r' := by
  have hne : "endpoint" ≠ "name" := by decide
  have hnamed : ("name" ∈ seen ∨
      valuesUnder "name" ((.text (some "endpoint"), value) :: members) ≠ []) ↔
      ("name" ∈ "endpoint" :: seen ∨ valuesUnder "name" members ≠ []) := by
    rw [valuesUnder_cons_of_ne hne, List.mem_cons, or_iff_right hne.symm]
  constructor
  · intro h
    obtain ⟨hseen, endpoint, hendpoint, hrest⟩ := takes_cons_self.mp h.endpoint
    refine ⟨({ r with endpoint }, "endpoint" :: seen),
      fillMember_endpoint.mpr ⟨hseen, endpoint, hendpoint, rfl⟩, ?_⟩
    exact
      { legible := (legible_cons.mp h.legible).2
        named := hnamed.mp h.named
        name := (takes_seen_of_ne hne).mpr ((takes_cons_of_ne hne).mp h.name)
        endpoint := hrest }
  · rintro ⟨filled, hfill, h⟩
    obtain ⟨hseen, endpoint, hendpoint, rfl⟩ := fillMember_endpoint.mp hfill
    have hwhole : value.isWhole = true := by
      cases optional_eq_ok_iff.mp hendpoint <;> rfl
    exact
      { legible := legible_cons.mpr ⟨hwhole, h.legible⟩
        named := hnamed.mpr h.named
        name := (takes_cons_of_ne hne).mpr ((takes_seen_of_ne hne).mp h.name)
        endpoint := takes_cons_self.mpr ⟨hseen, endpoint, hendpoint, h.endpoint⟩ }

/-- A member under another name has to be whole and is passed over. -/
lemma completes_other (hname : key ≠ "name") (hendpoint : key ≠ "endpoint") :
    Completes ((.text (some key), value) :: members) seen r r' ↔
      ∃ filled, fillMember slots (.text (some key), value) seen r = .ok filled ∧
        Completes members filled.2 filled.1 r' := by
  have hother : ∀ slot ∈ slots, slot.name ≠ key := by
    simp [slots, nameSlot, endpointSlot, Slot.must, Slot.may, hname.symm, hendpoint.symm]
  rw [fillMember_other hother]
  constructor
  · intro h
    obtain ⟨hwhole, hlegible⟩ := legible_cons.mp h.legible
    refine ⟨(r, seen), if_pos hwhole, ?_⟩
    exact
      { legible := hlegible
        named := valuesUnder_cons_of_ne hname value members ▸ h.named
        name := (takes_cons_of_ne hname).mp h.name
        endpoint := (takes_cons_of_ne hendpoint).mp h.endpoint }
  · rintro ⟨filled, hfill, h⟩
    split at hfill
    case isFalse => cases hfill
    case isTrue hwhole =>
      cases hfill
      exact
        { legible := legible_cons.mpr ⟨hwhole, h.legible⟩
          named := (valuesUnder_cons_of_ne hname value members).symm ▸ h.named
          name := (takes_cons_of_ne hname).mpr h.name
          endpoint := (takes_cons_of_ne hendpoint).mpr h.endpoint }

/-- A member completes a registration if it can be filled in and the members behind it complete what
comes of that. -/
lemma completes_cons : Completes (member :: members) seen r r' ↔
    ∃ filled, fillMember slots member seen r = .ok filled ∧
      Completes members filled.2 filled.1 r' := by
  obtain ⟨k, value⟩ := member
  by_cases hk : ∃ key, k = .text (some key)
  · obtain ⟨key, rfl⟩ := hk
    by_cases hname : key = "name"
    · exact hname ▸ completes_name
    by_cases hendpoint : key = "endpoint"
    · exact hendpoint ▸ completes_endpoint
    exact completes_other hname hendpoint
  · refine iff_of_false (fun h => hk (h.legible _ List.mem_cons_self).1) ?_
    rintro ⟨filled, hfill, -⟩
    exact hk (exists_key_of_fillMember hfill)

/-- No members complete a registration that has its name already. -/
lemma completes_nil : Completes [] seen r r' ↔ "name" ∈ seen ∧ r' = r := by
  constructor
  · intro h
    have hname : r'.name = r.name := takes_nil.mp h.name
    have hendpoint : r'.endpoint = r.endpoint := takes_nil.mp h.endpoint
    refine ⟨h.named.resolve_right (by simp [valuesUnder]), ?_⟩
    cases r
    cases r'
    cases hname
    cases hendpoint
    rfl
  · rintro ⟨hseen, rfl⟩
    exact ⟨by simp [Legible], Or.inl hseen, takes_nil.mpr rfl, takes_nil.mpr rfl⟩

/-- Filling a registration from members gives what they complete it to. -/
lemma fillMembers_iff_completes :
    (∃ filled, fillMembers slots members seen r = .ok (r', filled) ∧ "name" ∈ filled) ↔
      Completes members seen r r' := by
  induction members generalizing seen r with
  | nil =>
    rw [completes_nil, fillMembers]
    constructor
    · rintro ⟨filled, hfill, hname⟩
      cases hfill
      exact ⟨hname, rfl⟩
    · rintro ⟨hseen, rfl⟩
      exact ⟨seen, rfl, hseen⟩
  | cons member members ih =>
    rw [completes_cons]
    simp only [fillMembers_cons, ← ih]
    constructor
    · rintro ⟨filled, hfill, hname⟩
      obtain ⟨reached, hmember, hrest⟩ := exists_of_andThen_eq_ok hfill
      exact ⟨reached, hmember, filled, hrest, hname⟩
    · rintro ⟨reached, hmember, filled, hrest, hname⟩
      rw [hmember]
      exact ⟨filled, hrest, hname⟩

/-- Only the name has to be there. -/
lemma find?_missing_eq_none_iff {filled : List String} :
    (slots.find? fun slot => slot.required && !filled.contains slot.name) = none ↔
      "name" ∈ filled := by
  simp [slots, nameSlot, endpointSlot, Slot.must, Slot.may]

/-- An object is what its members complete a registration without any fields to. -/
lemma fromMembers_iff_completes {closed : Bool} {start : Registration} :
    fromMembers slots start members closed = .ok r' ↔
      closed = true ∧ Completes members [] start r' := by
  rw [← fillMembers_iff_completes]
  unfold fromMembers
  constructor
  · intro h
    obtain ⟨⟨filled, seen⟩, hfill, hrest⟩ := exists_of_andThen_eq_ok h
    dsimp only at hrest
    split at hrest
    case isFalse => cases hrest
    case isTrue hclosed =>
      split at hrest
      case h_1 => cases hrest
      case h_2 hmissing =>
        cases hrest
        exact ⟨hclosed, seen, hfill, find?_missing_eq_none_iff.mp hmissing⟩
  · rintro ⟨rfl, filled, hfill, hname⟩
    rw [hfill]
    simp only [bind, Except.bind, if_true, find?_missing_eq_none_iff.mpr hname]
    rfl

/-- What the members of an object make of the endpoint of a registration without one. -/
lemma takes_endpoint_iff {endpoint : Option String} :
    Takes "endpoint" (Json.Decode.optional text) members [] none endpoint ↔
      IsEndpoint (valuesUnder "endpoint" members) endpoint := by
  unfold Takes
  constructor
  · rintro (⟨hvalues, rfl⟩ | ⟨-, value, hvalues, hdecode⟩)
    · rw [hvalues]
      exact .absent
    · rw [hvalues]
      exact optional_eq_ok_iff.mp hdecode
  · intro h
    generalize valuesUnder "endpoint" members = values at h ⊢
    cases h with
    | absent => exact Or.inl ⟨rfl, rfl⟩
    | null => exact Or.inr ⟨List.not_mem_nil, _, rfl, rfl⟩
    | given endpoint => exact Or.inr ⟨List.not_mem_nil, _, rfl, rfl⟩

/-- Members complete a registration without any fields exactly if they are legible and there is one
text under its name and at most one endpoint. -/
lemma completes_iff : Completes members [] { name := "" } r ↔
    Legible members ∧ valuesUnder "name" members = [.text (some r.name)] ∧
      IsEndpoint (valuesUnder "endpoint" members) r.endpoint := by
  constructor
  · intro h
    have hnamed : valuesUnder "name" members ≠ [] := h.named.resolve_left List.not_mem_nil
    refine ⟨h.legible, ?_, takes_endpoint_iff.mp h.endpoint⟩
    rcases h.name with ⟨hnone, -⟩ | ⟨-, value, hvalues, hdecode⟩
    · exact absurd hnone hnamed
    · rw [hvalues, text_eq_ok_iff.mp hdecode]
  · rintro ⟨hlegible, hname, hendpoint⟩
    exact
      { legible := hlegible
        named := Or.inr (by simp [hname])
        name := Or.inr ⟨List.not_mem_nil, _, hname, rfl⟩
        endpoint := takes_endpoint_iff.mpr hendpoint }

/-- An array is a registration if it has a name and at most an endpoint. -/
lemma decode_array {items : List Draft} {closed : Bool} :
    decode (.array items closed) = .ok r ↔ IsRecord (.array items closed) r := by
  constructor
  · intro h
    obtain ⟨⟨filled, rest⟩, hfill, hrest⟩ := exists_of_andThen_eq_ok h
    dsimp only at hrest
    split at hrest
    case isFalse => cases hrest
    case isTrue hempty =>
      cases hrest
      obtain ⟨hnil, rfl⟩ : rest = [] ∧ closed = true := by simpa using hempty
      cases items with
      | nil => cases hfill
      | cons first items =>
        obtain ⟨named, hnamed, hfill⟩ := exists_of_andThen_eq_ok hfill
        obtain ⟨name, hname, rfl⟩ := exists_of_map_eq_ok hnamed
        obtain rfl := text_eq_ok_iff.mp hname
        cases items with
        | nil =>
          cases hfill
          exact .array (r := ⟨name, none⟩) .absent
        | cons second items =>
          obtain ⟨given, hgiven, hfill⟩ := exists_of_andThen_eq_ok hfill
          obtain ⟨endpoint, hendpoint, rfl⟩ := exists_of_map_eq_ok hgiven
          cases hfill
          subst hnil
          exact .array (r := ⟨name, endpoint⟩) (optional_eq_ok_iff.mp hendpoint)
  · intro h
    cases h with
    | array hendpoint => cases r; cases hendpoint <;> rfl

/-- A draft is decoded to a registration exactly if it is a record of it. -/
lemma decode_eq_ok_iff {draft : Draft} : decode draft = .ok r ↔ IsRecord draft r := by
  cases draft with
  | object members closed =>
    have hdecode : decode (.object members closed) = .ok r ↔
        closed = true ∧ Completes members [] { name := "" } r := fromMembers_iff_completes
    rw [hdecode, completes_iff]
    constructor
    · rintro ⟨rfl, hlegible, hname, hendpoint⟩
      exact .object hlegible hname hendpoint
    · rintro ⟨hlegible, hname, hendpoint⟩
      exact ⟨rfl, hlegible, hname, hendpoint⟩
  | array items closed => exact decode_array
  | _ => exact iff_of_false (fun h => by cases h) fun h => by cases h

/-! ## Plain names -/

/-- The lines in front of the name in a plain registration: blank ones, and comments. -/
def IsPassedOver (line : List Char) : Prop :=
  Text.trimChars line = [] ∨ (Text.trimChars line).head? = some '#'

/-- The plain reading of a text: its first line that is neither blank nor a comment, without the
blanks at its ends. -/
def IsPlainName (text name : String) : Prop :=
  ∃ before line after, Text.lines text.toList = before ++ line :: after ∧
    (∀ other ∈ before, IsPassedOver other) ∧ ¬IsPassedOver line ∧
    name = String.ofList (Text.trimChars line)

/-- A line is taken for the name unless it is passed over. -/
lemma isNameLine_iff {line : List Char} :
    isNameLine (Text.trimChars line) = true ↔ ¬IsPassedOver line := by
  unfold IsPassedOver
  cases Text.trimChars line with
  | nil => simp [isNameLine]
  | cons c cs => simp [isNameLine]

/-- What is found as the name is the plain reading. -/
lemma plainName?_eq_some_iff {text name : String} :
    plainName? text = some name ↔ IsPlainName text name := by
  unfold plainName? IsPlainName
  rw [List.find?_map, Option.map_map]
  simp only [Option.map_eq_some_iff, List.find?_eq_some_iff_append, Function.comp_apply,
    isNameLine_iff, Bool.not_eq_true', Bool.eq_false_iff, ne_eq, not_not]
  constructor
  · rintro ⟨line, ⟨hline, before, after, hlines, hbefore⟩, rfl⟩
    exact ⟨before, line, after, hlines, hbefore, hline, rfl⟩
  · rintro ⟨before, line, after, hlines, hbefore, hline, rfl⟩
    exact ⟨line, ⟨hline, before, after, hlines, hbefore⟩, rfl⟩

/-- A text that begins with a brace behind a gap has a plain reading, which begins with the
brace. -/
lemma exists_find?_of_brace {gap : List Char} (hgap : ∀ c ∈ gap, Json.isGap c = true)
    (tail : List Char) :
    ∃ name, ((Text.lines (gap ++ '{' :: tail)).map Text.trimChars).find? isNameLine = some name ∧
      name.head? = some '{' := by
  induction gap with
  | nil =>
    obtain ⟨line, rest, hlines⟩ := Text.exists_firstLine tail
    have htrim : Text.trimChars ('{' :: line) = '{' :: Text.dropEndWhile Text.isBlank line := by
      unfold Text.trimChars Text.stripWhile
      rw [List.dropWhile_cons_of_neg (by decide), Text.dropEndWhile_cons (by decide)]
    rw [List.nil_append, Text.lines_cons (by decide) hlines, List.map_cons, htrim]
    exact ⟨_, List.find?_cons_of_pos rfl, rfl⟩
  | cons c gap ih =>
    obtain ⟨name, hname, hhead⟩ := ih fun d hd => hgap d (List.mem_cons_of_mem _ hd)
    refine ⟨name, ?_, hhead⟩
    rw [List.cons_append]
    -- a line feed in the gap ends a line that is passed over, other blanks do not survive trimming
    by_cases hc : c = '\n'
    · rw [Text.lines, if_pos hc, List.map_cons]
      exact hname
    · obtain ⟨line, rest, hlines⟩ := Text.exists_firstLine (gap ++ '{' :: tail)
      have htrim : Text.trimChars (c :: line) = Text.trimChars line := by
        unfold Text.trimChars Text.stripWhile
        rw [List.dropWhile_cons_of_pos (Json.isBlank_of_isGap (hgap c List.mem_cons_self))]
      rw [Text.lines_cons hc hlines, List.map_cons, htrim, ← List.map_cons, ← hlines]
      exact hname

/-- The plain reading of an object begins with its brace. -/
lemma exists_plainName?_of_isObject {text : String} (h : IsObject text) :
    ∃ name, plainName? text = some name ∧ name.toList.head? = some '{' := by
  obtain ⟨gap, tail, htext, hgap⟩ := Json.exists_gap_of_isObject h
  obtain ⟨name, hname, hhead⟩ := exists_find?_of_brace hgap tail
  refine ⟨String.ofList name, ?_, by rwa [String.toList_ofList]⟩
  unfold plainName?
  rw [htext, hname]
  rfl

/-! ## Registrations -/

/-- A text is the record of a registration and nothing else. -/
def Records (text : String) (r : Registration) : Prop :=
  (Json.Document.read text).ended = true ∧ IsRecord (Json.Document.read text).content r

/-- A registration is decoded from a text exactly if the text is its record. -/
lemma decodeText_eq_ok_iff {text : String} :
    Json.decodeText decode text = .ok r ↔ Records text r := by
  unfold Records
  rw [← decode_eq_ok_iff]
  constructor
  · intro h
    obtain ⟨found, hfound, hended⟩ := exists_of_andThen_eq_ok h
    split at hended
    · cases hended
      exact ⟨‹_›, hfound⟩
    · cases hended
  · rintro ⟨hended, hdecode⟩
    unfold Json.decodeText
    simp only [hdecode, hended, bind, Except.bind, if_true]
    rfl

/-- A text that is no record is read as a plain name. -/
lemma parse?_of_not_records {text : String} (h : ∀ r, ¬Records text r) :
    parse? text = (plainName? text).map fun name => { name } := by
  unfold parse?
  cases hdecode : Json.decodeText decode text with
  | error fault => rfl
  | ok found => exact absurd (decodeText_eq_ok_iff.mp hdecode) (h found)

/-- A record is a registration unless its name is blank. -/
lemma parse?_of_records {text : String} (h : Records text r) :
    parse? text = if Text.isBlankText r.name then none else some r := by
  unfold parse?
  rw [decodeText_eq_ok_iff.mpr h]

/-- A text has one record at most. -/
lemma Records.unique {text : String} (h : Records text r) (h' : Records text r') : r = r' := by
  have hdecode := decodeText_eq_ok_iff.mpr h
  rw [decodeText_eq_ok_iff.mpr h'] at hdecode
  exact (Except.ok.inj hdecode).symm

/-- Which registration a record is. -/
lemma parse?_eq_some_iff_of_records {text : String} {other : Registration}
    (h : Records text other) :
    parse? text = some r ↔ Records text r ∧ Text.isBlankText r.name = false := by
  rw [parse?_of_records h]
  constructor
  · intro hparse
    split at hparse
    case isTrue => cases hparse
    case isFalse hblank =>
      obtain rfl := Option.some.inj hparse
      exact ⟨h, Bool.eq_false_iff.mpr hblank⟩
  · rintro ⟨hrecord, hblank⟩
    obtain rfl := hrecord.unique h
    rw [hblank]
    rfl

/-- Which registration a text is that is no record. -/
lemma parse?_eq_some_iff_of_not_records {text : String} (h : ∀ other, ¬Records text other) :
    parse? text = some r ↔ IsPlainName text r.name ∧ r.endpoint = none := by
  rw [parse?_of_not_records h, Option.map_eq_some_iff]
  constructor
  · rintro ⟨name, hname, rfl⟩
    exact ⟨plainName?_eq_some_iff.mp hname, rfl⟩
  · rintro ⟨hname, hendpoint⟩
    refine ⟨r.name, plainName?_eq_some_iff.mpr hname, ?_⟩
    rw [← hendpoint]

/-- An object that is no record is read as a plain name that begins with its brace. -/
lemma exists_parse?_of_isObject {text : String} (hobject : IsObject text)
    (h : ∀ other, ¬Records text other) :
    ∃ name, parse? text = some { name } ∧ name.toList.head? = some '{' := by
  obtain ⟨name, hname, hhead⟩ := exists_plainName?_of_isObject hobject
  refine ⟨name, ?_, hhead⟩
  rw [parse?_of_not_records h, hname]
  rfl

/-- An object is refused exactly if it is a record with a blank name. -/
lemma parse?_eq_none_iff_of_isObject {text : String} (hobject : IsObject text) :
    parse? text = none ↔ ∃ r, Records text r ∧ Text.isBlankText r.name = true := by
  constructor
  · intro hparse
    by_cases hrecord : ∃ r, Records text r
    · obtain ⟨r, hr⟩ := hrecord
      refine ⟨r, hr, ?_⟩
      rw [parse?_of_records hr] at hparse
      split at hparse
      case isTrue hblank => exact hblank
      case isFalse => cases hparse
    · obtain ⟨name, hname, -⟩ := exists_parse?_of_isObject hobject (not_exists.mp hrecord)
      rw [hparse] at hname
      cases hname
  · rintro ⟨r, hrecord, hblank⟩
    rw [parse?_of_records hrecord, if_pos hblank]

/-- A text is a registration in one of two ways: it is a record whose name is not blank, or it is no
record at all and has a plain reading. An object is refused only if it is a record with a blank
name. If it is no record, because its name is missing or no text, or a field is there twice, or its
endpoint is neither a text nor null, then it is taken for a plain name, which begins with the
brace. -/
theorem parse?_reads_records_and_names (text : String) :
    (∀ r, parse? text = some r ↔
      Records text r ∧ Text.isBlankText r.name = false ∨
        (∀ other, ¬Records text other) ∧ IsPlainName text r.name ∧ r.endpoint = none) ∧
    (IsObject text →
      (parse? text = none ↔ ∃ r, Records text r ∧ Text.isBlankText r.name = true) ∧
      ((∀ other, ¬Records text other) →
        ∃ name, parse? text = some { name } ∧ name.toList.head? = some '{')) := by
  refine ⟨fun r => ?_, fun hobject =>
    ⟨parse?_eq_none_iff_of_isObject hobject, exists_parse?_of_isObject hobject⟩⟩
  by_cases hrecord : ∃ other, Records text other
  · obtain ⟨other, hother⟩ := hrecord
    rw [parse?_eq_some_iff_of_records hother, or_iff_left fun hplain => hplain.1 other hother]
  · rw [not_exists] at hrecord
    rw [parse?_eq_some_iff_of_not_records hrecord, and_iff_right hrecord,
      or_iff_right fun h => hrecord r h.1]

/-- An object without a name is no record, and it is read as a plain name. One with a blank name is
a record, and it is refused. -/
theorem nameless_object_is_plain :
    let nameless := "\x7b\"endpoint\":null\x7d"
    let blank := "\x7b\"name\":\" \"\x7d"
    IsObject nameless ∧ (∀ other, ¬Records nameless other) ∧
      (∃ name, parse? nameless = some { name } ∧ name.toList.head? = some '{') ∧
      IsObject blank ∧ Records blank ⟨" ", none⟩ ∧ parse? blank = none := by
  intro nameless blank
  have hnameless : IsObject nameless := by
    have hread : Json.parse? nameless = some (.object [("endpoint", .null)]) := by decide +kernel
    exact Json.isObject_of_parse? hread
  have hblank : IsObject blank := by
    have hread : Json.parse? blank = some (.object [("name", .text " ")]) := by decide +kernel
    exact Json.isObject_of_parse? hread
  have hrecord : Records blank ⟨" ", none⟩ := decodeText_eq_ok_iff.mp (by decide +kernel)
  have hnone : ∀ other, ¬Records nameless other := by
    intro other h
    have hfault : (Json.decodeText decode nameless).toOption = none := by decide +kernel
    rw [decodeText_eq_ok_iff.mpr h] at hfault
    cases hfault
  exact ⟨hnameless, hnone, ((parse?_reads_records_and_names nameless).2 hnameless).2 hnone,
    hblank, hrecord,
    ((parse?_reads_records_and_names blank).2 hblank).1.mpr ⟨_, hrecord, by decide⟩⟩

/-- An object in which only an endpoint stands is a registration, with the whole object for its
name. -/
theorem nameless_object_is_registration :
    let text := "\x7b\"endpoint\":\"tcp://10.0.0.9:1234\"\x7d"
    Json.parse? text = some (.object [("endpoint", .text "tcp://10.0.0.9:1234")]) ∧
      IsObject text ∧ parse? text = some { name := text } := by
  intro text
  have hobject : Json.parse? text = some (.object [("endpoint", .text "tcp://10.0.0.9:1234")]) := by
    decide +kernel
  exact ⟨hobject, Json.isObject_of_parse? hobject, by decide +kernel⟩

end Builder.Registration

end Shipyard
