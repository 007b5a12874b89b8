import Shipyard.Conformance.Suite
import Shipyard.Proofs.Conformance.Label
import Shipyard.Proofs.Json.Restore
import Shipyard.Proofs.Json.Taken

/-!
# Suites are read back

The text that is written for an accepted suite is accepted again and gives the same cases. Cases are
written in one form only, while they may be read in several: fields in any order or in an array,
left out or null where there is nothing to say, a body or a map with its keys in any order. What was
read remembers none of this. A body is not null, since null in its place is no body; a map that has
no entry is left out; and the keys of both are in order.

That a body is written and read without a loss is due to where it comes from. Its integers fit 64
bits because they were read, and it is nested no deeper than in the text it was read from. A decimal
would have to be read back from its shortest digits, and is not considered here.
-/

namespace Shipyard.Conformance

open Json Json.Decode

/-! ## Expectations -/

/-- The status of an expectation has 16 bits. -/
def Expectation.InRange : Expectation → Prop
  | .status expected => expected < 65536
  | .notStatus refused => refused < 65536
  | .bodyKey _ => True
  | .bodyLiteral _ => True

/-- An expectation that was read is within its type. -/
lemma Expectation.inRange_of_decode {room : Nat} {draft : Draft} {expectation : Expectation}
    (h : Expectation.decode room draft = .ok expectation) : expectation.InRange := by
  have hstart : (0 : Nat) < 65536 := by decide
  refine tagged_keeps ?_ h
  simp only [alternatives, List.forall_mem_cons]
  refine ⟨⟨hstart, ?_, nofun⟩, ⟨hstart, ?_, nofun⟩, ⟨trivial, ?_, nofun⟩, ⟨trivial, ?_, nofun⟩,
    nofun⟩
  · exact Slot.keeps_of_decode (fun _ _ => rfl) fun _ _ _ hstatus _ => lt_of_natural hstatus
  · exact Slot.keeps_of_decode (fun _ _ => rfl) fun _ _ _ hstatus _ => lt_of_natural hstatus
  · exact Slot.keeps_of_decode (fun _ _ => rfl) fun _ _ _ _ _ => trivial
  · exact Slot.keeps_of_decode (fun _ _ => rfl) fun _ _ _ _ _ => trivial

/-- An expectation is restored. -/
lemma Expectation.restores {expectation : Expectation} (h : expectation.InRange) (room : Nat) :
    Restores (Expectation.decode room) expectation.toJson expectation := by
  cases expectation with
  | status expected =>
    exact restores_tagged (a := alternatives[0]) rfl (by simp) ⟨canonical_number _ _, trivial⟩
      (by decide) (.must (restores_natural h (by decide)) <| .nil _)
  | notStatus refused =>
    exact restores_tagged (a := alternatives[1]) rfl (by simp) ⟨canonical_number _ _, trivial⟩
      (by decide) (.must (restores_natural h (by decide)) <| .nil _)
  | bodyKey key =>
    exact restores_tagged (a := alternatives[2]) rfl (by simp) ⟨canonical_text _ _, trivial⟩
      (by decide) (.must (restores_text key) <| .nil _)
  | bodyLiteral body =>
    exact restores_tagged (a := alternatives[3]) rfl (by simp) ⟨canonical_text _ _, trivial⟩
      (by decide) (.must (restores_text body) <| .nil _)

/-! ## Cases -/

namespace Case

/-- What is sure of a case that was read, in a document with `room` levels below it. -/
structure Sound (room : Nat) (case : Case) : Prop where
  expect : case.expect.InRange
  body : ∀ v, case.body = some v → Whole room v
  extract : Dictionary.Ascending case.extract

/-- A case that was read is sound. -/
lemma sound_of_decode {room : Nat} {draft : Draft} {case : Case} (hkept : draft.Kept)
    (h : Case.decode room draft = .ok case) : case.Sound room := by
  have hstatus : (0 : Nat) < 65536 := by decide
  have hstart : Sound room { name := "", path := "", expect := .status 0 } :=
    ⟨hstatus, nofun, List.Pairwise.nil⟩
  refine record_keepsFrom ?_ h hstart
  simp only [slots, List.forall_mem_cons]
  -- most fields have nothing to do with what is sure of a case
  have hother : ∀ {β : Type} {slot : Slot Case} {decode : Decoder β} {set : β → Case → Case},
      (∀ draft c, slot.fill draft c = (decode draft).map (set · c)) →
      (∀ v c, (set v c).expect = c.expect ∧ (set v c).body = c.body ∧
        (set v c).extract = c.extract) →
      ∀ part ∈ parts draft, slot.KeepsFrom (Sound room) part := by
    intro β slot decode set hfill hset part _
    refine Slot.keepsFrom_of_decode hfill fun v c _ hc => ?_
    obtain ⟨hexpect, hbody, hextract⟩ := hset v c
    exact ⟨hexpect ▸ hc.expect, hbody ▸ hc.body, hextract ▸ hc.extract⟩
  refine ⟨hother (fun _ _ => rfl) fun _ _ => ⟨rfl, rfl, rfl⟩,
    hother (fun _ _ => rfl) fun _ _ => ⟨rfl, rfl, rfl⟩,
    hother (fun _ _ => rfl) fun _ _ => ⟨rfl, rfl, rfl⟩, fun part _ => ?_,
    hother (fun _ _ => rfl) fun _ _ => ⟨rfl, rfl, rfl⟩, fun part hpart => ?_, fun part _ => ?_,
    nofun⟩
  · exact Slot.keepsFrom_of_decode (fun _ _ => rfl) fun _ _ hexpect hc =>
      ⟨Expectation.inRange_of_decode hexpect, hc.body, hc.extract⟩
  · refine Slot.keepsFrom_of_decode (fun _ _ => rfl) fun body _ hbody hc =>
      ⟨hc.expect, fun v hv => ?_, hc.extract⟩
    cases hv
    exact whole_of_optional_any (kept_of_mem_parts hkept hpart) hbody
  · exact Slot.keepsFrom_of_decode (fun _ _ => rfl) fun _ _ hextract hc =>
      ⟨hc.expect, hc.body, ascending_of_textMap hextract⟩

/-- A method is restored from its name. -/
lemma restores_method (method : Http.Method) :
    Restores (choice Http.Method.variants) (.text method.name) method := by
  cases method <;> exact restores_choice rfl

/-- Who a case is run for is restored from its name. -/
lemma restores_access (access : Access) :
    Restores (choice [("none", Access.everyone), ("bearer", Access.bearer)]) (.text access.name)
      access := by
  cases access <;> exact restores_choice rfl

/-- A body and a map that are written are filled in again, and one that is left out stays out. -/
lemma exists_fills {room : Nat} {case : Case} (h : case.Sound room)
    (hbody : ∀ v, case.body = some v → v.Integral) :
    ∃ left : List (Slot Case), left.Sublist ((slots room).drop 5) ∧
      Fills left (Json.optional "body" case.body ++
          if case.extract.isEmpty then [] else [("extract", tableToJson case.extract)])
        { case with body := none, extract := [] } case := by
  obtain ⟨name, method, path, expect, access, body, extract⟩ := case
  have hextract := restores_textMap h.extract
  cases body with
  | none =>
    cases extract with
    | nil => exact ⟨[], List.nil_sublist _, .nil _⟩
    | cons entry entries =>
      exact ⟨(slots room).drop 6, List.sublist_cons_self _ _, .may hextract <| .nil _⟩
  | some v =>
    have hwhole := h.body v rfl
    have hv := restores_any hwhole.ne_null hwhole.canonical (hbody v rfl)
    cases extract with
    | nil =>
      exact ⟨((slots room).drop 5).take 1, List.take_sublist _ _, .may hv <| .nil _⟩
    | cons entry entries =>
      exact ⟨(slots room).drop 5, List.Sublist.refl _, .may hv <| .may hextract <| .nil _⟩

/-- A sound case without decimals in its body is restored. -/
lemma restores {room : Nat} {case : Case} (h : case.Sound room)
    (hbody : ∀ v, case.body = some v → v.Integral) :
    Restores (Case.decode room) case.toJson case := by
  obtain ⟨left, hleft, hfills⟩ := exists_fills h hbody
  have hsublist : ((slots room).take 5 ++ left).Sublist (slots room) := by
    have happend := (List.Sublist.refl ((slots room).take 5)).append hleft
    rwa [List.take_append_drop] at happend
  have hnames : ((slots room).map Slot.name).Nodup := by
    change ["name", "method", "path", "expect", "auth", "body", "extract"].Nodup
    decide
  have hrequired : ∀ slot ∈ slots room, slot.required = true →
      slot ∈ (slots room).take 5 ++ left := by
    simp [slots, Slot.must, Slot.may]
  exact restores_record_of_sublist hnames hsublist hrequired <|
    .must (restores_text case.name) <| .may (restores_method case.method) <|
    .must (restores_text case.path) <| .must (case.expect.restores h.expect room) <|
    .may (restores_access case.access) hfills

end Case

/-! ## Suites -/

namespace Suite

/-- Take a suite that is accepted from some text. If no decimal stands in the bodies of its
requests, then the text that is written for it is accepted as well, and gives the same cases in the
same order. -/
theorem parse_compact_of_parse {text origin : String} {cases : List Case}
    (h : parse text origin = .ok cases)
    (hbodies : ∀ case ∈ cases, ∀ body, case.body = some body → ∀ x, .decimal x ∉ numbers body)
    (origin' : String) : parse (toJson cases).compact origin' = .ok cases := by
  obtain ⟨hread, hvalid⟩ := parse_eq_ok_iff.mp h
  obtain ⟨draft, hkept, hdecode⟩ := exists_of_decodeText hread
  have hrestored : Restores decode (toJson cases) cases := by
    refine restores_list fun case hcase => ?_
    obtain ⟨part, hpart, hcaseRead⟩ := exists_of_mem_list hdecode hcase
    have hsound := Case.sound_of_decode (kept_of_mem_parts hkept hpart) hcaseRead
    refine Case.restores hsound fun body hbody => ?_
    exact integral_of_numbers (hsound.body body hbody).kept (hbodies case hcase body hbody)
  exact parse_eq_ok_iff.mpr ⟨hrestored.decodeText_compact, hvalid⟩

/-- A suite file with an absent body that is mentioned, and with a body and a map whose keys are not
in order. -/
def mixedText : String :=
  "[\x7b\"path\":\"/ping\",\"name\":\"ping\",\"body\":null," ++
    "\"expect\":\x7b\"status\":204,\"type\":\"status\"\x7d\x7d," ++
    "\x7b\"name\":\"invite\",\"method\":\"POST\",\"path\":\"/invite\",\"auth\":\"bearer\"," ++
    "\"expect\":\x7b\"type\":\"not_status\",\"status\":405\x7d," ++
    "\"body\":\x7b\"size\":[1,-9223372036854775808],\"name\":\"a\"\x7d," ++
    "\"extract\":\x7b\"token\":\"$.b\",\"id\":\"$.a\"\x7d\x7d]"

/-- The cases in this file. -/
def mixedCases : List Case :=
  [ { name := "ping", path := "/ping", expect := .status 204 },
    { name := "invite", method := .post, path := "/invite", expect := .notStatus 405
      access := .bearer
      body := some (.object
        [("name", .text "a"), ("size", .array [.ofInt 1, .ofInt (-9223372036854775808)])])
      extract := [("id", "$.a"), ("token", "$.b")] } ]

/-- The suite in this file is read back from the text that is written for it. -/
theorem mixedCases_are_read_back :
    parse mixedText "suite.json" = .ok mixedCases ∧
      (∀ case ∈ mixedCases, ∀ body, case.body = some body → ∀ x, .decimal x ∉ numbers body) ∧
      parse (toJson mixedCases).compact "copy.json" = .ok mixedCases := by
  have hparse : parse mixedText "suite.json" = .ok mixedCases :=
    parse_of_toOption (by decide +kernel)
  have hbodies : ∀ case ∈ mixedCases, ∀ body, case.body = some body →
      ∀ x, .decimal x ∉ numbers body := by
    simp only [mixedCases, List.forall_mem_cons]
    refine ⟨nofun, ?_, nofun⟩
    rintro _ ⟨⟩ x
    simp [numbers, itemsNumbers, membersNumbers, Json.ofInt]
  exact ⟨hparse, hbodies, parse_compact_of_parse hparse hbodies "copy.json"⟩

end Suite

end Shipyard.Conformance
