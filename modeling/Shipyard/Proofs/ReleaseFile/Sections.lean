import Mathlib
import Shipyard.Proofs.Json.Members
import Shipyard.ReleaseFile.Decode

/-!
# Sections that are left out

A section that a release file does not mention has the values of the file that mentions nothing. A
section that stands there without fields has the values that its fields start from. These are the
same for every section but `remote`, whose port is 0 where the section is left out and 22 where only
the port is.
-/

namespace Shipyard.ReleaseFile

open Json Json.Decode

/-- A section that may be left out. -/
inductive Section where
  | remote
  | secret
  | builder
  | retry
  | timeouts
  | api
  deriving DecidableEq, Repr

namespace Section

/-- The key of a section. -/
def key : Section → String
  | .remote => "remote"
  | .secret => "secret"
  | .builder => "builder"
  | .retry => "retry"
  | .timeouts => "timeouts"
  | .api => "api"

/-- Take a section over from another file. -/
def copy (source : ReleaseFile) : Section → ReleaseFile → ReleaseFile
  | .remote, file => { file with remote := source.remote }
  | .secret, file => { file with secret := source.secret }
  | .builder, file => { file with builder := source.builder }
  | .retry, file => { file with retry := source.retry }
  | .timeouts, file => { file with timeouts := source.timeouts }
  | .api, file => { file with api := source.api }

/-- A file in which every section stands without fields. -/
def bare : ReleaseFile := { remote := {} }

/-- A section without fields fills its slot with the values of the bare file. -/
lemma exists_slot (which : Section) :
    ∃ slot ∈ slots, slot.name = which.key ∧ slot.required = false ∧
      ∀ file, slot.fill (.object [] true) file = .ok (which.copy bare file) := by
  cases which with
  | remote => exact ⟨_, List.mem_of_getElem? (i := 5) rfl, rfl, rfl, fun _ => rfl⟩
  | secret => exact ⟨_, List.mem_of_getElem? (i := 6) rfl, rfl, rfl, fun _ => rfl⟩
  | builder => exact ⟨_, List.mem_of_getElem? (i := 7) rfl, rfl, rfl, fun _ => rfl⟩
  | retry => exact ⟨_, List.mem_of_getElem? (i := 8) rfl, rfl, rfl, fun _ => rfl⟩
  | timeouts => exact ⟨_, List.mem_of_getElem? (i := 9) rfl, rfl, rfl, fun _ => rfl⟩
  | api => exact ⟨_, List.mem_of_getElem? (i := 10) rfl, rfl, rfl, fun _ => rfl⟩

/-- A section that is taken over from another file has nothing to do with the other slots. -/
lemma commutes (which : Section) (source : ReleaseFile) :
    ∀ slot ∈ slots, slot.name ≠ which.key → slot.Commutes (which.copy source) := by
  simp only [slots, List.forall_mem_cons]
  refine ⟨fun _ => Slot.may_commutes fun _ _ => ?_, fun _ => Slot.may_commutes fun _ _ => ?_,
    fun _ => Slot.may_commutes fun _ _ => ?_, fun _ => Slot.may_commutes fun _ _ => ?_,
    fun _ => Slot.may_commutes fun _ _ => ?_, fun h => Slot.may_commutes fun _ _ => ?_,
    fun h => Slot.may_commutes fun _ _ => ?_, fun h => Slot.may_commutes fun _ _ => ?_,
    fun h => Slot.may_commutes fun _ _ => ?_, fun h => Slot.may_commutes fun _ _ => ?_,
    fun h => Slot.may_commutes fun _ _ => ?_, fun _ => Slot.may_commutes fun _ _ => ?_,
    fun _ hslot => absurd hslot List.not_mem_nil⟩
  -- Only the slot of the section itself would not go together with it.
  all_goals cases which <;> first | rfl | exact absurd rfl h

/-- The slots of a release file have different names. -/
lemma names_nodup : (slots.map Slot.name).Nodup := by decide

variable {which : Section} {before after : List (Draft × Draft)}

/-- An object that does not mention a section leaves it as in the file that mentions nothing. -/
lemma copy_eq_of_absent {members : List (Draft × Draft)} {closed : Bool} {file : ReleaseFile}
    (habsent : ∀ member ∈ members, member.1 ≠ .text (some which.key))
    (h : fromMembers slots {} members closed = .ok file) : which.copy {} file = file := by
  have hstart : which.copy {} {} = ({} : ReleaseFile) := by cases which <;> rfl
  refine fromMembers_keeps (P := fun f => which.copy {} f = f) (fun slot hslot hmember => ?_) h
    hstart
  obtain ⟨value, hvalue⟩ := hmember
  refine (which.commutes {} slot hslot fun hname => ?_).keeps
  exact habsent _ hvalue (by rw [hname])

/-- Next to other members a section without fields takes the values of the bare file over. -/
lemma decode_insert (habsent : ∀ member ∈ before ++ after, member.1 ≠ .text (some which.key)) :
    decode (.object (before ++ (.text (some which.key), .object [] true) :: after) true) =
      (decode (.object (before ++ after) true)).map (which.copy bare) := by
  obtain ⟨slot, hslot, hname, hrequired, hvalue⟩ := which.exists_slot
  have hcommutes := which.commutes bare
  rw [← hname] at habsent hcommutes ⊢
  exact fromMembers_insert names_nodup hslot hrequired hvalue hcommutes habsent {} true

end Section

/-- What a text with a document at its end is parsed as. -/
lemma toOption_parse {text : String} {content : Draft} (h : Document.read text = ⟨content, true⟩)
    (origin : String) : (parse text origin).toOption = (decode content).toOption := by
  unfold parse decodeText
  rw [h]
  dsimp only
  cases decode content <;> rfl

/-- A release file that does not mention a section says the same as the one with the section as an
empty object, for every section but `remote`. An empty `remote` section gives the port 22, a missing
one the port 0. -/
theorem parse_with_empty_section (which : Section) {text text' : String}
    {before after : List (Draft × Draft)}
    (hread : Document.read text = ⟨.object (before ++ after) true, true⟩)
    (hread' : Document.read text' =
      ⟨.object (before ++ (.text (some which.key), .object [] true) :: after) true, true⟩)
    (habsent : ∀ member ∈ before ++ after, member.1 ≠ .text (some which.key))
    (origin origin' : String) :
    (which ≠ .remote → (parse text' origin').toOption = (parse text origin).toOption) ∧
    (which = .remote →
      (∀ file, parse text origin = .ok file → file.remote = { port := 0 }) ∧
      (parse text' origin').toOption =
        (parse text origin).toOption.map fun file => { file with remote := { port := 22 } }) := by
  have hmap : (parse text' origin').toOption =
      (parse text origin).toOption.map (which.copy Section.bare) := by
    rw [toOption_parse hread', toOption_parse hread, Section.decode_insert habsent]
    cases decode (.object (before ++ after) true) <;> rfl
  have hfile : ∀ file, (parse text origin).toOption = some file → which.copy {} file = file := by
    intro file hparse
    rw [toOption_parse hread] at hparse
    cases hdecode : decode (.object (before ++ after) true) with
    | error fault =>
      rw [hdecode] at hparse
      cases hparse
    | ok read =>
      rw [hdecode] at hparse
      cases hparse
      exact Section.copy_eq_of_absent habsent hdecode
  constructor
  · intro hwhich
    rw [hmap]
    cases hparse : (parse text origin).toOption with
    | none => rfl
    | some file =>
      have hcopy : which.copy Section.bare file = which.copy {} file := by
        cases which <;> first | rfl | exact absurd rfl hwhich
      rw [Option.map_some, hcopy, hfile file hparse]
  · rintro rfl
    refine ⟨fun file hparse => ?_, hmap⟩
    have hcopy := hfile file (by rw [hparse]; rfl)
    rw [← hcopy]
    rfl

/-- A file that does not mention `retry` parses to the same with an empty `retry` section in front
of its other members. -/
theorem parse_with_empty_retry :
    (parse "\x7b\"retry\":\x7b\x7d,\"image\":\"app\"\x7d" "a.json").toOption =
      (parse "\x7b\"image\":\"app\"\x7d" "b.json").toOption := by
  have hread : Document.read "\x7b\"image\":\"app\"\x7d" =
      ⟨.object ([] ++ [(.text (some "image"), .text (some "app"))]) true, true⟩ := by cbv
  have hread' : Document.read "\x7b\"retry\":\x7b\x7d,\"image\":\"app\"\x7d" =
      ⟨.object ([] ++ (.text (some Section.retry.key), .object [] true) ::
        [(.text (some "image"), .text (some "app"))]) true, true⟩ := by cbv
  have habsent : ∀ member ∈ [] ++ [(Draft.text (some "image"), Draft.text (some "app"))],
      member.1 ≠ .text (some Section.retry.key) := by
    intro member hmember
    cases List.mem_singleton.mp hmember
    intro hkey
    exact absurd (Option.some.inj (Draft.text.inj hkey)) (by decide)
  exact (parse_with_empty_section .retry hread hread' habsent "b.json" "a.json").1 (by decide)

/-- An empty `remote` section is told from a missing one: it gives another port. -/
theorem empty_remote_changes_port :
    parse "\x7b\x7d" "inline" = .ok { remote := { port := 0 } } ∧
      parse "\x7b\"remote\":\x7b\x7d\x7d" "inline" = .ok { remote := { port := 22 } } ∧
      parse "\x7b\"remote\":\x7b\x7d\x7d" "inline" ≠ parse "\x7b\x7d" "inline" := by
  have habsent : parse "\x7b\x7d" "inline" = .ok { remote := { port := 0 } } := by cbv
  have hempty : parse "\x7b\"remote\":\x7b\x7d\x7d" "inline" = .ok { remote := { port := 22 } } := by
    cbv
  refine ⟨habsent, hempty, ?_⟩
  rw [habsent, hempty]
  intro heq
  have hport := congrArg (fun file => file.remote.port) (Except.ok.inj heq)
  exact absurd hport (by decide)

end Shipyard.ReleaseFile
