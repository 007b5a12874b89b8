import Mathlib
import Shipyard.Proofs.Json.Restore
import Shipyard.ReleaseFile.Decode
import Shipyard.ReleaseFile.Encode

/-!
# Release files are read back

Every number of a release file that was read is below the bound of its type. That is all it takes
for the file to be restored from its document, section by section.
-/

namespace Shipyard.ReleaseFile

open Json Json.Decode

/-! ## Numbers within their types -/

/-- The port of a `remote` section has 16 bits. -/
def RemoteSection.InRange (s : RemoteSection) : Prop := s.port < 65536

/-- The numbers of a `retry` section have 32 and 64 bits. -/
def RetrySection.InRange (s : RetrySection) : Prop :=
  s.maxAttempts < 4294967296 ∧ s.delaySecs < 18446744073709551616

/-- The numbers of a `timeouts` section have 64 bits. -/
def TimeoutSection.InRange (s : TimeoutSection) : Prop :=
  s.connectSecs < 18446744073709551616 ∧ s.transferSecs < 18446744073709551616 ∧
    s.probeSecs < 18446744073709551616

/-- The numbers of an `api` section have 64 and 32 bits. -/
def ApiSection.InRange (s : ApiSection) : Prop :=
  s.settleSecs < 18446744073709551616 ∧ s.healthAttempts < 4294967296

/-- All numbers of a release file are within their types. -/
def InRange (f : ReleaseFile) : Prop :=
  f.remote.InRange ∧ f.retry.InRange ∧ f.timeouts.InRange ∧ f.api.InRange

/-- A `remote` section that was read is within its types. -/
lemma RemoteSection.inRange_of_decode {draft : Draft} {s : RemoteSection}
    (h : RemoteSection.decode draft = .ok s) : s.InRange := by
  have hstart : RemoteSection.InRange {} := by
    unfold RemoteSection.InRange
    decide
  refine record_keeps ?_ h hstart
  simp only [List.forall_mem_cons]
  exact ⟨Slot.may_keeps fun _ _ _ _ hs => hs, Slot.may_keeps fun _ _ _ _ hs => hs,
    Slot.may_keeps fun _ _ _ hport _ => lt_of_natural hport,
    Slot.may_keeps fun _ _ _ _ hs => hs, Slot.may_keeps fun _ _ _ _ hs => hs,
    fun _ hslot => absurd hslot List.not_mem_nil⟩

/-- A `retry` section that was read is within its types. -/
lemma RetrySection.inRange_of_decode {draft : Draft} {s : RetrySection}
    (h : RetrySection.decode draft = .ok s) : s.InRange := by
  have hstart : RetrySection.InRange {} := by
    unfold RetrySection.InRange
    decide
  refine record_keeps ?_ h hstart
  simp only [List.forall_mem_cons]
  exact ⟨Slot.may_keeps fun _ _ _ hmax hs => ⟨lt_of_natural hmax, hs.2⟩,
    Slot.may_keeps fun _ _ _ hdelay hs => ⟨hs.1, lt_of_natural hdelay⟩,
    fun _ hslot => absurd hslot List.not_mem_nil⟩

/-- A `timeouts` section that was read is within its types. -/
lemma TimeoutSection.inRange_of_decode {draft : Draft} {s : TimeoutSection}
    (h : TimeoutSection.decode draft = .ok s) : s.InRange := by
  have hstart : TimeoutSection.InRange {} := by
    unfold TimeoutSection.InRange
    decide
  refine record_keeps ?_ h hstart
  simp only [List.forall_mem_cons]
  exact ⟨Slot.may_keeps fun _ _ _ hconnect hs => ⟨lt_of_natural hconnect, hs.2⟩,
    Slot.may_keeps fun _ _ _ htransfer hs => ⟨hs.1, lt_of_natural htransfer, hs.2.2⟩,
    Slot.may_keeps fun _ _ _ hprobe hs => ⟨hs.1, hs.2.1, lt_of_natural hprobe⟩,
    fun _ hslot => absurd hslot List.not_mem_nil⟩

/-- An `api` section that was read is within its types. -/
lemma ApiSection.inRange_of_decode {draft : Draft} {s : ApiSection}
    (h : ApiSection.decode draft = .ok s) : s.InRange := by
  have hstart : ApiSection.InRange {} := by
    unfold ApiSection.InRange
    decide
  refine record_keeps ?_ h hstart
  simp only [List.forall_mem_cons]
  exact ⟨Slot.may_keeps fun _ _ _ _ hs => hs, Slot.may_keeps fun _ _ _ _ hs => hs,
    Slot.may_keeps fun _ _ _ _ hs => hs, Slot.may_keeps fun _ _ _ _ hs => hs,
    Slot.may_keeps fun _ _ _ hsettle hs => ⟨lt_of_natural hsettle, hs.2⟩,
    Slot.may_keeps fun _ _ _ hattempts hs => ⟨hs.1, lt_of_natural hattempts⟩,
    fun _ hslot => absurd hslot List.not_mem_nil⟩

/-- A release file that was read is within its types. -/
lemma inRange_of_decode {draft : Draft} {file : ReleaseFile} (h : decode draft = .ok file) :
    file.InRange := by
  have hstart : InRange {} := by
    unfold InRange RemoteSection.InRange RetrySection.InRange TimeoutSection.InRange
      ApiSection.InRange
    decide
  refine record_keeps ?_ h hstart
  simp only [slots, List.forall_mem_cons]
  exact ⟨Slot.may_keeps fun _ _ _ _ hf => hf, Slot.may_keeps fun _ _ _ _ hf => hf,
    Slot.may_keeps fun _ _ _ _ hf => hf, Slot.may_keeps fun _ _ _ _ hf => hf,
    Slot.may_keeps fun _ _ _ _ hf => hf,
    Slot.may_keeps fun _ _ _ hremote hf => ⟨RemoteSection.inRange_of_decode hremote, hf.2⟩,
    Slot.may_keeps fun _ _ _ _ hf => hf, Slot.may_keeps fun _ _ _ _ hf => hf,
    Slot.may_keeps fun _ _ _ hretry hf => ⟨hf.1, RetrySection.inRange_of_decode hretry, hf.2.2⟩,
    Slot.may_keeps fun _ _ _ htimeouts hf =>
      ⟨hf.1, hf.2.1, TimeoutSection.inRange_of_decode htimeouts, hf.2.2.2⟩,
    Slot.may_keeps fun _ _ _ hapi hf =>
      ⟨hf.1, hf.2.1, hf.2.2.1, ApiSection.inRange_of_decode hapi⟩,
    Slot.may_keeps fun _ _ _ _ hf => hf, fun _ hslot => absurd hslot List.not_mem_nil⟩

/-! ## Sections -/

/-- A `remote` section is restored. -/
lemma RemoteSection.restores {s : RemoteSection} (h : s.InRange) :
    Restores RemoteSection.decode s.toJson s :=
  restores_record (by decide) <|
    .may (restores_text s.host) <| .may (restores_text s.user) <|
    .may (restores_natural h (by decide)) <| .may (restores_optional s.identityFile) <|
    .may (restores_text s.workDir) <| .nil s

/-- A `secret` section is restored. -/
lemma SecretSection.restores (s : SecretSection) : Restores SecretSection.decode s.toJson s :=
  restores_record (by decide) <|
    .may (restores_text s.file) <| .may (restores_text s.key) <|
    .may (restores_optional s.buildArg) <| .nil s

/-- A `builder` section is restored. -/
lemma BuilderSection.restores (s : BuilderSection) : Restores BuilderSection.decode s.toJson s :=
  restores_record (by decide) <|
    .may (restores_optional s.registrationFile) <| .may (restores_text s.targetPlatform) <| .nil s

/-- A `retry` section is restored. -/
lemma RetrySection.restores {s : RetrySection} (h : s.InRange) :
    Restores RetrySection.decode s.toJson s :=
  restores_record (by decide) <|
    .may (restores_natural h.1 (by decide)) <| .may (restores_natural h.2 (by decide)) <| .nil s

/-- A `timeouts` section is restored. -/
lemma TimeoutSection.restores {s : TimeoutSection} (h : s.InRange) :
    Restores TimeoutSection.decode s.toJson s :=
  restores_record (by decide) <|
    .may (restores_natural h.1 (by decide)) <| .may (restores_natural h.2.1 (by decide)) <|
    .may (restores_natural h.2.2 (by decide)) <| .nil s

/-- An `api` section is restored. -/
lemma ApiSection.restores {s : ApiSection} (h : s.InRange) :
    Restores ApiSection.decode s.toJson s :=
  restores_record (by decide) <|
    .may (restores_text s.baseUrl) <| .may (restores_optional s.authUrl) <|
    .may (restores_text s.healthPath) <| .may (restores_text s.healthExpect) <|
    .may (restores_natural h.1 (by decide)) <| .may (restores_natural h.2 (by decide)) <| .nil s

/-- A login method is restored from its name. -/
lemma restores_loginMethod (method : LoginMethod) :
    Restores (choice LoginMethod.variants) (.text method.name) method := by
  cases method with
  | phone => exact restores_choice rfl
  | email => exact restores_choice rfl

/-- An identity is restored. -/
lemma IdentitySection.restores (s : IdentitySection) :
    Restores IdentitySection.decode s.toJson s :=
  restores_record (by decide) <|
    .must (restores_text s.name) <| .must (restores_loginMethod s.method) <|
    .must (restores_text s.identifier) <| .may (restores_optional s.password) <|
    .may (restores_optional s.passwordEnv) <| .nil s

/-- A release file whose numbers are within their types is restored. -/
theorem restores_file {file : ReleaseFile} (h : file.InRange) :
    Restores decode file.toJson file :=
  restores_record (by decide) <|
    .may (restores_text file.projectDir) <| .may (restores_text file.image) <|
    .may (restores_text file.dockerfile) <| .may (restores_text file.dockerBin) <|
    .may (restores_text file.service) <| .may (RemoteSection.restores h.1) <|
    .may (SecretSection.restores file.secret) <| .may (BuilderSection.restores file.builder) <|
    .may (RetrySection.restores h.2.1) <| .may (TimeoutSection.restores h.2.2.1) <|
    .may (ApiSection.restores h.2.2.2) <|
    .may (restores_list fun identity _ => IdentitySection.restores identity) <| .nil file

/-- A release file that was read from some text is read again, the same, from what is written for
it. -/
theorem parse_print_of_parse {text origin : String} {file : ReleaseFile}
    (h : parse text origin = .ok file) (origin' : String) : parse file.print origin' = .ok file := by
  have hdecode : ∃ draft, decode draft = .ok file := by
    unfold parse at h
    split at h
    case h_2 => cases h
    case h_1 hread =>
      cases h
      obtain ⟨value, hdecode, hrest⟩ := exists_of_andThen_eq_ok hread
      split at hrest
      · cases hrest
        exact ⟨_, hdecode⟩
      · cases hrest
  obtain ⟨draft, hdecode⟩ := hdecode
  have hread := (restores_file (inRange_of_decode hdecode)).decodeText_compact
  rw [parse, print, hread]

/-- A file that mentions two fields, an absent one and the greatest number of its type, is read back
from the text with all fields. -/
theorem short_file_reads_back :
    let text := "\x7b\"secret\":\x7b\"buildArg\":null\x7d,\"retry\":\x7b\"maxAttempts\":4294967295\x7d\x7d"
    let file : ReleaseFile := { retry := { maxAttempts := 4294967295 } }
    parse text "flowship.json" = .ok file ∧ parse file.print "copy.json" = .ok file := by
  intro text file
  have hread : parse text "flowship.json" = .ok file := by cbv
  exact ⟨hread, parse_print_of_parse hread "copy.json"⟩

end Shipyard.ReleaseFile
