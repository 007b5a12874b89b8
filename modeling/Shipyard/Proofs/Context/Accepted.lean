import Shipyard.Context
import Shipyard.Proofs.Trace.Basic

/-!
# Accepted release files

A release file that is accepted has every required value, and the context it stands for is the file
itself but for what was looked up on the machine: the home directory in paths, the identity file and
the passwords.
-/

namespace Shipyard.Context

/-- The values that a release file must have are not blank. -/
structure HasRequired (file : ReleaseFile) : Prop where
  image : Text.isBlankText file.image = false
  host : Text.isBlankText file.remote.host = false
  user : Text.isBlankText file.remote.user = false
  workDir : Text.isBlankText file.remote.workDir = false
  baseUrl : Text.isBlankText file.api.baseUrl = false

/-- The context of a release file, with what was looked up on the machine. -/
def assembled (file : ReleaseFile) (projectDir : String) (identityFile : Option String)
    (identities : List Identity) : Context where
  projectDir := projectDir
  image := file.image
  dockerfile := file.dockerfile
  dockerBin := file.dockerBin
  service := file.service
  target :=
    { host := file.remote.host, user := file.remote.user, port := file.remote.port, identityFile,
      workDir := file.remote.workDir }
  secret := file.secret
  builder := file.builder
  retry := ⟨file.retry.maxAttempts, file.retry.delaySecs⟩
  timeouts := file.timeouts
  api := endpoints file.api
  identities := identities

/-- A required value passes its check exactly if it is not blank. -/
lemma require_eq_ok_iff {key value : String} :
    require key value = .ok () ↔ Text.isBlankText value = false := by
  unfold require
  cases Text.isBlankText value <;> simp

/-- A check that is followed by others is passed if all of them are. -/
lemma require_of_bind {key value : String} {next : Unit → Except Failure Unit}
    (h : (require key value >>= next) = .ok ()) :
    Text.isBlankText value = false ∧ next () = .ok () := by
  cases hcheck : require key value with
  | error e =>
    rw [hcheck] at h
    cases h
  | ok _ =>
    rw [hcheck] at h
    exact ⟨require_eq_ok_iff.mp hcheck, h⟩

/-- A release file that passes its checks has all required values. -/
lemma hasRequired_of_requireAll {file : ReleaseFile} (h : requireAll file = .ok ()) :
    HasRequired file := by
  unfold requireAll at h
  obtain ⟨himage, h⟩ := require_of_bind h
  obtain ⟨hhost, h⟩ := require_of_bind h
  obtain ⟨huser, h⟩ := require_of_bind h
  obtain ⟨hworkDir, h⟩ := require_of_bind h
  exact ⟨himage, hhost, huser, hworkDir, require_eq_ok_iff.mp h⟩

variable {σ : Type} {host : Host (StateM σ)} {file : ReleaseFile} {context : Context} {s s' : σ}

/-- The context of an accepted release file. -/
lemma ofReleaseFile_ok (h : ofReleaseFile host file s = (.ok context, s')) :
    HasRequired file ∧ ∃ projectDir identityFile identities,
      context = assembled file projectDir identityFile identities := by
  unfold ofReleaseFile at h
  obtain ⟨_, s₁, hrequired, h⟩ := exists_of_bind_eq_ok h
  obtain ⟨identityFile, s₂, -, h⟩ := exists_of_bind_eq_ok h
  obtain ⟨identities, s₃, -, h⟩ := exists_of_bind_eq_ok h
  obtain ⟨projectDir, s₄, -, h⟩ := exists_of_bind_eq_ok h
  refine ⟨hasRequired_of_requireAll ?_, projectDir, identityFile, identities, ?_⟩
  · exact congrArg Prod.fst hrequired
  · exact (Except.ok.inj (congrArg Prod.fst h)).symm

end Shipyard.Context
