import Shipyard.Builder.Registration
import Shipyard.Proofs.Context.Required

/-!
# Settings that are empty

An optional setting may be given as an empty text, and an empty one is meant as one that is left
out. The identity file, the registration file, the root of the token endpoint and a password are
read that way, so it does not matter whether an empty one of these is cleared. Two settings are not.

The name of the build argument is the key of the secret only if the setting is left out; an empty
name is used as it is. And an empty name of a variable is looked up. No variable has this name, so
the identity has no password either way, but what is reported is a variable without a value and not
a password that is missing. This is seen at the first identity without a password and nowhere else,
since the identities are gone through in order and nothing is reported behind the first failure.
-/

namespace Shipyard.Context

open Builder (Registration)
open ReleaseFile (IdentitySection)

/-! ## Clearing -/

/-- A setting stays as it is or, if it is empty, is cleared. -/
inductive Cleared : Option String → Option String → Prop
  | kept (setting : Option String) : Cleared setting setting
  | emptied : Cleared (some "") none

/-- In an entry for an identity, empty settings may be cleared. -/
structure ClearedEntry (entry entry' : IdentitySection) : Prop where
  password : Cleared entry.password entry'.password
  passwordEnv : Cleared entry.passwordEnv entry'.passwordEnv
  others : entry' =
    { entry with password := entry'.password, passwordEnv := entry'.passwordEnv }

/-- In a release file, empty settings may be cleared. -/
structure ClearedFile (file file' : ReleaseFile) : Prop where
  identityFile : Cleared file.remote.identityFile file'.remote.identityFile
  buildArg : Cleared file.secret.buildArg file'.secret.buildArg
  registrationFile : Cleared file.builder.registrationFile file'.builder.registrationFile
  authUrl : Cleared file.api.authUrl file'.api.authUrl
  identities : List.Forall₂ ClearedEntry file.identities file'.identities
  others : file' =
    { file with
      remote := { file.remote with identityFile := file'.remote.identityFile }
      secret := { file.secret with buildArg := file'.secret.buildArg }
      builder := { file.builder with registrationFile := file'.builder.registrationFile }
      api := { file.api with authUrl := file'.api.authUrl }
      identities := file'.identities }

/-- A setting that counts as left out if it is empty is the same when it is cleared. -/
lemma Cleared.nonEmpty?_eq {setting setting' : Option String} (h : Cleared setting setting') :
    nonEmpty? setting' = nonEmpty? setting := by
  cases h <;> rfl

variable {machine : Host Id} {file file' : ReleaseFile}

/-! ## Identities -/

/-- The first entry without a password has lost the empty name of its variable. -/
inductive NameLost (machine : Host Id) : List IdentitySection → List IdentitySection → Prop
  | here {entry entry' : IdentitySection} {later later' : List IdentitySection}
      (blank : entry.password = none ∨ entry.password = some "")
      (emptied : entry.passwordEnv = some "") (cleared : entry'.passwordEnv = none) :
      NameLost machine (entry :: later) (entry' :: later')
  | later {entry entry' : IdentitySection} {later later' : List IdentitySection}
      (found : ∃ text, PasswordOf machine entry text) (lost : NameLost machine later later') :
      NameLost machine (entry :: later) (entry' :: later')

/-- An entry that keeps the name of its variable, or does not need it, says the same. -/
lemma identity_eq_of_cleared {entry entry' : IdentitySection} (h : ClearedEntry entry entry')
    (hkept : entry'.passwordEnv = entry.passwordEnv ∨ nonEmpty? entry.password ≠ none) :
    identity machine entry' = identity machine entry := by
  have hpassword : password machine entry' = password machine entry := by
    rw [h.others]
    unfold password
    dsimp only
    rw [h.password.nonEmpty?_eq]
    rcases hkept with hkept | hgiven
    · rw [hkept]
    · cases hwritten : nonEmpty? entry.password with
      | some text => rfl
      | none => exact absurd hwritten hgiven
  unfold identity
  rw [hpassword, h.others]

/-- Two entries say the same, or the second has lost a name that the first needs. -/
lemma identity_eq_or_lost (machine : Host Id) {entry entry' : IdentitySection}
    (h : ClearedEntry entry entry') :
    identity machine entry' = identity machine entry ∨
      (entry.password = none ∨ entry.password = some "") ∧
        entry.passwordEnv = some "" ∧ entry'.passwordEnv = none := by
  by_cases hgiven : nonEmpty? entry.password = none
  · generalize hnamed : entry.passwordEnv = named
    generalize hnamed' : entry'.passwordEnv = named'
    have hcleared := h.passwordEnv
    rw [hnamed, hnamed'] at hcleared
    cases hcleared with
    | kept => exact .inl (identity_eq_of_cleared h (.inl (hnamed'.trans hnamed.symm)))
    | emptied => exact .inr ⟨nonEmpty?_eq_none_iff.mp hgiven, rfl, rfl⟩
  · exact .inl (identity_eq_of_cleared h (.inr hgiven))

/-- A password that is blank stays blank when it is cleared. -/
lemma Cleared.blank {setting setting' : Option String} (h : Cleared setting setting')
    (hblank : setting = none ∨ setting = some "") : setting' = none ∨ setting' = some "" :=
  nonEmpty?_eq_none_iff.mp (h.nonEmpty?_eq.trans (nonEmpty?_eq_none_iff.mpr hblank))

/-- No identity is found for an entry without a password. -/
lemma outcome_identity_of_noPassword {entry : IdentitySection} {failure : Failure}
    (h : NoPassword machine entry failure) : outcome (identity machine entry) = .error failure :=
  outcome_bind_eq_error_iff.mpr (.inl (outcome_password_of_noPassword h))

/-- An entry that has a password is one for which an identity is found. -/
lemma exists_outcome_identity {entry : IdentitySection}
    (h : ∃ text, PasswordOf machine entry text) :
    ∃ found, outcome (identity machine entry) = .ok found := by
  obtain ⟨text, htext⟩ := h
  have hresolved : Resolved machine entry ⟨entry.name, entry.method, entry.identifier, text⟩ :=
    ⟨rfl, rfl, rfl, htext⟩
  exact ⟨_, outcome_identity_eq_ok_iff.mpr hresolved⟩

/-- An entry with a password says the same when it is cleared: it does not need an empty name. -/
lemma identity_eq_of_found (hunset : machine.environment "" = none)
    {entry entry' : IdentitySection} (h : ClearedEntry entry entry')
    (hfound : ∃ text, PasswordOf machine entry text) :
    identity machine entry' = identity machine entry := by
  refine (identity_eq_or_lost machine h).resolve_right fun ⟨hblank, hemptied, _⟩ => ?_
  -- a password would have to come from the variable with the empty name
  obtain ⟨text, hfound⟩ := hfound
  cases hfound with
  | written given nonempty =>
    rw [given] at hblank
    exact nonempty (Option.some.inj (hblank.resolve_left nofun))
  | lookedUp blank named found =>
    obtain rfl := Option.some.inj (named.symm.trans hemptied)
    exact absurd (hunset.symm.trans found) nofun

/-- The identities of entries are the first one and the others, if they are found. -/
lemma outcome_identitiesOf_cons {entry : IdentitySection} {later : List IdentitySection} :
    outcome (identitiesOf machine (entry :: later)) =
      (outcome (identity machine entry)).bind fun first =>
        (outcome (identitiesOf machine later)).map (first :: ·) := by
  rw [identitiesOf, outcome_bind]
  cases outcome (identity machine entry) with
  | error failure => rfl
  | ok first =>
    change outcome (identitiesOf machine later >>= fun others => pure (first :: others)) = _
    rw [outcome_bind]
    cases outcome (identitiesOf machine later) <;> rfl

/-- What is reported of the first entry is what is reported of all of them. -/
lemma outcome_identitiesOf_of_error {entry : IdentitySection} {later : List IdentitySection}
    {failure : Failure} (h : outcome (identity machine entry) = .error failure) :
    outcome (identitiesOf machine (entry :: later)) = .error failure := by
  rw [outcome_identitiesOf_cons, h]
  rfl

/-- If no name is lost, the same comes of the entries. -/
lemma outcome_identitiesOf_of_kept {entries entries' : List IdentitySection}
    (h : List.Forall₂ ClearedEntry entries entries') (hkept : ¬ NameLost machine entries entries') :
    outcome (identitiesOf machine entries') = outcome (identitiesOf machine entries) := by
  induction h with
  | nil => rfl
  | @cons entry entry' later later' hfirst _ ih =>
    rw [outcome_identitiesOf_cons, outcome_identitiesOf_cons]
    rcases identity_eq_or_lost machine hfirst with hsame | ⟨hblank, hemptied, hcleared⟩
    · rw [hsame]
      cases hfound : outcome (identity machine entry) with
      | error failure => rfl
      | ok first =>
        have hpassword := (outcome_identity_eq_ok_iff.mp hfound).password
        rw [ih fun hlost => hkept (.later ⟨_, hpassword⟩ hlost)]
    · exact absurd (.here hblank hemptied hcleared) hkept

/-- If a name is lost, one reports a variable without a value and the other a missing password. -/
lemma outcome_identitiesOf_of_nameLost (hunset : machine.environment "" = none)
    {entries entries' : List IdentitySection} (h : List.Forall₂ ClearedEntry entries entries')
    (hlost : NameLost machine entries entries') :
    ∃ failure failure', outcome (identitiesOf machine entries) = .error failure ∧
      outcome (identitiesOf machine entries') = .error failure' ∧
      failure.code = "config.invalid_value" ∧ failure'.code = "config.missing_key" := by
  induction hlost with
  | here blank emptied cleared =>
    cases h with
    | cons hfirst hlater =>
      have hunset := NoPassword.unset blank emptied hunset
      have habsent : NoPassword machine _ _ := .absent (hfirst.password.blank blank) cleared
      exact ⟨_, _, outcome_identitiesOf_of_error (outcome_identity_of_noPassword hunset),
        outcome_identitiesOf_of_error (outcome_identity_of_noPassword habsent), rfl, rfl⟩
  | later found lost ih =>
    cases h with
    | cons hfirst hlater =>
      obtain ⟨failure, failure', hfails, hfails', hcode⟩ := ih hlater
      obtain ⟨first, hfound⟩ := exists_outcome_identity found
      refine ⟨failure, failure', ?_, ?_, hcode⟩
      · rw [outcome_identitiesOf_cons, hfound, hfails]
        rfl
      · rw [outcome_identitiesOf_cons, identity_eq_of_found hunset hfirst found, hfound, hfails']
        rfl

/-! ## Release files -/

/-- What comes of a release file is put together from what comes of its parts, in order. -/
lemma outcome_ofReleaseFile :
    outcome (ofReleaseFile machine file) =
      (requireAll file).bind fun _ =>
        (outcome (identityFile machine file.remote.identityFile)).bind fun found =>
          (outcome (identitiesOf machine file.identities)).map
            (assembled file (machine.expandHome file.projectDir) found) := by
  unfold ofReleaseFile
  rw [outcome_bind]
  change (requireAll file).bind _ = _
  congr 1
  funext _
  rw [outcome_bind]
  congr 1
  funext found
  rw [outcome_bind]
  cases outcome (identitiesOf machine file.identities) <;> rfl

/-- The build argument has an empty name in one release file and none in the other. The key of the
secret stands in for it in the other one only. -/
def ArgumentLost (file file' : ReleaseFile) : Prop :=
  file.secret.buildArg = some "" ∧ file'.secret.buildArg = none ∧ file.secret.key ≠ ""

/-- What comes of two release files is alike. Both are accepted, with the same for all that the
settings are about, or both are refused. The two exceptions are the name of the build argument, and
the code that is reported for the first identity without a password. -/
inductive AlikeBut (machine : Host Id) (file file' : ReleaseFile) :
    Except Failure Context → Except Failure Context → Prop
  | accepted {context context' : Context}
      (identityFile : context'.target.identityFile = context.target.identityFile)
      (authUrl : context'.api.authUrl = context.api.authUrl)
      (identities : context'.identities = context.identities)
      (registration : outcome (Registration.read machine context'.builder.registrationFile) =
        outcome (Registration.read machine context.builder.registrationFile))
      (argument : context'.secretArgument = context.secretArgument ↔ ¬ ArgumentLost file file') :
      AlikeBut machine file file' (.ok context) (.ok context')
  | refused {failure failure' : Failure}
      (code : failure'.code = failure.code ↔
        ¬ (HasRequired file ∧ IdentityFileThere machine file ∧
          NameLost machine file.identities file'.identities)) :
      AlikeBut machine file file' (.error failure) (.error failure')

/-- A build argument is called the same as before unless its empty name is lost. -/
lemma secretArgument_eq_iff (h : Cleared file.secret.buildArg file'.secret.buildArg) :
    file'.secret.buildArg.getD file.secret.key = file.secret.buildArg.getD file.secret.key ↔
      ¬ ArgumentLost file file' := by
  unfold ArgumentLost
  generalize file.secret.buildArg = name at h ⊢
  generalize file'.secret.buildArg = name' at h ⊢
  cases h with
  | kept =>
    refine iff_of_true rfl ?_
    rintro ⟨hempty, hnone, -⟩
    exact absurd (hempty.symm.trans hnone) nofun
  | emptied => simp

/-- The contexts of a release file and of the same file with settings cleared are alike, if the same
was found for both of them. -/
lemma ClearedFile.alike_assembled (h : ClearedFile file file') (projectDir : String)
    (found : Option String) (identities : List Identity) :
    AlikeBut machine file file' (.ok (assembled file projectDir found identities))
      (.ok (assembled file' projectDir found identities)) := by
  refine .accepted rfl ?_ rfl ?_ ?_
  · change (endpoints file'.api).authUrl = (endpoints file.api).authUrl
    rw [h.others]
    unfold endpoints
    dsimp only
    rw [h.authUrl.nonEmpty?_eq]
  · change outcome (Registration.read machine file'.builder.registrationFile) =
      outcome (Registration.read machine file.builder.registrationFile)
    unfold Registration.read
    rw [h.registrationFile.nonEmpty?_eq]
  · have hkey : file'.secret.key = file.secret.key := by rw [h.others]
    change file'.secret.buildArg.getD file'.secret.key =
      file.secret.buildArg.getD file.secret.key ↔ _
    rw [hkey]
    exact secretArgument_eq_iff h.buildArg

/-- Take a release file and a machine whose environment and files stay as they are; no variable has
an empty name. Clear some of the empty settings. What comes of the release file then is alike: it is
refused with the same code, unless the first identity without a password is one whose variable has
lost its empty name; or it is accepted as before, with the same identity file, root of the token
endpoint, identities with their passwords and registration, and the build argument is called the
same, unless its empty name is lost and the key of the secret is not empty as well. -/
theorem cleared_alike (machine : Host Id) (hunset : machine.environment "" = none)
    (file file' : ReleaseFile) (h : ClearedFile file file') :
    AlikeBut machine file file' (outcome (ofReleaseFile machine file))
      (outcome (ofReleaseFile machine file')) := by
  have hrequire : requireAll file' = requireAll file := by rw [h.others]; rfl
  have hproject : file'.projectDir = file.projectDir := by rw [h.others]
  have hfile : outcome (identityFile machine file'.remote.identityFile) =
      outcome (identityFile machine file.remote.identityFile) := by
    rw [outcome_identityFile, outcome_identityFile, h.identityFile.nonEmpty?_eq]
  rw [outcome_ofReleaseFile, outcome_ofReleaseFile, hrequire, hfile, hproject]
  cases hrequired : requireAll file with
  | error failure =>
    refine .refused (iff_of_true rfl fun hlost => ?_)
    rw [requireAll_eq_ok_iff.mpr hlost.1] at hrequired
    cases hrequired
  | ok _ =>
    cases hfound : outcome (identityFile machine file.remote.identityFile) with
    | error failure =>
      refine .refused (iff_of_true rfl fun hlost => ?_)
      obtain ⟨found, hthere⟩ := exists_outcome_identityFile_iff.mpr hlost.2.1
      exact absurd (hfound.symm.trans hthere) nofun
    | ok found =>
      by_cases hlost : NameLost machine file.identities file'.identities
      · obtain ⟨failure, failure', hfails, hfails', hcode, hcode'⟩ :=
          outcome_identitiesOf_of_nameLost hunset h.identities hlost
        rw [hfails, hfails']
        have hdiffer : failure'.code ≠ failure.code := by
          rw [hcode, hcode']
          decide
        refine .refused (iff_of_false hdiffer fun hnot => hnot ⟨?_, ?_, hlost⟩)
        · exact requireAll_eq_ok_iff.mp hrequired
        · exact exists_outcome_identityFile_iff.mp ⟨found, hfound⟩
      · rw [outcome_identitiesOf_of_kept h.identities hlost]
        cases outcome (identitiesOf machine file.identities) with
        | error failure => exact .refused (iff_of_true rfl fun hall => hlost hall.2.2)
        | ok identities => exact h.alike_assembled _ _ _

/-- A release file with one text for all settings, but for the variable with the password. -/
def plainRelease (setting passwordEnv : Option String) : ReleaseFile :=
  { image := "org/service:tag"
    remote := { host := "h", user := "deploy", identityFile := setting, workDir := "/srv" }
    secret := { buildArg := setting }
    builder := { registrationFile := setting }
    api := { baseUrl := "http://svc", authUrl := setting }
    identities := [⟨"ann", .email, "ann@svc", setting, passwordEnv⟩] }

/-- Its settings are cleared if they are empty. -/
lemma plainRelease_cleared {setting setting' passwordEnv passwordEnv' : Option String}
    (h : Cleared setting setting') (henv : Cleared passwordEnv passwordEnv') :
    ClearedFile (plainRelease setting passwordEnv) (plainRelease setting' passwordEnv') where
  identityFile := h
  buildArg := h
  registrationFile := h
  authUrl := h
  identities := .cons ⟨h, henv, rfl⟩ .nil
  others := rfl

/-- Empty settings are cleared, and the password is looked up. -/
theorem cleared_alike_with_variable :
    bareMachine.environment "" = none ∧
      ClearedFile (plainRelease (some "") (some "PASSWORD")) (plainRelease none (some "PASSWORD")) ∧
      AlikeBut bareMachine (plainRelease (some "") (some "PASSWORD"))
        (plainRelease none (some "PASSWORD"))
        (outcome (ofReleaseFile bareMachine (plainRelease (some "") (some "PASSWORD"))))
        (outcome (ofReleaseFile bareMachine (plainRelease none (some "PASSWORD")))) := by
  have hcleared := plainRelease_cleared .emptied (.kept (some "PASSWORD"))
  exact ⟨rfl, hcleared, cleared_alike bareMachine rfl _ _ hcleared⟩

/-- When empty settings are cleared, a build argument that had an empty name is called like the key
of the secret, and a password that was looked up without a name is a missing one. -/
theorem clearing_changes_argument_and_code :
    (ClearedFile (plainRelease (some "") (some "PASSWORD")) (plainRelease none (some "PASSWORD")) ∧
      ∃ context context',
        outcome (ofReleaseFile bareMachine (plainRelease (some "") (some "PASSWORD"))) =
          .ok context ∧
        outcome (ofReleaseFile bareMachine (plainRelease none (some "PASSWORD"))) = .ok context' ∧
        context.secretArgument = "" ∧ context'.secretArgument = "DATABASE_URL") ∧
      ClearedFile (plainRelease (some "") (some "")) (plainRelease none none) ∧
      ∃ failure failure',
        outcome (ofReleaseFile bareMachine (plainRelease (some "") (some ""))) = .error failure ∧
        outcome (ofReleaseFile bareMachine (plainRelease none none)) = .error failure' ∧
        failure.code = "config.invalid_value" ∧ failure'.code = "config.missing_key" :=
  ⟨⟨plainRelease_cleared .emptied (.kept _), _, _, rfl, rfl, rfl, rfl⟩,
    plainRelease_cleared .emptied .emptied, _, _, rfl, rfl, rfl, rfl⟩

end Shipyard.Context
