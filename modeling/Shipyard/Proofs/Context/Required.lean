import Mathlib.Data.List.Forall2
import Shipyard.Proofs.Context.Accepted
import Shipyard.Proofs.Text.Blank

/-!
# Required values

Whether a release file is accepted is decided on its values as they are written. What stands in the
context may be less than that: slashes are taken off the end of URLs, and a password may come from a
variable. So a value that passes its check can still be blank when it is used. A URL is, if there
are only blanks in front of the slashes at its end, and a password is empty if the variable is.

All else is as the checks have it, and what is not accepted is refused for a value that is not
there. Here the machine is one whose environment and files stay as they are.
-/

namespace Shipyard.Context

open ReleaseFile (IdentitySection defaultPath)
open Text (isBlank isBlankText trimEndSlashes)

/-! ## Steps on a machine that stays as it is -/

section Steps

variable {α β : Type}

/-- What comes of a step on a machine that stays as it is. -/
def outcome (step : ExceptT Failure Id α) : Except Failure α :=
  step

variable {x : ExceptT Failure Id α} {f : α → ExceptT Failure Id β}

/-- A step that is followed by another comes to what the other comes to, if it succeeds. -/
lemma outcome_bind : outcome (x >>= f) = (outcome x).bind fun a => outcome (f a) := by
  cases x <;> rfl

/-- A step that is followed by another succeeds if both do. -/
lemma outcome_bind_eq_ok_iff {b : β} :
    outcome (x >>= f) = .ok b ↔ ∃ a, outcome x = .ok a ∧ outcome (f a) = .ok b := by
  rw [outcome_bind]
  cases outcome x <;> simp [Except.bind]

/-- A step that is followed by another fails if it fails itself or if the other does. -/
lemma outcome_bind_eq_error_iff {failure : Failure} : outcome (x >>= f) = .error failure ↔
      outcome x = .error failure ∨ ∃ a, outcome x = .ok a ∧ outcome (f a) = .error failure := by
  rw [outcome_bind]
  cases outcome x <;> simp [Except.bind]

end Steps

variable {machine : Host Id} {file : ReleaseFile}

/-! ## Passwords -/

/-- The password of an entry: the one that is written down, or else the value of the variable that
is named. A password that is empty counts as not written down. -/
inductive PasswordOf (machine : Host Id) (entry : IdentitySection) (password : String) : Prop where
  | written (given : entry.password = some password) (nonempty : password ≠ "")
  | lookedUp {name : String} (blank : entry.password = none ∨ entry.password = some "")
      (named : entry.passwordEnv = some name) (found : machine.environment name = some password)

/-- There is no password for an entry: the variable that is named has no value, or none is named. -/
inductive NoPassword (machine : Host Id) (entry : IdentitySection) : Failure → Prop where
  | unset {name : String} (blank : entry.password = none ∨ entry.password = some "")
      (named : entry.passwordEnv = some name) (unset : machine.environment name = none) :
      NoPassword machine entry (Cause.invalidValue ("identities." ++ entry.name ++ ".passwordEnv")
        (some name) "environment variable is not set").failure
  | absent (blank : entry.password = none ∨ entry.password = some "")
      (unnamed : entry.passwordEnv = none) :
      NoPassword machine entry
        (Cause.missingKey ("identities." ++ entry.name ++ ".password") none).failure

/-- A setting is there exactly if it is given and not empty. -/
lemma nonEmpty?_eq_some_iff {setting : Option String} {text : String} :
    nonEmpty? setting = some text ↔ setting = some text ∧ text ≠ "" := by
  simp [nonEmpty?, Option.filter_eq_some_iff]

/-- A setting is not there exactly if it is not given or empty. -/
lemma nonEmpty?_eq_none_iff {setting : Option String} :
    nonEmpty? setting = none ↔ setting = none ∨ setting = some "" := by
  cases setting with
  | none => simp [nonEmpty?]
  | some text => simp [nonEmpty?]

/-- The value of a variable is at hand on a machine that stays as it is. -/
lemma outcome_environment_bind {α : Type} {name : String} {found : Option String}
    {f : Option String → ExceptT Failure Id α} (h : machine.environment name = found) :
    outcome (liftM (machine.environment name) >>= f) = outcome (f found) := by
  rw [← h]
  rfl

/-- The password of an entry is found. -/
lemma outcome_password_of_passwordOf {entry : IdentitySection} {text : String}
    (h : PasswordOf machine entry text) : outcome (password machine entry) = .ok text := by
  unfold password
  cases h with
  | written given nonempty =>
    rw [nonEmpty?_eq_some_iff.mpr ⟨given, nonempty⟩]
    rfl
  | lookedUp blank named found =>
    rw [nonEmpty?_eq_none_iff.mpr blank, named]
    exact (outcome_environment_bind found).trans rfl

/-- If there is no password for an entry, this is reported. -/
lemma outcome_password_of_noPassword {entry : IdentitySection} {failure : Failure}
    (h : NoPassword machine entry failure) :
    outcome (password machine entry) = .error failure := by
  unfold password
  cases h with
  | unset blank named unset =>
    rw [nonEmpty?_eq_none_iff.mpr blank, named]
    exact (outcome_environment_bind unset).trans rfl
  | absent blank unnamed =>
    rw [nonEmpty?_eq_none_iff.mpr blank, unnamed]
    rfl

/-- Either there is a password for an entry or there is none. -/
lemma exists_passwordOf_or_noPassword (machine : Host Id) (entry : IdentitySection) :
    (∃ text, PasswordOf machine entry text) ∨ ∃ failure, NoPassword machine entry failure := by
  cases hgiven : nonEmpty? entry.password with
  | some text =>
    obtain ⟨hsome, hne⟩ := nonEmpty?_eq_some_iff.mp hgiven
    exact .inl ⟨text, .written hsome hne⟩
  | none =>
    have hblank := nonEmpty?_eq_none_iff.mp hgiven
    cases hnamed : entry.passwordEnv with
    | none => exact .inr ⟨_, .absent hblank hnamed⟩
    | some name =>
      obtain ⟨found, hfound⟩ : ∃ found : Option String, machine.environment name = found := ⟨_, rfl⟩
      cases found with
      | some text => exact .inl ⟨text, .lookedUp hblank hnamed hfound⟩
      | none => exact .inr ⟨_, .unset hblank hnamed hfound⟩

/-- The password that is found is the one of the entry. -/
lemma outcome_password_eq_ok_iff {entry : IdentitySection} {text : String} :
    outcome (password machine entry) = .ok text ↔ PasswordOf machine entry text := by
  refine ⟨fun h => ?_, outcome_password_of_passwordOf⟩
  rcases exists_passwordOf_or_noPassword machine entry with ⟨found, hfound⟩ | ⟨failure, hfailure⟩
  · rw [outcome_password_of_passwordOf hfound] at h
    exact Except.ok.inj h ▸ hfound
  · rw [outcome_password_of_noPassword hfailure] at h
    cases h

/-- What is reported of an entry is that there is no password for it. -/
lemma outcome_password_eq_error_iff {entry : IdentitySection} {failure : Failure} :
    outcome (password machine entry) = .error failure ↔ NoPassword machine entry failure := by
  refine ⟨fun h => ?_, outcome_password_of_noPassword⟩
  rcases exists_passwordOf_or_noPassword machine entry with ⟨found, hfound⟩ | ⟨other, hother⟩
  · rw [outcome_password_of_passwordOf hfound] at h
    cases h
  · rw [outcome_password_of_noPassword hother] at h
    exact Except.error.inj h ▸ hother

/-! ## Identities -/

/-- An identity is what an entry says, with the password of the entry. -/
structure Resolved (machine : Host Id) (entry : IdentitySection) (identity : Identity) : Prop where
  name : identity.name = entry.name
  method : identity.method = entry.method
  identifier : identity.identifier = entry.identifier
  password : PasswordOf machine entry identity.password

/-- An identity that is found is what its entry says. -/
lemma outcome_identity_eq_ok_iff {entry : IdentitySection} {found : Identity} :
    outcome (identity machine entry) = .ok found ↔ Resolved machine entry found := by
  unfold identity
  rw [outcome_bind_eq_ok_iff]
  constructor
  · rintro ⟨text, htext, hfound⟩
    obtain rfl := Except.ok.inj hfound
    exact ⟨rfl, rfl, rfl, outcome_password_eq_ok_iff.mp htext⟩
  · obtain ⟨name, method, identifier, text⟩ := found
    rintro ⟨rfl, rfl, rfl, hpassword⟩
    exact ⟨text, outcome_password_eq_ok_iff.mpr hpassword, rfl⟩

/-- What is reported of an identity is that there is no password for it. -/
lemma noPassword_of_outcome_identity {entry : IdentitySection} {failure : Failure}
    (h : outcome (identity machine entry) = .error failure) : NoPassword machine entry failure := by
  unfold identity at h
  rcases outcome_bind_eq_error_iff.mp h with h | ⟨text, -, h⟩
  · exact outcome_password_eq_error_iff.mp h
  · cases h

/-- The identities that are found are those of the entries, in the same order. -/
lemma outcome_identitiesOf_eq_ok_iff {entries : List IdentitySection} {found : List Identity} :
    outcome (identitiesOf machine entries) = .ok found ↔
      List.Forall₂ (Resolved machine) entries found := by
  induction entries generalizing found with
  | nil =>
    rw [List.forall₂_nil_left_iff]
    exact ⟨fun h => (Except.ok.inj h).symm, fun h => h ▸ rfl⟩
  | cons entry entries ih =>
    rw [identitiesOf, outcome_bind_eq_ok_iff]
    constructor
    · rintro ⟨first, hfirst, h⟩
      obtain ⟨others, hothers, h⟩ := outcome_bind_eq_ok_iff.mp h
      obtain rfl := Except.ok.inj h
      exact .cons (outcome_identity_eq_ok_iff.mp hfirst) (ih.mp hothers)
    · rintro (_ | ⟨hfirst, hothers⟩)
      refine ⟨_, outcome_identity_eq_ok_iff.mpr hfirst, ?_⟩
      exact outcome_bind_eq_ok_iff.mpr ⟨_, ih.mpr hothers, rfl⟩

/-- What is reported of identities is that there is no password for one of them. -/
lemma exists_noPassword_of_outcome_identitiesOf {entries : List IdentitySection} {failure : Failure}
    (h : outcome (identitiesOf machine entries) = .error failure) :
    ∃ entry ∈ entries, NoPassword machine entry failure := by
  induction entries with
  | nil => cases h
  | cons entry entries ih =>
    rw [identitiesOf] at h
    rcases outcome_bind_eq_error_iff.mp h with h | ⟨first, -, h⟩
    · exact ⟨entry, List.mem_cons_self, noPassword_of_outcome_identity h⟩
    · rcases outcome_bind_eq_error_iff.mp h with h | ⟨others, -, h⟩
      · obtain ⟨other, hother, hfailure⟩ := ih h
        exact ⟨other, List.mem_cons_of_mem _ hother, hfailure⟩
      · cases h

/-- There are identities for entries exactly if each entry has a password. -/
lemma exists_resolved_iff {entries : List IdentitySection} :
    (∃ identities, List.Forall₂ (Resolved machine) entries identities) ↔
      ∀ entry ∈ entries, ∃ text, PasswordOf machine entry text := by
  constructor
  · rintro ⟨identities, h⟩
    induction h with
    | nil => exact List.forall_mem_nil _
    | cons first _ ih => exact List.forall_mem_cons.mpr ⟨⟨_, first.password⟩, ih⟩
  · intro h
    induction entries with
    | nil => exact ⟨[], .nil⟩
    | cons entry entries ih =>
      obtain ⟨⟨text, htext⟩, hlater⟩ := List.forall_mem_cons.mp h
      obtain ⟨identities, hidentities⟩ := ih hlater
      exact ⟨⟨entry.name, entry.method, entry.identifier, text⟩ :: identities,
        .cons ⟨rfl, rfl, rfl, htext⟩ hidentities⟩

/-! ## The identity file -/

/-- Whether something is there at a path, which may be below the home directory. -/
def isThere (machine : Host Id) (path : String) : Bool :=
  machine.pathExists (machine.expandHome path)

/-- The identity file that is set is there. -/
def IdentityFileThere (machine : Host Id) (file : ReleaseFile) : Prop :=
  ∀ path, nonEmpty? file.remote.identityFile = some path → isThere machine path = true

/-- An identity file that is set is used if it is there, and reported if it is not. -/
lemma outcome_identityFile (machine : Host Id) (setting : Option String) :
    outcome (identityFile machine setting) =
      match nonEmpty? setting with
      | none => .ok none
      | some path =>
        if isThere machine path then .ok (some (machine.expandHome path))
        else .error (Cause.identityFileNotFound (machine.expandHome path)).failure := by
  unfold identityFile
  cases nonEmpty? setting with
  | none => rfl
  | some path =>
    dsimp only
    by_cases h : isThere machine path = true
    · rw [if_pos h]
      exact if_pos h
    · rw [if_neg h]
      exact if_neg h

/-- The identity file is found exactly if it is there. -/
lemma exists_outcome_identityFile_iff :
    (∃ found, outcome (identityFile machine file.remote.identityFile) = .ok found) ↔
      IdentityFileThere machine file := by
  unfold IdentityFileThere
  rw [outcome_identityFile]
  cases nonEmpty? file.remote.identityFile with
  | none => simp
  | some path => by_cases h : isThere machine path = true <;> simp [h]

/-! ## Values that are written -/

/-- The values that are required, by their keys. -/
def requiredValues (file : ReleaseFile) : List (String × String) :=
  [("image", file.image), ("remote.host", file.remote.host), ("remote.user", file.remote.user),
    ("remote.workDir", file.remote.workDir), ("api.baseUrl", file.api.baseUrl)]

/-- A release file passes its checks exactly if it has all required values. -/
lemma requireAll_eq_ok_iff : requireAll file = .ok () ↔ HasRequired file := by
  refine ⟨hasRequired_of_requireAll, fun h => ?_⟩
  unfold requireAll
  rw [require_eq_ok_iff.mpr h.image, require_eq_ok_iff.mpr h.host, require_eq_ok_iff.mpr h.user,
    require_eq_ok_iff.mpr h.workDir, require_eq_ok_iff.mpr h.baseUrl]
  rfl

/-- What is reported by a check is a blank value. -/
lemma isBlankText_of_require {key value : String} {failure : Failure}
    (h : require key value = .error failure) :
    isBlankText value = true ∧ failure = (Cause.missingKey key (some defaultPath)).failure := by
  unfold require at h
  split at h
  · rename_i hblank
    exact ⟨hblank, (Except.error.inj h).symm⟩
  · cases h

/-- The required values are checked one after the other. -/
lemma requireAll_eq_forM :
    requireAll file = forM (requiredValues file) fun required => require required.1 required.2 := by
  simp [requireAll, requiredValues]

/-- What is reported of a release file that does not pass its checks is that a required value is
blank. -/
lemma exists_blank_of_requireAll {failure : Failure} (h : requireAll file = .error failure) :
    ∃ required ∈ requiredValues file, isBlankText required.2 = true ∧
      failure = (Cause.missingKey required.1 (some defaultPath)).failure := by
  rw [requireAll_eq_forM] at h
  generalize requiredValues file = values at h ⊢
  induction values with
  | nil => cases h
  | cons required others ih =>
    rw [List.forM_cons] at h
    cases hcheck : require required.1 required.2 with
    | error e =>
      rw [hcheck] at h
      obtain rfl := Except.error.inj h
      exact ⟨required, List.mem_cons_self, isBlankText_of_require hcheck⟩
    | ok _ =>
      rw [hcheck] at h
      obtain ⟨other, hother, hblank⟩ := ih h
      exact ⟨other, List.mem_cons_of_mem _ hother, hblank⟩

/-! ## URLs -/

/-- A URL of which nothing is left but blanks when the slashes are taken off its end. -/
def Hollow (url : String) : Prop :=
  ∃ blanks slashes, url.toList = blanks ++ slashes ∧ (∀ c ∈ blanks, isBlank c = true) ∧
    ∀ c ∈ slashes, c = '/'

/-- A URL is blank without the slashes at its end exactly if it is hollow. -/
lemma isBlankText_trimEndSlashes_iff {url : String} :
    isBlankText (trimEndSlashes url) = true ↔ Hollow url := by
  unfold isBlankText trimEndSlashes
  rw [String.toList_ofList, List.all_eq_true]
  constructor
  · intro hblank
    obtain ⟨slashes, hslashes, hurl⟩ := Text.exists_dropEndWhile_append (· == '/') url.toList
    exact ⟨_, slashes, hurl, hblank, fun c hc => beq_iff_eq.mp (hslashes c hc)⟩
  · rintro ⟨blanks, slashes, hurl, hblanks, hslashes⟩
    rw [hurl, Text.dropEndWhile_append fun c hc => beq_iff_eq.mpr (hslashes c hc)]
    exact fun c hc => hblanks c ((Text.dropEndWhile_prefix _ _).subset hc)

/-- A URL without the slashes at its end does not end in one. -/
lemma getLast?_trimEndSlashes (url : String) : (trimEndSlashes url).toList.getLast? ≠ some '/' := by
  intro hlast
  unfold trimEndSlashes at hlast
  rw [String.toList_ofList] at hlast
  exact absurd (Text.getLast?_dropEndWhile (· == '/') url.toList '/' hlast) (by decide)

/-- The root of the token endpoint is blank exactly if it is given as a hollow URL: below the base
URL it always has a name. -/
lemma isBlankText_authUrl_iff {api : ReleaseFile.ApiSection} :
    isBlankText (endpoints api).authUrl = true ↔
      ∃ url, nonEmpty? api.authUrl = some url ∧ Hollow url := by
  unfold endpoints
  dsimp only
  cases nonEmpty? api.authUrl with
  | some url => simp [isBlankText_trimEndSlashes_iff]
  | none =>
    refine iff_of_false (fun hblank => ?_) (by simp)
    rw [Option.getD_none, isBlankText_trimEndSlashes_iff] at hblank
    obtain ⟨blanks, slashes, hurl, hblanks, hslashes⟩ := hblank
    have hmem : 'g' ∈ blanks ++ slashes := by
      rw [← hurl, String.toList_append]
      exact List.mem_append_right _ (by decide)
    rcases List.mem_append.mp hmem with hmem | hmem
    · exact absurd (hblanks _ hmem) (by decide)
    · exact absurd (hslashes _ hmem) (by decide)

/-! ## Contexts -/

/-- What is sure of the context of an accepted release file, and what it may lack. -/
structure Checked (machine : Host Id) (file : ReleaseFile) (context : Context) : Prop where
  image : isBlankText context.image = false
  host : isBlankText context.target.host = false
  user : isBlankText context.target.user = false
  workDir : isBlankText context.target.workDir = false
  /-- The base URL is blank exactly if the one in the file is hollow. -/
  baseUrl : isBlankText context.api.baseUrl = true ↔ Hollow file.api.baseUrl
  /-- The root of the token endpoint is blank exactly if the one in the file is hollow. -/
  authUrl : isBlankText context.api.authUrl = true ↔
    ∃ url, nonEmpty? file.api.authUrl = some url ∧ Hollow url
  baseUrl_end : context.api.baseUrl.toList.getLast? ≠ some '/'
  authUrl_end : context.api.authUrl.toList.getLast? ≠ some '/'
  healthAttempts : 1 ≤ context.api.healthAttempts
  identities : List.Forall₂ (Resolved machine) file.identities context.identities

/-- Why a release file is refused. -/
inductive Refused (machine : Host Id) (file : ReleaseFile) : Failure → Prop where
  | blank {required : String × String} (mem : required ∈ requiredValues file)
      (blank : isBlankText required.2 = true) :
      Refused machine file (Cause.missingKey required.1 (some defaultPath)).failure
  | identityFile {path : String} (required : HasRequired file)
      (set : nonEmpty? file.remote.identityFile = some path) (absent : isThere machine path = false) :
      Refused machine file (Cause.identityFileNotFound (machine.expandHome path)).failure
  | password {entry : IdentitySection} {failure : Failure} (required : HasRequired file)
      (there : IdentityFileThere machine file) (mem : entry ∈ file.identities)
      (absent : NoPassword machine entry failure) : Refused machine file failure

/-- The context of a release file is put together from what is found one after the other. -/
lemma outcome_ofReleaseFile_eq_ok_iff {context : Context} :
    outcome (ofReleaseFile machine file) = .ok context ↔ HasRequired file ∧
      ∃ identityFile, outcome (Context.identityFile machine file.remote.identityFile) =
          .ok identityFile ∧
        ∃ identities, List.Forall₂ (Resolved machine) file.identities identities ∧
          context = assembled file (machine.expandHome file.projectDir) identityFile identities := by
  unfold ofReleaseFile
  constructor
  · intro h
    obtain ⟨_, hrequired, h⟩ := outcome_bind_eq_ok_iff.mp h
    obtain ⟨identityFile, hfile, h⟩ := outcome_bind_eq_ok_iff.mp h
    obtain ⟨identities, hidentities, h⟩ := outcome_bind_eq_ok_iff.mp h
    obtain ⟨projectDir, hproject, h⟩ := outcome_bind_eq_ok_iff.mp h
    obtain rfl := Except.ok.inj hproject
    exact ⟨requireAll_eq_ok_iff.mp hrequired, identityFile, hfile, identities,
      outcome_identitiesOf_eq_ok_iff.mp hidentities, (Except.ok.inj h).symm⟩
  · rintro ⟨hrequired, identityFile, hfile, identities, hidentities, rfl⟩
    refine outcome_bind_eq_ok_iff.mpr ⟨(), requireAll_eq_ok_iff.mpr hrequired, ?_⟩
    refine outcome_bind_eq_ok_iff.mpr ⟨identityFile, hfile, ?_⟩
    refine outcome_bind_eq_ok_iff.mpr
      ⟨identities, outcome_identitiesOf_eq_ok_iff.mpr hidentities, ?_⟩
    exact outcome_bind_eq_ok_iff.mpr ⟨machine.expandHome file.projectDir, rfl, rfl⟩

/-- The context of an accepted release file is checked. -/
lemma checked_of_outcome {context : Context}
    (h : outcome (ofReleaseFile machine file) = .ok context) : Checked machine file context := by
  obtain ⟨hrequired, identityFile, -, identities, hidentities, rfl⟩ :=
    outcome_ofReleaseFile_eq_ok_iff.mp h
  exact
    { image := hrequired.image
      host := hrequired.host
      user := hrequired.user
      workDir := hrequired.workDir
      baseUrl := isBlankText_trimEndSlashes_iff
      authUrl := isBlankText_authUrl_iff
      baseUrl_end := getLast?_trimEndSlashes _
      authUrl_end := getLast?_trimEndSlashes _
      healthAttempts := Nat.le_max_right _ _
      identities := hidentities }

/-- A release file is refused for something that is not there. -/
lemma refused_of_outcome {failure : Failure}
    (h : outcome (ofReleaseFile machine file) = .error failure) : Refused machine file failure := by
  unfold ofReleaseFile at h
  rcases outcome_bind_eq_error_iff.mp h with h | ⟨_, hrequired, h⟩
  · obtain ⟨required, hmem, hblank, rfl⟩ := exists_blank_of_requireAll h
    exact .blank hmem hblank
  have hrequired := requireAll_eq_ok_iff.mp hrequired
  rcases outcome_bind_eq_error_iff.mp h with h | ⟨identityFile, hfile, h⟩
  · rw [outcome_identityFile] at h
    split at h
    · cases h
    · rename_i path hset
      split at h
      · cases h
      · rename_i habsent
        obtain rfl := Except.error.inj h
        exact .identityFile hrequired hset (Bool.eq_false_iff.mpr habsent)
  have hthere := exists_outcome_identityFile_iff.mp ⟨identityFile, hfile⟩
  rcases outcome_bind_eq_error_iff.mp h with h | ⟨identities, -, h⟩
  · obtain ⟨entry, hmem, habsent⟩ := exists_noPassword_of_outcome_identitiesOf h
    exact .password hrequired hthere hmem habsent
  · rcases outcome_bind_eq_error_iff.mp h with h | ⟨_, -, h⟩
    · cases h
    · cases h

/-- The checks of a release file look at its values as they are written. A release file is accepted
exactly if its required values are not blank, its identity file is there and each of its identities
has a password, be it an empty one from a variable. The image, the host, the user and the work
directory of the context are not blank then. Its URLs do not end in slashes, but each is blank if
the URL in the file is hollow, and only then. Its identities are those of the file in order, and an
empty password is the value of a variable. A release file that is not accepted is refused for a
required value that is blank, for its identity file, or for an identity without a password. -/
theorem accepted_by_raw_values (machine : Host Id) (file : ReleaseFile) :
    (∀ context, outcome (ofReleaseFile machine file) = .ok context →
      Checked machine file context) ∧
      (∀ failure, outcome (ofReleaseFile machine file) = .error failure →
        Refused machine file failure) ∧
      ((∃ context, outcome (ofReleaseFile machine file) = .ok context) ↔
        HasRequired file ∧ IdentityFileThere machine file ∧
          ∀ entry ∈ file.identities, ∃ password, PasswordOf machine entry password) ∧
      (∀ entry, PasswordOf machine entry "" →
        ∃ name, entry.passwordEnv = some name ∧ machine.environment name = some "") := by
  refine ⟨fun context => checked_of_outcome, fun failure => refused_of_outcome, ?_, ?_⟩
  · rw [← exists_outcome_identityFile_iff, ← exists_resolved_iff]
    constructor
    · rintro ⟨context, h⟩
      obtain ⟨hrequired, identityFile, hfile, identities, hidentities, -⟩ :=
        outcome_ofReleaseFile_eq_ok_iff.mp h
      exact ⟨hrequired, ⟨identityFile, hfile⟩, identities, hidentities⟩
    · rintro ⟨hrequired, ⟨identityFile, hfile⟩, identities, hidentities⟩
      exact ⟨_, outcome_ofReleaseFile_eq_ok_iff.mpr
        ⟨hrequired, identityFile, hfile, identities, hidentities, rfl⟩⟩
  · rintro entry (⟨-, nonempty⟩ | ⟨-, named, found⟩)
    · exact absurd rfl nonempty
    · exact ⟨_, named, found⟩

/-- A machine without files, on which one variable is set, to an empty text. -/
def bareMachine : Host Id where
  environment name := if name = "PASSWORD" then some "" else none
  accountHome := none
  pathExists _ := false
  readText _ := .error .notFound
  fileSize _ := .error .notFound
  removeFile _ := ()
  capture _ := .error (.program .notFound)
  attach _ := .error (.program .notFound)
  openClient := .ok ()
  freshArchive := "/tmp/archive"
  timestamp := "now"
  nanoseconds := 0
  pause _ := ()

/-- A release file whose base URL is a slash, and whose identity has a password from a variable. -/
def hollowRelease : ReleaseFile :=
  { image := "org/service:tag"
    remote := { host := "h", user := "deploy", workDir := "/srv" }
    api := { baseUrl := "/" }
    identities := [⟨"ann", .email, "ann@svc", none, some "PASSWORD"⟩] }

/-- The release file is accepted with an empty password from the variable, and one that says nothing
is refused. -/
theorem hollowRelease_is_checked :
    (∃ context, outcome (ofReleaseFile bareMachine hollowRelease) = .ok context ∧
      Checked bareMachine hollowRelease context) ∧
    (∃ failure, outcome (ofReleaseFile bareMachine {}) = .error failure ∧
      Refused bareMachine {} failure) ∧
    PasswordOf bareMachine ⟨"ann", .email, "ann@svc", none, some "PASSWORD"⟩ "" ∧
    ∃ name, some "PASSWORD" = some name ∧ bareMachine.environment name = some "" := by
  have haccepted : ∃ context, outcome (ofReleaseFile bareMachine hollowRelease) = .ok context :=
    ⟨_, rfl⟩
  have hrefused : ∃ failure, outcome (ofReleaseFile bareMachine {}) = .error failure := ⟨_, rfl⟩
  have hpassword : PasswordOf bareMachine ⟨"ann", .email, "ann@svc", none, some "PASSWORD"⟩ "" :=
    .lookedUp (.inl rfl) rfl rfl
  obtain ⟨context, hcontext⟩ := haccepted
  obtain ⟨failure, hfailure⟩ := hrefused
  obtain ⟨hchecked, -, -, hempty⟩ := accepted_by_raw_values bareMachine hollowRelease
  have hfound := (accepted_by_raw_values bareMachine {}).2.1 failure hfailure
  exact ⟨⟨context, hcontext, hchecked context hcontext⟩, ⟨failure, hfailure, hfound⟩, hpassword,
    hempty _ hpassword⟩

/-- The release file is accepted, and its context has neither a base URL nor a password. -/
theorem hollowRelease_is_accepted : ∃ context,
    outcome (ofReleaseFile bareMachine hollowRelease) = .ok context ∧
      context.api.baseUrl = "" ∧ context.identities.map Identity.password = [""] := by
  refine ⟨_, rfl, ?_, ?_⟩
  · decide
  · decide

end Shipyard.Context
