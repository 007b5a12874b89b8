import Shipyard.Builder.Image
import Shipyard.Proofs.Archive.Handoff

/-!
# The secret of a build

A build is given its secret as the value of a build argument. The command that an operator is shown
when the build fails has this value redacted, and the value is found by its place: it stands behind
the flag of a build argument, and behind an equals sign. Both places depend on names that are free
text. A dockerfile that is called like the flag takes the flag itself for a value, and the secret
behind it is shown in full. A build argument with an equals sign in its name is divided there, and
what is redacted then is the rest of the name together with the secret. If the rest is short this
tells something about the secret, be it only how long it is; if it is long, nothing of the secret is
shown at all.

Apart from these two cases, two secrets that are redacted alike cannot be told apart by what a build
has to show, and in both cases they can.
-/

namespace Shipyard

/-! ## Redacted texts -/

/-- What is shown of some characters. -/
lemma redact_ofList (cs : List Char) :
    redact (String.ofList cs) =
      String.ofList (if cs.length ≤ 8 then List.replicate (max cs.length 3) '*'
        else cs.take 4 ++ List.replicate 8 '*') := by
  unfold redact
  simp only [String.toList_ofList]
  split <;> rfl

/-- How much is shown of some characters. -/
lemma length_redact (cs : List Char) :
    (redact (String.ofList cs)).toList.length =
      if cs.length ≤ 8 then max cs.length 3 else 12 := by
  rw [redact_ofList, String.toList_ofList]
  split
  · rw [List.length_replicate]
  · rw [List.length_append, List.length_take, List.length_replicate]
    omega

/-- Of characters that begin with more than eight others nothing is shown. -/
lemma redact_append {front : List Char} (hfront : 8 < front.length) (back : List Char) :
    redact (String.ofList (front ++ back)) =
      String.ofList (front.take 4 ++ List.replicate 8 '*') := by
  have hlong : ¬ (front ++ back).length ≤ 8 := by
    rw [List.length_append]
    omega
  rw [redact_ofList, if_neg hlong, List.take_append_of_le_length (by omega)]

/-- A text is divided at its first mark. -/
lemma splitAtFirst_cons (mark c : Char) (cs : List Char) :
    splitAtFirst mark (c :: cs) =
      if c = mark then some ([], cs)
      else (splitAtFirst mark cs).map fun parts => (c :: parts.1, parts.2) := by
  unfold splitAtFirst
  by_cases hc : c = mark
  · simp [hc]
  · have hdrop : (c :: cs).dropWhile (· != mark) = cs.dropWhile (· != mark) :=
      List.dropWhile_cons_of_pos (by simpa using hc)
    have htake : (c :: cs).takeWhile (· != mark) = c :: cs.takeWhile (· != mark) :=
      List.takeWhile_cons_of_pos (by simpa using hc)
    rw [if_neg hc, hdrop, htake]
    cases cs.dropWhile (· != mark) <;> rfl

/-- A text with a mark in it is divided before that mark if there is another one. -/
lemma splitAtFirst_append (mark : Char) (front back : List Char) :
    splitAtFirst mark (front ++ mark :: back) =
      some (match splitAtFirst mark front with
        | some (key, rest) => (key, rest ++ mark :: back)
        | none => (front, back)) := by
  induction front with
  | nil => rw [List.nil_append, splitAtFirst_cons, if_pos rfl]; rfl
  | cons c front ih =>
    rw [List.cons_append, splitAtFirst_cons, splitAtFirst_cons, ih]
    by_cases hc : c = mark
    · rw [if_pos hc, if_pos hc]
    · rw [if_neg hc, if_neg hc]
      cases splitAtFirst mark front <;> rfl

/-- What is shown of an assignment to a name. -/
lemma redactAssignment_eq (name value : String) :
    redactAssignment (name ++ "=" ++ value) =
      match splitAtFirst '=' name.toList with
      | some (key, rest) =>
        String.ofList key ++ "=" ++ redact (String.ofList (rest ++ '=' :: value.toList))
      | none => name ++ "=" ++ redact value := by
  have hpair : (name ++ "=" ++ value).toList = name.toList ++ '=' :: value.toList := by simp
  rw [redactAssignment, hpair, splitAtFirst_append]
  cases splitAtFirst '=' name.toList with
  | none => simp
  | some parts => rfl

/-- Values that are redacted alike are assigned alike, as far as is shown, exactly if behind an
equals sign in the name there are at least eight characters. -/
lemma redactAssignment_alike_iff (name : String) :
    (∀ value value', redact value = redact value' →
      redactAssignment (name ++ "=" ++ value) = redactAssignment (name ++ "=" ++ value')) ↔
    ∀ key rest, splitAtFirst '=' name.toList = some (key, rest) → 8 ≤ rest.length := by
  constructor
  · intro halike key rest hsplit
    by_contra hshort
    -- of two short values that are redacted alike, the rest of the name shows which is longer
    have hshown := halike "" "abc" (by decide)
    rw [redactAssignment_eq, redactAssignment_eq, hsplit] at hshown
    have hrest := congrArg (fun shown => shown.toList.length)
      ((String.append_right_inj _).mp hshown)
    rw [length_redact, length_redact, List.length_append, List.length_append] at hrest
    have habc : ('=' :: "abc".toList).length = 4 := by decide
    have hempty : ('=' :: "".toList).length = 1 := by decide
    rw [habc, hempty] at hrest
    split at hrest <;> split at hrest <;> omega
  · intro hlong value value' hvalue
    rw [redactAssignment_eq, redactAssignment_eq]
    cases hsplit : splitAtFirst '=' name.toList with
    | none => exact congrArg (fun shown => name ++ "=" ++ shown) hvalue
    | some parts =>
      have hrest := hlong parts.1 parts.2 hsplit
      have hfront : 8 < (parts.2 ++ ['=']).length := by
        rw [List.length_append, List.length_singleton]
        omega
      dsimp only
      rw [List.append_cons, List.append_cons parts.2 '=' value'.toList, redact_append hfront,
        redact_append hfront]

/-! ## The command that is shown -/

namespace Builder.ImageBuild

/-- Arguments as they may be shown, where it is known of the first one whether it is taken for the
value of a build argument. -/
def shownFrom : Bool → List String → List String
  | _, [] => []
  | true, argument :: rest => redactAssignment argument :: shownFrom false rest
  | false, argument :: rest => argument :: shownFrom (argument = buildArgumentFlag) rest

/-- Whether what stands behind arguments is taken for the value of a build argument. -/
def awaitsValue : Bool → List String → Bool
  | awaits, [] => awaits
  | true, _ :: rest => awaitsValue false rest
  | false, argument :: rest => awaitsValue (argument = buildArgumentFlag) rest

/-- The first argument is never a value. -/
lemma shownArguments_eq (arguments : List String) :
    shownArguments arguments = shownFrom false arguments := by
  fun_induction shownArguments arguments with
  | case1 => rfl
  | case2 argument => rfl
  | case3 argument rest ih => simp [shownFrom, ih]
  | case4 flag argument rest hflag ih => simp [shownFrom, hflag, ih]

/-- What stands behind arguments is shown as it is taken. -/
lemma shownFrom_append (awaits : Bool) (front back : List String) :
    shownFrom awaits (front ++ back) =
      shownFrom awaits front ++ shownFrom (awaitsValue awaits front) back := by
  induction front generalizing awaits with
  | nil => rfl
  | cons argument front ih =>
    cases awaits with
    | false => exact congrArg (argument :: ·) (ih _)
    | true => exact congrArg (redactAssignment argument :: ·) (ih false)

/-- Behind another flag and its value, something is taken for the value of a build argument only if
the value of the flag looks like the flag of a build argument. -/
lemma awaitsValue_option {flag : String} (hflag : flag ≠ buildArgumentFlag) (value : String)
    (awaits : Bool) (front : List String) :
    awaitsValue awaits (front ++ [flag, value]) = true ↔ value = buildArgumentFlag := by
  induction front generalizing awaits with
  | nil => cases awaits <;> simp [awaitsValue, hflag]
  | cons argument front ih =>
    cases awaits with
    | false => exact ih _
    | true => exact ih false

/-- At the end of the arguments an assignment is shown in full if the flag in front of it is taken
for a value, and redacted if it is not. -/
lemma shownFrom_assignment (awaits : Bool) (pair : String) :
    shownFrom awaits [buildArgumentFlag, pair, "."] =
      [buildArgumentFlag, if awaits then pair else redactAssignment pair, "."] := by
  have hflag : redactAssignment buildArgumentFlag = buildArgumentFlag := by decide
  have hend : ∀ awaits, shownFrom awaits ["."] = ["."] := by decide
  cases awaits with
  | false => rfl
  | true =>
    rw [shownFrom, hflag, shownFrom, hend]
    rfl

/-- The arguments of a context's build that stand before its build argument. -/
def optionArguments (context : Context) (decision : Decision) : List String :=
  (ofContext context decision "").backendArguments ++ ["-t", context.image] ++
    ["-f", context.dockerfile]

/-- The build argument of a context's build is its last argument but for the directory. -/
lemma arguments_ofContext (context : Context) (decision : Decision) (secret : String) :
    (ofContext context decision secret).arguments = optionArguments context decision ++
      [buildArgumentFlag, context.secretArgument ++ "=" ++ secret, "."] := by
  simp [arguments, valueArguments, ofContext, backendArguments, optionArguments]

/-- The flag of the build argument is taken for a value only if the dockerfile is called like it. -/
lemma awaitsValue_optionArguments (context : Context) (decision : Decision) :
    awaitsValue false (optionArguments context decision) = true ↔
      context.dockerfile = buildArgumentFlag :=
  awaitsValue_option (by decide) context.dockerfile false _

/-- What is shown of the build argument of a context. -/
def shownAssignment (context : Context) (secret : String) : String :=
  if context.dockerfile = buildArgumentFlag then context.secretArgument ++ "=" ++ secret
  else redactAssignment (context.secretArgument ++ "=" ++ secret)

/-- The words that are shown of a build are the same for all secrets but for the build argument. -/
lemma exists_shown (context : Context) (decision : Decision) :
    ∃ shown, shown ≠ [] ∧ ∀ secret, (ofContext context decision secret).dockerBin ::
      shownArguments (ofContext context decision secret).arguments =
        shown ++ [shownAssignment context secret, "."] := by
  refine ⟨context.dockerBin :: shownFrom false (optionArguments context decision) ++
    [buildArgumentFlag], List.cons_ne_nil _ _, fun secret => ?_⟩
  rw [shownArguments_eq, arguments_ofContext, shownFrom_append, shownFrom_assignment]
  simp only [awaitsValue_optionArguments]
  simp [ofContext, shownAssignment]

/-- What is shown of a build is the same for all secrets but for the build argument. -/
lemma exists_display (context : Context) (decision : Decision) :
    ∃ front, ∀ secret, (ofContext context decision secret).display =
      front ++ shownAssignment context secret ++ " ." := by
  obtain ⟨shown, hshown, hwords⟩ := exists_shown context decision
  refine ⟨String.intercalate " " shown ++ " ", fun secret => ?_⟩
  have hend : " " ++ "." = " ." := by decide
  rw [display, hwords, String.intercalate_append_of_ne_nil hshown (List.cons_ne_nil _ _),
    String.intercalate_cons_cons, String.intercalate_singleton]
  simp only [String.append_assoc, hend]

/-- Secrets cannot be told apart by what is shown of a build exactly if they cannot be told apart by
what is shown of the build argument. -/
lemma display_eq_iff (context : Context) (decision : Decision) (secret secret' : String) :
    (ofContext context decision secret).display = (ofContext context decision secret').display ↔
      shownAssignment context secret = shownAssignment context secret' := by
  obtain ⟨front, hfront⟩ := exists_display context decision
  rw [hfront, hfront, String.append_left_inj, String.append_right_inj]

/-- What is shown of a build hides all that is redacted exactly if the dockerfile is not called like
the flag of a build argument, and the name of the build argument has no equals sign in it with less
than eight characters behind. -/
lemma display_alike_iff (context : Context) (decision : Decision) :
    (∀ secret secret', redact secret = redact secret' →
      (ofContext context decision secret).display =
        (ofContext context decision secret').display) ↔
    context.dockerfile ≠ buildArgumentFlag ∧ ∀ key rest,
      splitAtFirst '=' context.secretArgument.toList = some (key, rest) → 8 ≤ rest.length := by
  simp only [display_eq_iff]
  by_cases hdockerfile : context.dockerfile = buildArgumentFlag
  · have hshown : ∀ secret, shownAssignment context secret =
        context.secretArgument ++ "=" ++ secret := fun _ => if_pos hdockerfile
    simp only [hshown, String.append_right_inj]
    refine iff_of_false (fun halike => ?_) fun h => h.1 hdockerfile
    exact absurd (halike "abc" "abd" (by decide)) (by decide)
  · have hshown : ∀ secret, shownAssignment context secret =
        redactAssignment (context.secretArgument ++ "=" ++ secret) := fun _ => if_neg hdockerfile
    simp only [hshown]
    rw [redactAssignment_alike_iff]
    exact (and_iff_right hdockerfile).symm

/-! ## The build that is run -/

/-- What a build sees of the machine: how its command ended, and the time between the two readings
of the clock. -/
def watched {m : Type → Type} [Monad m] (host : Host m) (b : ImageBuild) :
    m (Completion × Decimal.Binary64) := do
  let start ← host.nanoseconds
  let completion ← host.runAttached
    { program := b.dockerBin, arguments := b.arguments, directory := some b.directory }
  let finish ← host.nanoseconds
  return (completion, elapsed start finish)

/-- A build comes to what it sees of the machine. -/
lemma run_result {σ : Type} (host : Host (StateM σ)) (b : ImageBuild) (s : σ) :
    (b.run host s).1 = b.outcome (b.watched host s).1.1 (b.watched host s).1.2 := rfl

/-- Builds for two secrets mean the same for the same ending and the same time if the same is shown
of them. -/
lemma outcome_eq_of_display_eq {context : Context} {decision : Decision} {secret secret' : String}
    (h : (ofContext context decision secret).display = (ofContext context decision secret').display)
    (completion : Completion) (duration : Decimal.Binary64) :
    (ofContext context decision secret).outcome completion duration =
      (ofContext context decision secret').outcome completion duration := by
  unfold outcome
  rw [h]
  rfl

/-- Two secrets that are redacted alike cannot be told apart by the command that is shown, nor by
what the builds come to on any two machines on which their commands end alike and take the same
time, exactly if the dockerfile is not called like the flag of a build argument and the name of the
build argument has no equals sign in it with less than eight characters behind. -/
theorem secret_hidden_iff (context : Context) (decision : Decision) :
    (∀ secret secret', redact secret = redact secret' →
      (ofContext context decision secret).display =
          (ofContext context decision secret').display ∧
        ∀ {σ σ' : Type} (host : Host (StateM σ)) (host' : Host (StateM σ')) (s : σ) (s' : σ'),
          ((ofContext context decision secret).watched host s).1 =
              ((ofContext context decision secret').watched host' s').1 →
            ((ofContext context decision secret).run host s).1 =
              ((ofContext context decision secret').run host' s').1) ↔
    context.dockerfile ≠ buildArgumentFlag ∧ ∀ key rest,
      splitAtFirst '=' context.secretArgument.toList = some (key, rest) → 8 ≤ rest.length := by
  rw [← display_alike_iff context decision]
  constructor
  · exact fun halike secret secret' hsecret => (halike secret secret' hsecret).1
  · intro halike secret secret' hsecret
    have hdisplay := halike secret secret' hsecret
    refine ⟨hdisplay, fun host host' s s' hwatched => ?_⟩
    rw [run_result, run_result, ← hwatched]
    exact outcome_eq_of_display_eq hdisplay _ _

/-- A release file in which the dockerfile and the build argument of the secret have these names. -/
def releaseWith (dockerfile argument : String) : ReleaseFile :=
  { Archive.releaseInto "/srv" with dockerfile, secret := { buildArg := some argument } }

/-- The context of such a release file. -/
def contextWith (dockerfile argument : String) : Context :=
  Context.assembled (releaseWith dockerfile argument) "." none []

/-- A build on this machine. -/
def nativeDecision : Decision := { backend := .localNative, platform := "linux/amd64" }

/-- A dockerfile that is called like the flag of a build argument, which is accepted, makes the
secret appear in full, where its first four characters should. An equals sign in the name of the
build argument makes the length of a short secret appear. -/
theorem secret_shown_with_flag :
    Context.ofReleaseFile Archive.bareHost (releaseWith "--build-arg" "URL") () =
        (.ok (contextWith "--build-arg" "URL"), ()) ∧
      redact "postgres://alice" = redact "postgres://bob" ∧
      (ofContext (contextWith "--build-arg" "URL") nativeDecision "postgres://alice").display =
        "docker build -t image -f --build-arg --build-arg URL=postgres://alice ." ∧
      (ofContext (contextWith "--build-arg" "URL") nativeDecision "postgres://bob").display =
        "docker build -t image -f --build-arg --build-arg URL=postgres://bob ." ∧
      Context.ofReleaseFile Archive.bareHost (releaseWith "Dockerfile" "A=B") () =
        (.ok (contextWith "Dockerfile" "A=B"), ()) ∧
      redact "" = redact "abc" ∧
      (ofContext (contextWith "Dockerfile" "A=B") nativeDecision "").display =
        "docker build -t image -f Dockerfile --build-arg A=*** ." ∧
      (ofContext (contextWith "Dockerfile" "A=B") nativeDecision "abc").display =
        "docker build -t image -f Dockerfile --build-arg A=***** ." :=
  ⟨rfl, by decide, by decide, by decide, rfl, by decide, by decide, by decide⟩

end Builder.ImageBuild

end Shipyard
