import Shipyard.Proofs.Remote.Attempts
import Shipyard.Proofs.Trace.Faithful
import Shipyard.Secret

/-!
# What a failure tells of the file with the secret

The file with the secret is shown by a command on the remote host, so what stands in it reaches a
run as the output of this command and in no other way. Two runs are compared here that are answered
alike but for this output. If both fail, their failures are the same but for one place: the failure
of a command that has ended badly carries all that the command has written. A host that cannot be
reached and a key that is not defined tell nothing of the file.

How often the command is tried again does not depend on its output. So the two runs make the same
number of attempts, and the last reply decides in both.
-/

namespace Shipyard

/-! ## Other output -/

/-- Two completions are the same but for what was written to standard output. -/
def Completion.SameButOutput (c c' : Completion) : Prop :=
  c' = { c with stdout := c'.stdout }

/-- Two rows of events are answered alike but for output: where the same command was run at the same
place, the completions are the same but for what was written to standard output. -/
def AnsweredButOutput (events events' : List Event) : Prop :=
  ∀ (i : Nat) (command : String) (c c' : Completion), events[i]? = some (.ran command c) →
    events'[i]? = some (.ran command c') → c.SameButOutput c'

/-- A cause without what was written by the command that has failed. -/
def Cause.mute : Cause → Cause
  | .commandFailed command exitCode _ stderr host => .commandFailed command exitCode "" stderr host
  | cause => cause

/-- A failure without what was written by the command that has failed. -/
def Failure.mute (failure : Failure) : Failure :=
  { failure with cause := failure.cause.mute }

/-- Whether the connection is to blame does not depend on the output. -/
lemma Completion.SameButOutput.isTransientRun_eq {c c' : Completion} (h : c.SameButOutput c') :
    Remote.isTransientRun c = Remote.isTransientRun c' := by
  rw [h]
  rfl

namespace Secret

open Remote (Session)

variable {σ τ : Type}

/-! ## Fetching -/

/-- The value that a text gives for a key, or the failure of a file that does not define it. -/
def defined (path key content : String) : Except Failure String :=
  match value? content key with
  | some value => .ok value
  | none => .error (missing path key)

/-- What is made of the last reply if the connection has held. -/
def conclude (address path key : String) (c : Completion) : Except Failure String :=
  (Session.output address (showCommand path) c).bind (defined path key)

/-- A key is fetched by showing the file, and then something is made of the last reply. -/
lemma resolve_eq (session : Session (StateM σ)) (path key : String) :
    resolve session path key = session.execute (showCommand path) >>= fun c =>
      ExceptT.mk (pure (conclude session.channel.address path key c)) := by
  unfold resolve Session.run
  rw [bind_assoc]
  refine bind_congr fun c => ?_
  unfold conclude
  cases Session.output session.channel.address (showCommand path) c with
  | error failure => rfl
  | ok content =>
    change ((match value? content key with
      | some value => pure value
      | none => throw (missing path key)) : ExceptT Failure (StateM σ) String) =
        ExceptT.mk (pure (defined path key content))
    unfold defined
    cases value? content key <;> rfl

/-- What is sent to the host while a key is fetched, with the replies. -/
def sent (session : Session (StateM σ)) (path key : String) (s : σ) : List Event :=
  (resolve session.traced path key ⟨s, []⟩).2.trace

/-- What is sent while a key is fetched are commands that show the file, as long as the connection
is to blame and the budget lasts, and the last reply decides. -/
lemma resolve_sent (session : Session (StateM σ)) (path key : String) (s : σ) :
    ∃ lost last, Attempts Remote.isTransientRun (session.policy.budget - 1) lost last ∧
      sent session path key s = (lost ++ [last]).map (Event.ran (showCommand path)) ∧
      (resolve session path key s).1 =
        (Session.judge session.channel.address Remote.isTransientRun (lost.length + 1) last).bind
          (conclude session.channel.address path key) := by
  obtain ⟨lost, last, hattempts, htrace, hresult⟩ :
      ∃ lost last, Attempts Remote.isTransientRun (session.policy.budget - 1) lost last ∧
        (session.traced.execute (showCommand path) ⟨s, []⟩).2.trace =
          [] ++ (lost ++ [last]).map (Event.ran (showCommand path)) ∧
        (session.traced.execute (showCommand path) ⟨s, []⟩).1 =
          Session.judge session.channel.address Remote.isTransientRun (lost.length + 1) last :=
    session.traced_withRetry_attempts Remote.isTransientRun
      (Traced.noting_trace (Event.ran (showCommand path)) _) ⟨s, []⟩
  have huntraced : (resolve session.traced path key ⟨s, []⟩).1 = (resolve session path key s).1 :=
    (resolve_alike session.traced_alike path key ⟨s, []⟩).1
  refine ⟨lost, last, hattempts, ?_, ?_⟩
  · rw [sent, resolve_eq, evalExcept_bind, ← List.nil_append (List.map _ _), ← htrace]
    split <;> rfl
  · rw [← huntraced, resolve_eq, evalExcept_bind, hresult]
    cases Session.judge session.channel.address Remote.isTransientRun (lost.length + 1) last <;> rfl

/-! ## Failures -/

/-- What fetching fails with, if it fails, by the last reply and its number: the connection is to
blame for it, the file does not define the key, or the command has failed. -/
def failureOf (address path key : String) (number : Nat) (c : Completion) : Failure :=
  if Remote.isTransientRun c then
    (Cause.unreachable address number c.exitCode (Text.trim c.stderr)).failure
  else if c.success then missing path key
  else (Cause.commandFailed (showCommand path) c.exitCode c.stdout c.stderr address).failure

variable {address path key : String} {number : Nat} {c c' : Completion} {failure : Failure}

/-- If fetching fails, it fails with this. -/
lemma eq_failureOf_of_bind_eq_error
    (h : (Session.judge address Remote.isTransientRun number c).bind (conclude address path key) =
      .error failure) : failure = failureOf address path key number c := by
  unfold Session.judge at h
  unfold failureOf
  split at h
  · rename_i hlost
    rw [if_pos hlost]
    exact (Except.error.inj h).symm
  · rename_i hheld
    rw [if_neg hheld]
    change (Session.output address (showCommand path) c).bind (defined path key) = _ at h
    unfold Session.output at h
    split at h
    · rename_i hsuccess
      rw [if_pos hsuccess]
      change defined path key c.stdout = _ at h
      unfold defined at h
      split at h
      · cases h
      · exact (Except.error.inj h).symm
    · rename_i hfailed
      rw [if_neg hfailed]
      exact (Except.error.inj h).symm

/-- Replies that are the same but for output fail with the same but for output. They fail with the
very same unless the command has failed with other output. -/
lemma failureOf_alike (h : c.SameButOutput c') :
    (failureOf address path key number c).mute = (failureOf address path key number c').mute ∧
      (failureOf address path key number c = failureOf address path key number c' ↔
        ((failureOf address path key number c).code = "remote.command_failed" →
          c.stdout = c'.stdout)) := by
  have hunreachable : "ssh.connect_failed" ≠ "remote.command_failed" := by decide
  have hmissing : "config.missing_key" ≠ "remote.command_failed" := by decide
  obtain ⟨stdout, stderr, success, exitCode⟩ := c
  obtain ⟨stdout', stderr', success', exitCode'⟩ := c'
  cases h
  by_cases hlost : Remote.isTransientRun ⟨stdout, stderr, success, exitCode⟩ = true
  · have hlost' : Remote.isTransientRun ⟨stdout', stderr, success, exitCode⟩ = true := hlost
    unfold failureOf
    rw [if_pos hlost, if_pos hlost']
    exact ⟨rfl, fun _ hcode => absurd hcode hunreachable, fun _ => rfl⟩
  · have hheld' : ¬ Remote.isTransientRun ⟨stdout', stderr, success, exitCode⟩ = true := hlost
    unfold failureOf
    rw [if_neg hlost, if_neg hheld']
    cases success with
    | true => exact ⟨rfl, fun _ hcode => absurd hcode hmissing, fun _ => rfl⟩
    | false =>
      refine ⟨rfl, fun heq _ => ?_, fun hout => ?_⟩
      · have hcause := congrArg Failure.cause heq
        exact (Cause.commandFailed.inj hcause).2.2.1
      · exact congrArg (fun out => (Cause.commandFailed _ _ out _ _).failure) (hout rfl)

/-- Two runs with the same address and the same policy fetch a key from a file and are answered
alike but for output. If both fail, their failures are the same but for the output of a command that
has failed: message, hints and all other details are equal. They are equal altogether exactly if the
last replies have the same output or something else than the command is to blame. -/
theorem failures_differ_in_output {session : Session (StateM σ)} {session' : Session (StateM τ)}
    (haddress : session.channel.address = session'.channel.address)
    (hpolicy : session.policy = session'.policy) (path key : String) (s : σ) (s' : τ)
    (halike : AnsweredButOutput (sent session path key s) (sent session' path key s'))
    {failure failure' : Failure} (h : (resolve session path key s).1 = .error failure)
    (h' : (resolve session' path key s').1 = .error failure') :
    failure.mute = failure'.mute ∧
      ∃ last last',
        (sent session path key s).getLast? = some (.ran (showCommand path) last) ∧
        (sent session' path key s').getLast? = some (.ran (showCommand path) last') ∧
        (failure = failure' ↔
          (failure.code = "remote.command_failed" → last.stdout = last'.stdout)) := by
  obtain ⟨lost, last, hattempts, hsent, hresult⟩ := resolve_sent session path key s
  obtain ⟨lost', last', hattempts', hsent', hresult'⟩ := resolve_sent session' path key s'
  have hplaces : ∀ (i : Nat) (c c' : Completion), (lost ++ [last])[i]? = some c →
      (lost' ++ [last'])[i]? = some c' → c.SameButOutput c' := by
    intro i c c' hc hc'
    refine halike i (showCommand path) c c' ?_ ?_
    · rw [hsent, List.getElem?_map, hc]
      rfl
    · rw [hsent', List.getElem?_map, hc']
      rfl
  rw [← hpolicy] at hattempts'
  have hlength : lost.length = lost'.length := hattempts.length_eq_length hattempts'
    fun i c c' hc hc' => (hplaces i c c' hc hc').isTransientRun_eq
  have hlast : last.SameButOutput last' := by
    refine hplaces lost.length last last' List.getElem?_concat_length ?_
    rw [hlength]
    exact List.getElem?_concat_length
  rw [h] at hresult
  rw [h', ← haddress, ← hlength] at hresult'
  obtain rfl := eq_failureOf_of_bind_eq_error hresult.symm
  obtain rfl := eq_failureOf_of_bind_eq_error hresult'.symm
  obtain ⟨hmute, hiff⟩ := failureOf_alike hlast
  have hends : ∀ (lost : List Completion) (last : Completion),
      ((lost ++ [last]).map (Event.ran (showCommand path))).getLast? =
        some (.ran (showCommand path) last) := by
    intro lost last
    rw [List.getLast?_map, List.getLast?_concat]
    rfl
  exact ⟨hmute, last, last', hsent ▸ hends lost last, hsent' ▸ hends lost' last', hiff⟩

/-! ## A file that cannot be read to its end -/

/-- A session with a host on which every command comes to the same. -/
def steady (c : Completion) : Session (StateM Unit) where
  channel := ⟨fun _ => pure c, fun _ _ => pure c, "deploy@host"⟩
  policy := .once
  pause := pure ()

/-- The command that shows a file has written something of it before it has failed. -/
def broken (stdout : String) : Completion :=
  ⟨stdout, "cat: .env: Input/output error\n", false, 1⟩

/-- Hosts on which a file cannot be read to its end answer alike but for output. -/
lemma answeredButOutput_broken (stdout stdout' path key : String) :
    AnsweredButOutput (sent (steady (broken stdout)) path key ())
      (sent (steady (broken stdout')) path key ()) := by
  intro i command c c' hc hc'
  match i with
  | 0 =>
    cases hc
    cases hc'
    rfl
  | i + 1 => cases hc

/-- What the command has written before it has failed is in the failure. -/
lemma resolve_broken (stdout path key : String) :
    (resolve (steady (broken stdout)) path key ()).1 =
      .error (Cause.commandFailed (showCommand path) 1 stdout
        "cat: .env: Input/output error\n" "deploy@host").failure := rfl

/-- Two failures of a file that cannot be read to its end are the same but for what was read. -/
theorem broken_reads_differ_in_output :
    let content := "DATABASE_URL=postgres://admin:hunter2@db/app\n"
    let whole := steady (broken content)
    let nothing := steady (broken "")
    AnsweredButOutput (sent whole "/srv/.env" "DATABASE_URL" ())
        (sent nothing "/srv/.env" "DATABASE_URL" ()) ∧
      ∃ failure failure', (resolve whole "/srv/.env" "DATABASE_URL" ()).1 = .error failure ∧
        (resolve nothing "/srv/.env" "DATABASE_URL" ()).1 = .error failure' ∧
        failure.mute = failure'.mute := by
  intro content whole nothing
  have halike := answeredButOutput_broken content "" "/srv/.env" "DATABASE_URL"
  have hwhole := resolve_broken content "/srv/.env" "DATABASE_URL"
  have hnothing := resolve_broken "" "/srv/.env" "DATABASE_URL"
  have haddress : whole.channel.address = nothing.channel.address := rfl
  have hpolicy : whole.policy = nothing.policy := rfl
  refine ⟨halike, _, _, hwhole, hnothing, ?_⟩
  exact (failures_differ_in_output haddress hpolicy _ _ () () halike hwhole hnothing).1

/-- If the file with the secret cannot be read to its end, the details of the failure tell the
secret. A host that answers alike but for output makes the run fail with the same code and other
details. -/
theorem failure_tells_secret :
    let content := "DATABASE_URL=postgres://admin:hunter2@db/app\n"
    let whole := steady (broken content)
    let nothing := steady (broken "")
    AnsweredButOutput (sent whole "/srv/.env" "DATABASE_URL" ())
        (sent nothing "/srv/.env" "DATABASE_URL" ()) ∧
      ∃ failure failure', (resolve whole "/srv/.env" "DATABASE_URL" ()).1 = .error failure ∧
        (resolve nothing "/srv/.env" "DATABASE_URL" ()).1 = .error failure' ∧
        failure.code = failure'.code ∧ failure.details ≠ failure'.details ∧
        ("stdout", Json.text content) ∈ failure.details := by
  intro content whole nothing
  refine ⟨answeredButOutput_broken content "" _ _, _, _, resolve_broken content _ _,
    resolve_broken "" _ _, rfl, ?_, ?_⟩
  · decide +kernel
  · decide +kernel

end Secret

end Shipyard
