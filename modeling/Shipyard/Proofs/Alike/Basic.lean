import Mathlib.Tactic.Common
import Shipyard.Archive
import Shipyard.Http.Service
import Shipyard.Remote.Session

/-!
# Runs that are alike

What a run does is written once for all monads, so two runs of it differ only in what they are
given. A relation between the actions of two monads that holds of values and is kept by sequencing
holds of both runs as soon as it holds of what they were given. Here it is carried through failures
and records, through retries, and through a machine, a session and a service.
-/

namespace Shipyard

/-- A relation between the actions of two monads that holds of actions which are put together in the
same way from actions of which it holds. -/
structure ActionRelation (m n : Type → Type) [Monad m] [Monad n] where
  /-- Two actions are alike. -/
  Alike : {α : Type} → m α → n α → Prop
  pure : ∀ {α : Type} (a : α), Alike (pure a) (pure a)
  bind : ∀ {α β : Type} {x : m α} {y : n α} {f : α → m β} {g : α → n β},
    Alike x y → (∀ a, Alike (f a) (g a)) → Alike (x >>= f) (y >>= g)

variable {m n : Type → Type} [Monad m] [Monad n] {φ ρ α β : Type}

namespace ActionRelation

/-- Actions that may fail are alike if their results are. -/
def except (R : ActionRelation m n) (φ : Type) : ActionRelation (ExceptT φ m) (ExceptT φ n) where
  Alike x y := R.Alike x.run y.run
  pure a := R.pure (Except.ok a)
  bind hx hf := R.bind hx fun result => by
    cases result with
    | ok a => exact hf a
    | error e => exact R.pure (Except.error e)

/-- Actions on a record are alike if they are so from every record. -/
def state (R : ActionRelation m n) (ρ : Type) : ActionRelation (StateT ρ m) (StateT ρ n) where
  Alike x y := ∀ r, R.Alike (x.run r) (y.run r)
  pure a r := R.pure (a, r)
  bind hx hf r := R.bind (hx r) fun reached => hf reached.1 reached.2

variable (R : ActionRelation m n)

/-- Actions that may fail are related through what they do and come to. -/
lemma except_alike_iff {x : ExceptT φ m α} {y : ExceptT φ n α} :
    (R.except φ).Alike x y ↔ R.Alike x.run y.run := Iff.rfl

/-- A failure is like itself. -/
lemma throw (e : φ) : (R.except φ).Alike (throw e : ExceptT φ m α) (throw e : ExceptT φ n α) :=
  R.except_alike_iff.mpr (R.pure (Except.error e))

/-- The result of a pure check is like itself. -/
lemma ofExcept (r : Except φ α) :
    (R.except φ).Alike (ExceptT.mk (Pure.pure r) : ExceptT φ m α)
      (ExceptT.mk (Pure.pure r) : ExceptT φ n α) :=
  R.except_alike_iff.mpr (R.pure r)

section Lift

variable [LawfulMonad m] [LawfulMonad n]

/-- A function may be applied to the results of actions that are alike. -/
lemma map {x : m α} {y : n α} (g : α → β) (h : R.Alike x y) : R.Alike (g <$> x) (g <$> y) := by
  rw [map_eq_pure_bind, map_eq_pure_bind]
  exact R.bind h fun a => R.pure (g a)

/-- Actions that are alike stay so when they might have failed. -/
lemma lift {x : m α} {y : n α} (h : R.Alike x y) :
    (R.except φ).Alike (ExceptT.lift x) (ExceptT.lift y) :=
  R.except_alike_iff.mpr (R.map Except.ok h)

end Lift

/-- Retried operations are alike if the attempts and the pauses are. -/
lemma retry {pause : m Unit} {pause' : n Unit} {worthRetrying : φ → Bool}
    {operation : Nat → m (Except φ α)} {operation' : Nat → n (Except φ α)} (policy : RetryPolicy)
    (hpause : R.Alike pause pause')
    (h : ∀ attempt, R.Alike (operation attempt) (operation' attempt)) :
    R.Alike (retry policy pause worthRetrying operation)
      (retry policy pause' worthRetrying operation') := by
  have hfrom : ∀ left attempt, R.Alike (attemptFrom pause worthRetrying operation left attempt)
      (attemptFrom pause' worthRetrying operation' left attempt) := by
    intro left
    induction left with
    | zero => exact h
    | succ left ih =>
      intro attempt
      refine R.bind (h attempt) fun result => ?_
      cases result with
      | ok value => exact R.pure _
      | error fault =>
        dsimp only
        split
        · exact R.bind hpause fun _ => ih _
        · exact R.pure _
  exact hfrom _ _

end ActionRelation

variable (R : ActionRelation m n)

/-! ## What a run is given -/

/-- Two machines do alike whatever they are asked, up to setting up what requests are sent with. A
release is given a service for which this has been done. -/
structure Host.Alike (host : Host m) (host' : Host n) : Prop where
  environment : ∀ name, R.Alike (host.environment name) (host'.environment name)
  accountHome : R.Alike host.accountHome host'.accountHome
  pathExists : ∀ path, R.Alike (host.pathExists path) (host'.pathExists path)
  readText : ∀ path, R.Alike (host.readText path) (host'.readText path)
  fileSize : ∀ path, R.Alike (host.fileSize path) (host'.fileSize path)
  removeFile : ∀ path, R.Alike (host.removeFile path) (host'.removeFile path)
  capture : ∀ invocation, R.Alike (host.capture invocation) (host'.capture invocation)
  attach : ∀ invocation, R.Alike (host.attach invocation) (host'.attach invocation)
  freshArchive : R.Alike host.freshArchive host'.freshArchive
  timestamp : R.Alike host.timestamp host'.timestamp
  nanoseconds : R.Alike host.nanoseconds host'.nanoseconds
  pause : ∀ seconds, R.Alike (host.pause seconds) (host'.pause seconds)

/-- Two channels to one address do alike whatever they are given. -/
structure Remote.Channel.Alike (channel : Channel m) (channel' : Channel n) : Prop where
  run : ∀ command, R.Alike (channel.run command) (channel'.run command)
  copy : ∀ localPath remotePath,
    R.Alike (channel.copy localPath remotePath) (channel'.copy localPath remotePath)
  address : channel.address = channel'.address

/-- Two sessions of one policy have channels that are alike. -/
structure Remote.Session.Alike (session : Session m) (session' : Session n) : Prop where
  channel : session.channel.Alike R session'.channel
  policy : session.policy = session'.policy
  pause : R.Alike session.pause session'.pause

/-- Two services answer alike. -/
structure Http.Service.Alike (service : Service m) (service' : Service n) : Prop where
  send : ∀ request, R.Alike (service.send request) (service'.send request)

variable {R}

/-! ## Machines -/

namespace Host.Alike

variable {host : Host m} {host' : Host n} (h : host.Alike R host')

include h

/-- A program is run alike for its output. -/
lemma runCaptured (invocation : Invocation) :
    R.Alike (host.runCaptured invocation) (host'.runCaptured invocation) := by
  refine R.bind (h.capture invocation) fun result => ?_
  cases result with
  | ok finished => exact R.pure _
  | error fault => exact R.pure _

/-- A program is run alike at the terminal. -/
lemma runAttached (invocation : Invocation) :
    R.Alike (host.runAttached invocation) (host'.runAttached invocation) := by
  refine R.bind (h.attach invocation) fun result => ?_
  cases result with
  | ok ending => exact R.pure _
  | error fault => exact R.pure _

/-- The home directory is looked up alike. -/
lemma homeDirectory : R.Alike host.homeDirectory host'.homeDirectory := by
  refine R.bind (h.environment _) fun named => ?_
  cases named with
  | none => exact h.accountHome
  | some home =>
    dsimp only
    split
    · exact h.accountHome
    · exact R.pure _

/-- The home directory is put into a path alike. -/
lemma expandHome (path : String) : R.Alike (host.expandHome path) (host'.expandHome path) := by
  unfold Host.expandHome
  split
  · exact R.bind h.homeDirectory fun _ => R.pure _
  · exact R.bind h.homeDirectory fun _ => R.pure _
  · exact R.pure _

/-- An archive is discarded alike. -/
lemma discard (path : String) :
    R.Alike (Archive.discard host path) (Archive.discard host' path) := by
  refine R.bind (h.pathExists path) fun isThere => ?_
  split
  · exact h.removeFile path
  · exact R.pure _

end Host.Alike

/-! ## Sessions and services -/

/-- Attempts that are alike are retried alike, in two sessions at one address with one policy. -/
lemma Remote.Session.withRetry_alike {session : Session m} {session' : Session n}
    (haddress : session.channel.address = session'.channel.address)
    (hpolicy : session.policy = session'.policy) (hpause : R.Alike session.pause session'.pause)
    {isTransient : Completion → Bool} {attempt : m Completion} {attempt' : n Completion}
    (hattempt : R.Alike attempt attempt') :
    (R.except Failure).Alike (session.withRetry isTransient attempt)
      (session'.withRetry isTransient attempt') := by
  unfold withRetry
  rw [hpolicy, haddress]
  exact R.except_alike_iff.mpr <| R.retry _ hpause fun _ => R.bind hattempt fun _ => R.pure _

namespace Remote.Session.Alike

variable {session : Session m} {session' : Session n} (h : session.Alike R session')

include h

/-- Attempts that are alike are retried alike. -/
lemma withRetry {isTransient : Completion → Bool} {attempt : m Completion} {attempt' : n Completion}
    (hattempt : R.Alike attempt attempt') :
    (R.except Failure).Alike (session.withRetry isTransient attempt)
      (session'.withRetry isTransient attempt') :=
  withRetry_alike h.channel.address h.policy h.pause hattempt

/-- A command line is executed alike. -/
lemma execute (command : String) :
    (R.except Failure).Alike (session.execute command) (session'.execute command) :=
  h.withRetry (h.channel.run command)

/-- A command line is run alike. -/
lemma run (command : String) :
    (R.except Failure).Alike (session.run command) (session'.run command) := by
  unfold Remote.Session.run
  rw [h.channel.address]
  exact (R.except Failure).bind (h.execute command) fun _ => R.ofExcept _

/-- A file is copied alike. -/
lemma upload (localPath remotePath : String) :
    (R.except Failure).Alike (session.upload localPath remotePath)
      (session'.upload localPath remotePath) :=
  h.withRetry (h.channel.copy localPath remotePath)

end Remote.Session.Alike

/-- A request is made alike. -/
lemma Http.Service.Alike.exchange {service : Service m} {service' : Service n}
    (h : service.Alike R service') (request : Request) :
    R.Alike (service.exchange request) (service'.exchange request) :=
  R.bind (h.send request) fun _ => R.pure _

end Shipyard
