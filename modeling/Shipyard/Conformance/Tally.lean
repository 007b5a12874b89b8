import Shipyard.Failure

/-!
# Tally and verdict

What a run counts: probes that passed, probes that failed, both together, and probes that were
skipped. A run has failed if some probe has; probes that were skipped do not count.
-/

namespace Shipyard.Conformance

/-- The counts of a run. -/
structure Tally where
  pass : Nat := 0
  fail : Nat := 0
  total : Nat := 0
  skipped : Nat := 0
  deriving DecidableEq, Repr

namespace Tally

/-- The counts of a run in which nothing was probed. -/
def empty : Tally := {}

/-- One more probe that passed. -/
def recordPass (t : Tally) : Tally :=
  { t with pass := t.pass + 1, total := t.total + 1 }

/-- One more probe that failed. -/
def recordFail (t : Tally) : Tally :=
  { t with fail := t.fail + 1, total := t.total + 1 }

/-- One more probe that was skipped. -/
def recordSkip (t : Tally) : Tally :=
  { t with skipped := t.skipped + 1 }

/-- Whether the counts fit together. -/
def isConsistent (t : Tally) : Bool :=
  t.pass + t.fail == t.total

/-- The counts as a document. -/
def toJson (t : Tally) : Json :=
  .object
    [ ("pass", .ofNat t.pass), ("fail", .ofNat t.fail), ("total", .ofNat t.total),
      ("skipped", .ofNat t.skipped) ]

/-- The counts on one line. -/
def summary (t : Tally) : String :=
  "pass=" ++ Cause.integerText t.pass ++ " fail=" ++ Cause.integerText t.fail ++
    " total=" ++ Cause.integerText t.total ++ " skipped=" ++ Cause.integerText t.skipped

end Tally

/-- What a run comes to. -/
structure Verdict where
  exitCode : Nat
  summary : String
  deriving DecidableEq, Repr

/-- The verdict on counts: exit code 1 if something failed, 0 otherwise. -/
def Tally.verdict (t : Tally) : Verdict :=
  ⟨if 0 < t.fail then 1 else 0, t.summary⟩

/-- A verdict as a document. -/
def Verdict.toJson (v : Verdict) : Json :=
  .object [("exitCode", .ofNat v.exitCode), ("summary", .text v.summary)]

end Shipyard.Conformance
