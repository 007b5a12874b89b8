import Shipyard.Unicode.CodeSet

/-!
# Runs of code points with counterparts

A mapping of characters to characters is kept as a list of runs, and written as text: a code point,
a range or a range with a stride, `100-12E/2:101`, with the counterpart of the first of them behind
a colon. The counterparts of the others follow in the same steps.
-/

namespace Shipyard.Unicode

/-- A run of code points with their counterparts: those from `first` to `last` in steps of `stride`,
and their counterparts from `other` on in the same steps. -/
structure CodeRun where
  first : Nat
  last : Nat
  stride : Nat
  other : Nat
  deriving DecidableEq, Repr

namespace CodeRun

/-- The run that a word stands for. -/
def ofWord (word : List Char) : CodeRun :=
  let (first, rest) := Text.hexPrefix word
  let (last, rest) :=
    match rest with
    | '-' :: rest => Text.hexPrefix rest
    | rest => (first, rest)
  let (stride, rest) :=
    match rest with
    | '/' :: rest => Text.hexPrefix rest
    | rest => (1, rest)
  ⟨first, last, stride, Text.hexValue (rest.drop 1)⟩

/-- The runs that a text stands for. -/
def ofText (text : String) : List CodeRun :=
  (words text.toList).map ofWord

/-- The counterpart of a code point, if the run has one. -/
def counterpart? (run : CodeRun) (code : Nat) : Option Nat :=
  if run.first ≤ code ∧ code ≤ run.last ∧ (code - run.first) % run.stride = 0 then
    some (run.other + (code - run.first))
  else none

/-- The counterparts of the code points of a range. -/
def counterparts (run : CodeRun) (r : Nat × Nat) : List (Nat × Nat) :=
  let low := max r.1 run.first
  let high := min r.2 run.last
  let skipped := (low - run.first + run.stride - 1) / run.stride * run.stride
  if high < run.first + skipped then []
  else if run.stride = 1 then [(run.other + skipped, run.other + (high - run.first))]
  else stridden (run.other + skipped) (run.other + (high - run.first)) run.stride

end CodeRun

end Shipyard.Unicode
