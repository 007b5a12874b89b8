import Shipyard.Text.Digits

/-!
# Sets of code points

A property of characters is kept as a list of closed ranges of code points, and written as text: a
code point or a range in hexadecimal, `30-39`, or a range that leaves code points out, with its
stride behind a slash, `100-12E/2`. `CodeSet.has` looks a code point up; the operations on sets work
range by range.
-/

namespace Shipyard.Unicode

/-- The greatest code point. -/
def lastCode : Nat := 0x10FFFF

/-- A set of code points: those within one of some closed ranges. -/
structure CodeSet where
  ranges : List (Nat × Nat)
  deriving DecidableEq, Repr

/-- The words of a text, which are apart by spaces and line feeds. -/
def words (cs : List Char) : List (List Char) :=
  let step (c : Char) (done : List Char × List (List Char)) : List Char × List (List Char) :=
    if c = ' ' ∨ c = '\n' then ([], if done.1.isEmpty then done.2 else done.1 :: done.2)
    else (c :: done.1, done.2)
  let (word, words) := cs.foldr step ([], [])
  if word.isEmpty then words else word :: words

/-- The code points from `first` to `last` in steps of `stride`, each as a range of its own. -/
def stridden (first last stride : Nat) : List (Nat × Nat) :=
  (List.range ((last - first) / stride + 1)).map fun k =>
    (first + k * stride, first + k * stride)

/-- The ranges that a word stands for. -/
def wordRanges (word : List Char) : List (Nat × Nat) :=
  match Text.hexPrefix word with
  | (first, '-' :: rest) =>
    match Text.hexPrefix rest with
    | (last, '/' :: rest) => stridden first last (Text.hexPrefix rest).1
    | (last, _) => [(first, last)]
  | (code, _) => [(code, code)]

/-- Ranges in ascending order, those joined that overlap or touch; `r` stands in front of them. -/
def joinRanges (r : Nat × Nat) : List (Nat × Nat) → List (Nat × Nat)
  | [] => [r]
  | s :: ranges =>
    if s.1 ≤ r.2 + 1 then joinRanges (r.1, max r.2 s.2) ranges else r :: joinRanges s ranges

/-- Ranges in any order as ranges in ascending order that are apart. -/
def tidyRanges (ranges : List (Nat × Nat)) : List (Nat × Nat) :=
  match (ranges.filter fun r => r.1 ≤ r.2).mergeSort fun r s => r.1 ≤ s.1 with
  | [] => []
  | r :: ranges => joinRanges r ranges

/-- The ranges between ascending ranges, from `n` on. -/
def gapsFrom (n : Nat) : List (Nat × Nat) → List (Nat × Nat)
  | [] => if n ≤ lastCode then [(n, lastCode)] else []
  | r :: ranges =>
    if n < r.1 then (n, r.1 - 1) :: gapsFrom (max n (r.2 + 1)) ranges
    else gapsFrom (max n (r.2 + 1)) ranges

namespace CodeSet

/-- Whether a code point is in a set. -/
def has (s : CodeSet) (n : Nat) : Bool :=
  s.ranges.any fun r => r.1 ≤ n && n ≤ r.2

/-- Whether a character is in a set. -/
def hasChar (s : CodeSet) (c : Char) : Bool :=
  s.has c.toNat

/-- The set of ranges in any order. -/
def ofRanges (ranges : List (Nat × Nat)) : CodeSet :=
  ⟨tidyRanges ranges⟩

/-- The set that a text stands for. -/
def ofText (text : String) : CodeSet :=
  ofRanges ((words text.toList).flatMap wordRanges)

/-- The set without members. -/
def nothing : CodeSet := ⟨[]⟩

/-- The set of all code points. -/
def everything : CodeSet := ⟨[(0, lastCode)]⟩

/-- The set of one code point. -/
def single (n : Nat) : CodeSet := ⟨[(n, n)]⟩

/-- The members of either set. -/
def union (a b : CodeSet) : CodeSet :=
  ofRanges (a.ranges ++ b.ranges)

/-- The members of any of some sets. -/
def unions (sets : List CodeSet) : CodeSet :=
  ofRanges (sets.flatMap ranges)

/-- The code points outside a set. -/
def complement (a : CodeSet) : CodeSet :=
  ⟨gapsFrom 0 (tidyRanges a.ranges)⟩

/-- The members of both sets. -/
def inter (a b : CodeSet) : CodeSet :=
  (a.complement.union b.complement).complement

/-- The members of the first set that are not in the second. -/
def diff (a b : CodeSet) : CodeSet :=
  (a.complement.union b).complement

/-- The members of one set that are not in the other. -/
def symmDiff (a b : CodeSet) : CodeSet :=
  (a.diff b).union (b.diff a)

/-- Whether no member of a set lies above a code point. -/
def isWithin (s : CodeSet) (last : Nat) : Bool :=
  s.ranges.all fun r => r.2 ≤ last

end CodeSet

end Shipyard.Unicode
