import Shipyard.Pattern.Basic

/-!
# The size of patterns

A pattern is refused if the machine that would look for its matches is too large. `Pattern.cost`
counts the room of such a machine, which reads a text byte by byte: a state for each byte of a
character, and for a set of characters the states that tell their first bytes apart from the last.
-/

namespace Shipyard.Pattern

/-- The room of a state. -/
def stateCost : Nat := 32

/-- The room of a way out of a state that has many. -/
def branchCost : Nat := 4

/-- The room of a range of bytes in a state. -/
def rangeCost : Nat := 8

/-- The greatest room that a pattern may take. -/
def costLimit : Nat := 10 * 1024 * 1024

/-- The number of bytes of a code point. -/
def byteCount (code : Nat) : Nat :=
  if code < 0x80 then 1 else if code < 0x800 then 2 else if code < 0x10000 then 3 else 4

/-- The ranges of bytes, one for each byte of a character, that the code points from `low` to `high`
are made of, if `count` bytes follow the first. -/
def byteRanges : Nat → Nat → Nat → List (List (Nat × Nat))
  | 0, low, high => [[(low, high)]]
  | count + 1, low, high =>
    let first := low / 64
    let last := high / 64
    if first = last then (byteRanges count first last).map (· ++ [(low % 64, high % 64)])
    else
      let start := if low % 64 = 0 then first else first + 1
      let stop := if high % 64 = 63 then last + 1 else last
      (if low % 64 = 0 then [] else (byteRanges count first first).map (· ++ [(low % 64, 63)])) ++
        (if start < stop then (byteRanges count start (stop - 1)).map (· ++ [(0, 63)]) else []) ++
        if high % 64 = 63 then [] else (byteRanges count last last).map (· ++ [(0, high % 64)])

/-- The code points of a number of bytes each, without the halves of surrogate pairs. -/
def byteBlocks : List (Nat × Nat) :=
  [(0, 0x7F), (0x80, 0x7FF), (0x800, 0xD7FF), (0xE000, 0xFFFF), (0x10000, 0x10FFFF)]

/-- The ranges of bytes of the code points of a range, in ascending order. -/
def rangeBytes (r : Nat × Nat) : List (List (Nat × Nat)) :=
  byteBlocks.flatMap fun block =>
    let low := max r.1 block.1
    let high := min r.2 block.2
    if high < low then [] else byteRanges (byteCount low - 1) low high

/-- The number of elements that two lists have in common from the start on. -/
def commonLength {α : Type} [DecidableEq α] : List α → List α → Nat
  | a :: as, b :: bs => if a = b then commonLength as bs + 1 else 0
  | _, _ => 0

/-- The number of states that lists of ranges of bytes need. Those that begin like the one in front
of them share the states of the beginning. -/
def sharedStates (front : List (Nat × Nat)) : List (List (Nat × Nat)) → Nat
  | [] => 0
  | bytes :: others => bytes.length - commonLength front bytes + sharedStates bytes others

/-- The room of a set of characters. -/
def setCost (set : Unicode.CodeSet) : Nat :=
  match set.ranges with
  | [] => stateCost
  | [(first, last)] =>
    if first = last then byteCount first * stateCost else manyCost
  | _ => manyCost
where
  /-- The room of a set of several characters. -/
  manyCost : Nat :=
    if set.isWithin 0x7F then 2 * stateCost + set.ranges.length * rangeCost
    else
      let bytes := set.ranges.flatMap rangeBytes
      (2 + sharedStates [] bytes) * stateCost + bytes.length * branchCost

/-- Whether a pattern may match an empty text, as far as can be told without looking at places. -/
def mayBeEmpty : Pattern → Bool
  | .empty => true
  | .chars _ => false
  | .sequence a b => a.mayBeEmpty && b.mayBeEmpty
  | .alternative a b => a.mayBeEmpty || b.mayBeEmpty
  | .repetition least _ a => least == 0 || a.mayBeEmpty
  | .remembered a => a.mayBeEmpty
  | .assertion _ => true

/-- Whether a pattern matches nothing but empty texts. -/
def isAlwaysEmpty : Pattern → Bool
  | .empty => true
  | .chars _ => false
  | .sequence a b => a.isAlwaysEmpty && b.isAlwaysEmpty
  | .alternative a b => a.isAlwaysEmpty && b.isAlwaysEmpty
  | .repetition _ most a => most == some 0 || a.isAlwaysEmpty
  | .remembered a => a.isAlwaysEmpty
  | .assertion _ => true

/-- The room of a repetition of a part that takes `cost`. -/
def repetitionCost (least : Nat) (most : Option Nat) (mayBeEmpty : Bool) (cost : Nat) : Nat :=
  match least, most with
  | 0, none => cost + (if mayBeEmpty then 3 else 1) * stateCost
  | least, none => least * cost + stateCost
  | 0, some 0 => stateCost
  | 0, some 1 => cost + 2 * stateCost
  | least, some most =>
    if least = most then least * cost
    else (if least = 0 then 2 else 1) * stateCost + least * cost +
      (most - least) * (cost + stateCost)

/-- The room of a pattern. Repeating what is always empty means no more than once. -/
def cost : Pattern → Nat
  | .empty => stateCost
  | .chars set => setCost set
  | .sequence a b => a.cost + b.cost
  | .alternative a b => a.cost + b.cost + 2 * stateCost
  | .repetition least most a =>
    if a.isAlwaysEmpty then repetitionCost (min least 1) (most.map (min · 1)) true a.cost
    else repetitionCost least most a.mayBeEmpty a.cost
  | .remembered a => a.cost + 2 * stateCost
  | .assertion _ => stateCost

/-- Whether a pattern takes no more room than it may. -/
def isAffordable (p : Pattern) : Bool :=
  p.cost ≤ costLimit

end Shipyard.Pattern
