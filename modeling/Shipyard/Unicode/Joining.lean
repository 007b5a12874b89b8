import Shipyard.Unicode.Composition
import Shipyard.Unicode.Mark
import Shipyard.Unicode.Tables.Joining

/-!
# Joiners

Two characters that show nothing say whether the letters on their sides join. They are at home
behind a sign that silences a vowel, and the one that parts letters also between letters that would
join without it.
-/

namespace Shipyard.Unicode

/-- The character that parts letters. -/
def parter : Nat := 0x200C

/-- The character that joins letters. -/
def joiner : Nat := 0x200D

/-- The class of the signs that silence a vowel. -/
def silencerOrder : Nat := 9

/-- The characters that join with the one behind them. -/
def joinsAfter : CodeSet :=
  (CodeSet.ofText joinsBothText).union (.ofText joinsAfterText)

/-- The characters that join with the one in front of them. -/
def joinsBefore : CodeSet :=
  (CodeSet.ofText joinsBothText).union (.ofText joinsBeforeText)

/-- The characters that let those around them join. -/
def joinsThrough : CodeSet :=
  nonspacingMarks.union (.ofText joinsThroughText)

/-- Whether the first character that does not let others join through it is in a set. -/
def joinsNext (set : CodeSet) (codes : List Nat) : Bool :=
  (codes.dropWhile joinsThrough.has).head?.any set.has

/-- Whether a joiner is at home between the characters in front of it, the last one first, and those
behind it. -/
def isJoinerAtHome (code : Nat) (before after : List Nat) : Bool :=
  before.head?.any (fun other => orderOf other == silencerOrder) ||
    (code == parter && joinsNext joinsAfter before && joinsNext joinsBefore after)

/-- Whether all joiners of a text are at home; `before` stands in front of it, the last character
first. -/
def areJoinersAtHome (before : List Nat) : List Nat → Bool
  | [] => true
  | code :: codes =>
    (if code = parter ∨ code = joiner then isJoinerAtHome code before codes else true) &&
      areJoinersAtHome (code :: before) codes

end Shipyard.Unicode
