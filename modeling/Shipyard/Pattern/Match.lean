import Shipyard.Pattern.Meaning
import Shipyard.Pattern.Reader
import Shipyard.Pattern.Size

/-!
# Matching texts with patterns

A text is taken for a pattern in a group, behind a switch that has lines end in carriage returns,
too; `matchesWhole` puts anchors around the group. What the text does with the parentheses around it
is its own matter, so `a)|(b` has two alternatives and two groups.
-/

namespace Shipyard.Pattern

/-- The pattern that a text is, if it has a meaning and takes no more room than it may. -/
def parse? (text : List Char) : Option Pattern := do
  let written ← Written.parse? text
  let (pattern, _) ← written.meaning? {}
  if pattern.isAffordable then return pattern else none

/-- The switch in front of all patterns. -/
def lineSwitch : List Char := "(?R)".toList

/-- Whether a pattern matches a whole text; a text that is no pattern matches nothing. -/
def matchesWhole (pattern text : String) : Bool :=
  match parse? (lineSwitch ++ "^(".toList ++ pattern.toList ++ ")$".toList) with
  | some p => p.isFoundIn text.toList
  | none => false

/-- Whether a pattern matches some part of a text. -/
def matchesPart (pattern text : String) : Bool :=
  match parse? (lineSwitch ++ "(".toList ++ pattern.toList ++ ")".toList) with
  | some p => p.isFoundIn text.toList
  | none => false

end Shipyard.Pattern
