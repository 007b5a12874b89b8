import Shipyard.Unicode.Mark
import Shipyard.Unicode.Tables.Direction

/-!
# Texts in two directions

Where a name is written to the left in part, each label of it has to read the same in whatever
direction its neighbours are written: it begins with a letter, ends with a letter or a digit, and
keeps to the characters of its direction in between.
-/

namespace Shipyard.Unicode

/-- The direction of a character. -/
inductive Direction where
  | rightward
  | leftward
  | arabicLetter
  | arabicDigit
  | commonDigit
  /-- Signs of digits, signs without a direction, and what shows nothing. -/
  | neutral
  /-- Marks that go with the character in front of them. -/
  | mark
  deriving DecidableEq, Repr

/-- The sets of the characters that are not written to the right. -/
def directionSets : List (CodeSet × Direction) :=
  [(.ofText leftwardText, .leftward), (.ofText arabicLetterText, .arabicLetter),
   (.ofText arabicDigitText, .arabicDigit), (.ofText commonDigitText, .commonDigit),
   (.unions (([digitSignText, digitSeparatorText, digitUnitText, neutralText,
      invisibleText]).map .ofText), .neutral),
   (nonspacingMarks.diff (.ofText leftwardMarkText), .mark)]

/-- The direction of a code point. -/
def directionOf (code : Nat) : Direction :=
  match directionSets.find? fun row => row.1.has code with
  | some (_, direction) => direction
  | none => .rightward

/-- Whether a character makes a name one in two directions. -/
def Direction.isLeftward : Direction → Bool
  | .leftward | .arabicLetter | .arabicDigit => true
  | _ => false

/-- Whether a character may stand in a label that is written to the left. -/
def Direction.fitsLeftward : Direction → Bool
  | .rightward => false
  | _ => true

/-- Whether a character may stand in a label that is written to the right. -/
def Direction.fitsRightward : Direction → Bool
  | .leftward | .arabicLetter | .arabicDigit => false
  | _ => true

/-- The direction of the last character that is no mark. -/
def lastDirection? (directions : List Direction) : Option Direction :=
  (directions.reverse.dropWhile (· == .mark)).head?

/-- Whether a label reads the same in either direction of its neighbours. -/
def isDirectional (label : List Nat) : Bool :=
  let directions := label.map directionOf
  let last := lastDirection? directions
  match directions with
  | [] => true
  | .rightward :: _ =>
    directions.all Direction.fitsRightward &&
      (last == some .rightward || last == some .commonDigit)
  | .leftward :: _ | .arabicLetter :: _ =>
    directions.all Direction.fitsLeftward &&
      (last == some .leftward || last == some .arabicLetter || last == some .commonDigit ||
        last == some .arabicDigit) &&
      !(directions.contains .commonDigit && directions.contains .arabicDigit)
  | _ => false

/-- Whether all labels of a name may stand together: if one of them has characters that are written
to the left, each has to read the same in either direction. -/
def areDirectional (labels : List (List Nat)) : Bool :=
  !(labels.any fun label => label.any fun code => (directionOf code).isLeftward) ||
    labels.all isDirectional

end Shipyard.Unicode
