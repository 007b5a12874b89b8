import Shipyard.Unicode.CodeSet

/-!
# Blank characters

The white space of the Unicode property `White_Space`: 25 characters in ten ranges. `trim` cuts a
text down to what stands between its first and its last character that is not blank.
-/

namespace Shipyard.Text

/-- The white-space characters. -/
def blankSet : Unicode.CodeSet :=
  ⟨[(0x09, 0x0D), (0x20, 0x20), (0x85, 0x85), (0xA0, 0xA0), (0x1680, 0x1680), (0x2000, 0x200A),
    (0x2028, 0x2029), (0x202F, 0x202F), (0x205F, 0x205F), (0x3000, 0x3000)]⟩

/-- Whether a character is white space. -/
def isBlank (c : Char) : Bool :=
  blankSet.hasChar c

/-- The characters from the last one on that fails `p`, dropped from the end. -/
def dropEndWhile {α : Type} (p : α → Bool) (xs : List α) : List α :=
  (xs.reverse.dropWhile p).reverse

/-- The characters left when all that satisfy `p` are taken from both ends. -/
def stripWhile {α : Type} (p : α → Bool) (xs : List α) : List α :=
  dropEndWhile p (xs.dropWhile p)

/-- A list of characters without the blanks at its ends. -/
def trimChars (cs : List Char) : List Char :=
  stripWhile isBlank cs

/-- A text without the blanks at its ends. -/
def trim (s : String) : String :=
  String.ofList (trimChars s.toList)

/-- Whether a text has no character that is not blank. -/
def isBlankText (s : String) : Bool :=
  s.toList.all isBlank

/-- A text without the slashes at its end. -/
def trimEndSlashes (s : String) : String :=
  String.ofList (dropEndWhile (· == '/') s.toList)

/-- A text without the slashes at its start. -/
def trimStartSlashes (s : String) : String :=
  String.ofList (s.toList.dropWhile (· == '/'))

end Shipyard.Text
