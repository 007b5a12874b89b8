/-!
# Lower case

Searching a text for an ASCII phrase without regard to case. Besides the capital letters A to Z only
two characters have a lower-case form with an ASCII letter in it, the Kelvin sign and the dotted
capital I, so `lowerChar` leaves every other character as it is.
-/

namespace Shipyard.Text

/-- The lower-case form of a character, as far as it has ASCII letters in it. -/
def lowerChar (c : Char) : List Char :=
  if c = '\u212A' then ['k']
  else if c = '\u0130' then ['i', '\u0307']
  else [c.toLower]

/-- The lower-case form of a text, as far as it has ASCII letters in it. -/
def lowerChars (s : String) : List Char :=
  s.toList.flatMap lowerChar

/-- Whether `phrase` stands somewhere in the characters. -/
def hasPhrase (phrase : List Char) : List Char → Bool
  | [] => phrase.isEmpty
  | c :: cs => phrase.isPrefixOf (c :: cs) || hasPhrase phrase cs

/-- Whether an ASCII phrase in lower case stands in the text, in any case. -/
def mentions (text phrase : String) : Bool :=
  hasPhrase phrase.toList (lowerChars text)

end Shipyard.Text
