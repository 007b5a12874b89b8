import Shipyard.Unicode.Property

/-!
# Word characters

The characters a name may consist of: letters and other alphabetic characters, marks, decimal
digits, connector punctuation and the two joiners. Below U+0080 these are the letters, the digits
and the underscore.
-/

namespace Shipyard.Unicode

/-- The characters a name may consist of. -/
def wordSet : CodeSet :=
  .unions [alphabetic, categories ["mn", "mc", "me", "nd", "pc"], tabled "joinc"]

/-- The decimal digits of all scripts. -/
def digitSet : CodeSet :=
  categories ["nd"]

/-- Whether a character below U+0080 is a letter, a digit or the underscore. -/
def isAsciiWordChar (c : Char) : Bool :=
  c.isAlphanum || c == '_'

/-- Whether a character may stand in a name. -/
def isWordChar (c : Char) : Bool :=
  if c.toNat < 0x80 then isAsciiWordChar c else wordSet.hasChar c

end Shipyard.Unicode
