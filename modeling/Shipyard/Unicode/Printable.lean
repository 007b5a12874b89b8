import Shipyard.Unicode.CodeSet
import Shipyard.Unicode.Tables.Printable

/-!
# Characters that stand for themselves

In a quoted text most characters stand for themselves. The others are written by their code point:
controls, formats, unassigned and private code points, every space but U+0020, line and paragraph
separators, marks without a width of their own, and letters that show nothing.
-/

namespace Shipyard.Unicode

/-- The characters that show as a character of their own. -/
def printableSet : CodeSet :=
  .ofText printableText

/-- Whether a character shows as a character of its own. -/
def isPrintable (c : Char) : Bool :=
  if c.toNat < 0x80 then 0x20 ≤ c.toNat && c.toNat ≤ 0x7E else printableSet.hasChar c

end Shipyard.Unicode
