import Shipyard.Unicode.CodeSet
import Shipyard.Unicode.Tables.Mark

/-!
# Marks

Marks belong to the character in front of them. Those without a width of their own stand above,
below or within it.
-/

namespace Shipyard.Unicode

/-- The marks without a width of their own. -/
def nonspacingMarks : CodeSet :=
  .ofText nonspacingMarkText

/-- All marks. -/
def marks : CodeSet :=
  nonspacingMarks.union (.ofText spacingMarkText)

end Shipyard.Unicode
