import Shipyard.Unicode.Tables.Age

/-!
# The age of characters

A character is of the age of the first version of Unicode that it was in; a version has the
characters of all before it.
-/

namespace Shipyard.Unicode

/-- The code points that were assigned in a version. -/
def age? (name : String) : Option CodeSet :=
  let earlier := ageEntries.takeWhile fun e => !e.names.contains name
  (Entry.find? ageEntries name).map fun added => .unions (added :: earlier.map Entry.set)

end Shipyard.Unicode
