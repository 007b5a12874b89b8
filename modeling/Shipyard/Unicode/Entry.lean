import Shipyard.Unicode.CodeSet

/-!
# Named sets of code points

The rows of the tables of characters: a set in its written form, and the names that it goes by. The
names are loose ones, in small letters without separators.
-/

namespace Shipyard.Unicode

/-- A set of code points with its names. -/
structure Entry where
  names : List String
  codes : String
  deriving DecidableEq, Repr

namespace Entry

/-- The code points of an entry. -/
def set (e : Entry) : CodeSet :=
  .ofText e.codes

/-- The code points under a name. -/
def find? (entries : List Entry) (name : String) : Option CodeSet :=
  (entries.find? fun e => e.names.contains name).map set

/-- The code points under any of some names. -/
def setOf (entries : List Entry) (names : List String) : CodeSet :=
  .unions (names.filterMap (find? entries))

end Entry

end Shipyard.Unicode
