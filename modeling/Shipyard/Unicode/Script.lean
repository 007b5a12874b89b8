import Shipyard.Unicode.Tables.Script

/-!
# Scripts

Every character belongs to one script. Some are used with several, and are counted with all of them
where scripts are extended.
-/

namespace Shipyard.Unicode

/-- The characters of a script. -/
def script? (name : String) : Option CodeSet :=
  Entry.find? scriptEntries name

/-- The characters that are used with more than one script, or with another one than their own. -/
def shared : CodeSet :=
  .unions (sharedEntries.map Entry.set)

/-- The characters that are used with a script. -/
def extendedScript? (name : String) : Option CodeSet :=
  (scriptEntries.find? fun e => e.names.contains name).map fun e =>
    .unions (e.set.diff shared ::
      (sharedEntries.filter fun row => row.names.any e.names.contains).map Entry.set)

end Shipyard.Unicode
