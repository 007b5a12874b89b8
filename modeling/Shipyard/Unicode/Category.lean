import Shipyard.Unicode.Tables.Category

/-!
# General categories

The category of a character says what it is for: a letter, a mark, a digit, a sign. The names of
categories stand for one of them or for all of a kind.
-/

namespace Shipyard.Unicode

/-- The code points in any of some categories. -/
def categories (names : List String) : CodeSet :=
  Entry.setOf categoryEntries names

/-- The kinds of categories, each under its names and with its categories. -/
def categoryKinds : List (List String × List String) :=
  [(["l", "letter"], ["lu", "ll", "lt", "lm", "lo"]),
   (["lc", "casedletter"], ["lu", "ll", "lt"]),
   (["m", "mark", "combiningmark"], ["mn", "mc", "me"]),
   (["n", "number"], ["nd", "nl", "no"]),
   (["p", "punct", "punctuation"], ["pc", "pd", "ps", "pe", "pi", "pf", "po"]),
   (["s", "symbol"], ["sm", "sc", "sk", "so"]),
   (["z", "separator"], ["zs", "zl", "zp"])]

/-- The code points in some category. -/
def assigned : CodeSet :=
  .unions (categoryEntries.map Entry.set)

/-- The code points that a name of a category stands for. -/
def category? (name : String) : Option CodeSet :=
  match name with
  | "any" => some .everything
  | "ascii" => some ⟨[(0, 0x7F)]⟩
  | "assigned" => some assigned
  | "cn" | "unassigned" => some assigned.complement
  | "c" | "other" => some ((categories ["cc", "cf", "co"]).union assigned.complement)
  | name =>
    match categoryKinds.find? fun kind => kind.1.contains name with
    | some (_, names) => some (categories names)
    | none => Entry.find? categoryEntries name

end Shipyard.Unicode
