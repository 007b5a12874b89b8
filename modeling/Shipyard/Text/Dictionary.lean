/-!
# Entries kept in the order of their keys

A finite map from texts is a list of entries with ascending keys. `Dictionary.insert` keeps the
order and lets the last value written to a key win.
-/

namespace Shipyard

/-- Entries by key, the keys ascending by code point. -/
abbrev Dictionary (α : Type) : Type := List (String × α)

namespace Dictionary

variable {α : Type}

/-- Put `value` under `key`, in the place of what stood there. -/
def insert (key : String) (value : α) : Dictionary α → Dictionary α
  | [] => [(key, value)]
  | (k, v) :: entries =>
    if key < k then (key, value) :: (k, v) :: entries
    else if key = k then (key, value) :: entries
    else (k, v) :: insert key value entries

/-- What stands under a key. -/
def get? (entries : Dictionary α) (key : String) : Option α :=
  (entries.find? (·.1 == key)).map (·.2)

/-- Put entries in one after another; of two with the same key the later one stays. -/
def ofEntries (entries : List (String × α)) : Dictionary α :=
  entries.foldl (fun d e => insert e.1 e.2 d) []

/-- Whether the keys are strictly ascending. -/
def Ascending (entries : Dictionary α) : Prop :=
  entries.Pairwise (·.1 < ·.1)

end Dictionary

end Shipyard
