import Shipyard.Unicode.Age
import Shipyard.Unicode.Segmentation

/-!
# Sets of characters by name

Sets of characters are called by the name of a property, a category or a script, or by the name of
what is asked and the answer to it, `script` and `greek`. Names are compared loosely: case, spaces,
hyphens, low lines and a leading `is` are of no account.
-/

namespace Shipyard.Unicode

/-- A name without what is of no account. A `c` with `is` in front is left as it is, so that it is
not taken for the category. -/
def looseName (name : List Char) : String :=
  let kept (cs : List Char) : List Char :=
    (cs.filter fun c => c.toNat < 0x80 && c != ' ' && c != '_' && c != '-').map Char.toLower
  match name with
  | i :: s :: rest =>
    if i.toLower = 'i' ∧ s.toLower = 's' then
      if kept rest = ['c'] then "isc" else String.ofList (kept rest)
    else String.ofList (kept name)
  | name => String.ofList (kept name)

/-- The characters with a property, in a category or of a script. -/
def named? (name : List Char) : Option CodeSet :=
  let name := looseName name
  property? name <|> category? name <|> script? name

/-- The characters for which a question has an answer. -/
def answering? (question answer : List Char) : Option CodeSet :=
  let answer := looseName answer
  match looseName question with
  | "gc" | "generalcategory" => category? answer
  | "sc" | "script" => script? answer
  | "scx" | "scriptextensions" => extendedScript? answer
  | "age" => age? answer
  | "gcb" | "graphemeclusterbreak" => graphemeBreak? answer
  | "wb" | "wordbreak" => wordBreak? answer
  | "sb" | "sentencebreak" => sentenceBreak? answer
  | _ => none

end Shipyard.Unicode
