/-!
# Lines

A text cut at its line feeds. A text that ends in a line feed has an empty last line.
-/

namespace Shipyard.Text

/-- The lines of a text, without the line feeds. -/
def lines : List Char → List (List Char)
  | [] => [[]]
  | c :: cs =>
    if c = '\n' then [] :: lines cs
    else
      match lines cs with
      | [] => [[c]]
      | line :: rest => (c :: line) :: rest

end Shipyard.Text
