import Shipyard.Unicode.CodeRun
import Shipyard.Unicode.Tables.Folding

/-!
# Letters in other cases

`CodeSet.folded` adds to a set the characters that differ from one of its members in case only.
-/

namespace Shipyard.Unicode

/-- The characters that have counterparts in other cases. -/
def foldingRuns : List CodeRun :=
  CodeRun.ofText foldingText

/-- The members of a set and the characters that differ from one of them in case only. -/
def CodeSet.folded (s : CodeSet) : CodeSet :=
  .ofRanges (s.ranges ++ s.ranges.flatMap fun r => foldingRuns.flatMap (·.counterparts r))

end Shipyard.Unicode
