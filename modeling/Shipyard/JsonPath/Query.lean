import Shipyard.Json.Basic

/-!
# JSON paths

A query names places in a document. Its segments are followed one after another from the root, or
in a condition from the node that is looked at; each takes every node that was reached to some of
its children, or to some of its descendants. A `Path` leads to at most one place, and only such a
place has a value that a condition can compare.
-/

namespace Shipyard.JsonPath

/-- A step to one place. -/
inductive Step where
  | member (name : String)
  /-- An item of an array, counted from the end if the index is negative. -/
  | item (index : Int)
  deriving DecidableEq, Repr

/-- A path to at most one place, from the root or from the node that is looked at. -/
structure Path where
  fromRoot : Bool
  steps : List Step
  deriving DecidableEq, Repr

/-- A comparison of two values. -/
inductive Relation where
  | equal
  | different
  | less
  | lessOrEqual
  | greater
  | greaterOrEqual
  deriving DecidableEq, Repr

mutual

/-- A choice among the children of a node. -/
inductive Selector where
  | step (step : Step)
  | wildcard
  /-- Every `stride`-th item from `first` up to `last`, which is left out. -/
  | slice (first last : Option Int) (stride : Int)
  | filter (condition : Condition)

/-- A part of a query: children of the nodes reached so far or, if it descends, of their descendants
too. -/
inductive Segment where
  | mk (descends : Bool) (selectors : List Selector)

/-- A query, from the root or from the node that is looked at. -/
inductive Query where
  | mk (fromRoot : Bool) (segments : List Segment)

/-- A condition on a node. -/
inductive Condition where
  | any (a b : Condition)
  | all (a b : Condition)
  | negation (a : Condition)
  /-- The query reaches some node. -/
  | reaches (query : Query)
  | comparison (relation : Relation) (left right : Operand)
  /-- A pattern matches a text, the whole of it or a part. -/
  | matching (whole : Bool) (subject pattern : Operand)

/-- Something that has a value, or none. -/
inductive Operand where
  | literal (value : Json)
  | place (path : Path)
  /-- The number of characters, items or members. -/
  | length (operand : Operand)
  /-- The number of nodes that a query reaches. -/
  | count (query : Query)
  /-- The value of the only node that a query reaches. -/
  | only (query : Query)

end

/-- The step that a selector is, if it chooses one place at most. -/
def Selector.step? : Selector → Option Step
  | .step s => some s
  | _ => none

/-- The step that a segment is, if it leads to one place at most. -/
def Segment.step? : Segment → Option Step
  | .mk false [selector] => selector.step?
  | _ => none

/-- The path that a query is, if it leads to one place at most. -/
def Query.path? : Query → Option Path
  | .mk fromRoot segments => (segments.mapM Segment.step?).map (Path.mk fromRoot)

end Shipyard.JsonPath
