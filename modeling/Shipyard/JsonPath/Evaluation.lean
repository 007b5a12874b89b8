import Shipyard.JsonPath.Query
import Shipyard.Pattern.Match

/-!
# Following JSON paths

`Query.nodes` lists the nodes that a query reaches, in the order of the document: items by index,
members in the order in which they stand, a node in front of its descendants.

Numbers are compared as binary64 numbers and texts by code point. No other value is less than
another, and a place that does not exist is equal only to another one. The relations but `<` and the
two of equality are between values of one type, and `>` and `>=` are what `<` is not.

A path, where its value counts, does not count items from the end of an array.
-/

namespace Shipyard

namespace Json

mutual

/-- A value and everything inside it, each value in front of what it contains. -/
def descendants : Json → List Json
  | .array items => .array items :: itemDescendants items
  | .object members => .object members :: memberDescendants members
  | value => [value]

/-- The items and everything inside them. -/
def itemDescendants : List Json → List Json
  | [] => []
  | item :: items => descendants item ++ itemDescendants items

/-- The values of members and everything inside them. -/
def memberDescendants : List (String × Json) → List Json
  | [] => []
  | (_, value) :: members => descendants value ++ memberDescendants members

end

/-- The items of an array, the values of an object's members. -/
def children : Json → List Json
  | .array items => items
  | .object members => members.map (·.2)
  | _ => []

mutual

/-- Whether two values agree when numbers of the same kind count by their value. -/
def agrees : Json → Json → Bool
  | .null, .null => true
  | .bool a, .bool b => a == b
  | .number (.integer a), .number (.integer b) => a == b
  | .number (.decimal a), .number (.decimal b) => a.equals b
  | .text a, .text b => a == b
  | .array as, .array bs => itemsAgree as bs
  | .object as, .object bs => membersAgree as bs
  | _, _ => false

/-- Whether two lists of items agree. -/
def itemsAgree : List Json → List Json → Bool
  | [], [] => true
  | a :: as, b :: bs => agrees a b && itemsAgree as bs
  | _, _ => false

/-- Whether two lists of members agree. -/
def membersAgree : List (String × Json) → List (String × Json) → Bool
  | [], [] => true
  | (k, a) :: as, (l, b) :: bs => k == l && agrees a b && membersAgree as bs
  | _, _ => false

end

/-- The number of characters, items or members of a value that has some. -/
def extent? : Json → Option Nat
  | .text s => some s.length
  | .array items => some items.length
  | .object members => some members.length
  | _ => none

end Json

namespace JsonPath

/-- Whether two places hold the same value; numbers are the same if their binary64 values are. -/
def isEqual : Option Json → Option Json → Bool
  | some (.number a), some (.number b) => a.toBinary64.equals b.toBinary64
  | some a, some b => a.agrees b
  | none, none => true
  | _, _ => false

/-- Whether a value stands before another. -/
def isLess : Option Json → Option Json → Bool
  | some (.number a), some (.number b) => a.toBinary64.less b.toBinary64
  | some (.text a), some (.text b) => a < b
  | _, _ => false

/-- Whether two values are of one type. -/
def isSameType : Option Json → Option Json → Bool
  | some .null, some .null => true
  | some (.bool _), some (.bool _) => true
  | some (.number _), some (.number _) => true
  | some (.text _), some (.text _) => true
  | some (.array _), some (.array _) => true
  | some (.object _), some (.object _) => true
  | _, _ => false

/-- Whether two values are in a relation. -/
def Relation.holds (relation : Relation) (a b : Option Json) : Bool :=
  match relation with
  | .equal => isEqual a b
  | .different => !isEqual a b
  | .less => isLess a b
  | .lessOrEqual => isSameType a b && (isLess a b || isEqual a b)
  | .greater => isSameType a b && !isLess a b && !isEqual a b
  | .greaterOrEqual => isSameType a b && !isLess a b

/-- The place of an index in a list of a given length. -/
def placeOf (index : Int) (length : Nat) : Int :=
  if index < 0 then length + index else index

/-- The value that a step leads to. -/
def Step.child? (step : Step) (node : Json) : Option Json :=
  match step, node with
  | .member name, node => node.member? name
  | .item index, .array items =>
    let place := placeOf index items.length
    if 0 ≤ place then items[place.toNat]? else none
  | .item _, _ => none

/-- Whether a step counts from the end of an array. -/
def Step.isFromEnd : Step → Bool
  | .member _ => false
  | .item index => index < 0

/-- The value that steps lead to; none of them counts from the end. -/
def followSteps : List Step → Json → Option Json
  | [], node => some node
  | step :: steps, node =>
    if step.isFromEnd then none else (step.child? node).bind (followSteps steps)

/-- The value at the end of a path. -/
def Path.value? (path : Path) (root current : Json) : Option Json :=
  followSteps path.steps (if path.fromRoot then root else current)

/-- A place moved into the bounds from `low` to `high`. -/
def clamp (low high place : Int) : Int :=
  min (max place low) high

/-- The places of a slice with a positive stride, ascending. -/
def ascendingPlaces (first last : Option Int) (stride length : Nat) : List Nat :=
  let bound (index : Int) : Nat := (clamp 0 length (placeOf index length)).toNat
  let low := bound (first.getD 0)
  let high := bound (last.getD length)
  ((List.range (high - low)).filter (· % stride == 0)).map (low + ·)

/-- The places of a slice with a negative stride, descending. `bound` counts one more than the
place, so that the place in front of the first one is zero. -/
def descendingPlaces (first last : Option Int) (stride length : Nat) : List Nat :=
  let bound (index : Int) : Nat := (clamp (-1) (length - 1) (placeOf index length) + 1).toNat
  let high := bound (first.getD (length - 1))
  let low := bound (last.getD (-length - 1))
  ((List.range (high - low)).filter (· % stride == 0)).map (high - 1 - ·)

/-- The places of a slice. -/
def slicePlaces (first last : Option Int) (stride : Int) (length : Nat) : List Nat :=
  if 0 < stride then ascendingPlaces first last stride.natAbs length
  else if stride < 0 then descendingPlaces first last stride.natAbs length
  else []

/-- Whether a pattern matches a text, the whole of it or a part. Other values match nothing. -/
def isMatch (whole : Bool) : Option Json → Option Json → Bool
  | some (.text subject), some (.text pattern) =>
    if whole then Pattern.matchesWhole pattern subject else Pattern.matchesPart pattern subject
  | _, _ => false

mutual

/-- The children of a node that a selector chooses. -/
def Selector.select (root : Json) : Selector → Json → List Json
  | .step step, node => (step.child? node).toList
  | .wildcard, node => node.children
  | .slice first last stride, .array items =>
    (slicePlaces first last stride items.length).filterMap (items[·]?)
  | .slice _ _ _, _ => []
  | .filter condition, node => node.children.filter fun child => condition.holds root child

/-- The children of a node that selectors choose, selector by selector. -/
def selectAll (root : Json) : List Selector → Json → List Json
  | [], _ => []
  | selector :: selectors, node => selector.select root node ++ selectAll root selectors node

/-- The nodes that a segment leads to from nodes. -/
def Segment.follow (root : Json) : Segment → List Json → List Json
  | .mk true selectors, nodes => (nodes.flatMap Json.descendants).flatMap (selectAll root selectors)
  | .mk false selectors, nodes => nodes.flatMap (selectAll root selectors)

/-- The nodes that segments lead to from nodes. -/
def followSegments (root : Json) : List Segment → List Json → List Json
  | [], nodes => nodes
  | segment :: segments, nodes => followSegments root segments (segment.follow root nodes)

/-- The nodes that a query reaches. -/
def Query.nodes (root : Json) : Query → Json → List Json
  | .mk true segments, _ => followSegments root segments [root]
  | .mk false segments, current => followSegments root segments [current]

/-- The nodes that a query stands for where their values count. -/
def Query.valued (root : Json) : Query → Json → List Json
  | query, current =>
    match query.path? with
    | some path => (path.value? root current).toList
    | none => query.nodes root current

/-- Whether a condition holds for a node. -/
def Condition.holds (root : Json) : Condition → Json → Bool
  | .any a b, current => a.holds root current || b.holds root current
  | .all a b, current => a.holds root current && b.holds root current
  | .negation a, current => !a.holds root current
  | .reaches query, current => !(query.nodes root current).isEmpty
  | .comparison relation left right, current =>
    relation.holds (left.value? root current) (right.value? root current)
  | .matching whole subject pattern, current =>
    isMatch whole (subject.value? root current) (pattern.value? root current)

/-- The value of an operand, if it has one. -/
def Operand.value? (root : Json) : Operand → Json → Option Json
  | .literal value, _ => some value
  | .place path, current => path.value? root current
  | .length operand, current =>
    ((operand.value? root current).bind Json.extent?).map Json.ofNat
  | .count query, current => some (.ofNat (query.valued root current).length)
  | .only query, current =>
    match query.valued root current with
    | [node] => some node
    | _ => none

end

/-- The first node that a query reaches in a document. -/
def Query.first? (query : Query) (document : Json) : Option Json :=
  (query.nodes document document).head?

end JsonPath

end Shipyard
