import Shipyard.Pattern.Basic

/-!
# Written patterns

Patterns as they are written, before any switch has given a letter, a dot or a class its meaning.
-/

namespace Shipyard.Pattern

/-- A way to read a pattern that may be switched on or off in the middle of it. -/
inductive Switch where
  /-- Letters stand for themselves in either case. -/
  | caseless
  /-- The anchors stand for the bounds of lines. -/
  | lines
  /-- The dot stands for the ends of lines, too. -/
  | dotAll
  /-- Repetitions prefer to be short. -/
  | short
  /-- Characters are those of all scripts. -/
  | unicode
  /-- Lines end in carriage returns, too. -/
  | returns
  /-- White space and comments are of no account. -/
  | spaced
  deriving DecidableEq, Repr

/-- Switches with the state they are set to. -/
abbrev Settings := List (Switch × Bool)

/-- One character. -/
structure Literal where
  char : Char
  /-- Whether it is written as a byte, in two hexadecimal digits. -/
  isByte : Bool
  deriving DecidableEq, Repr

/-- The sets that one letter stands for. -/
inductive Shorthand where
  | digit
  | blank
  | word
  deriving DecidableEq, Repr

/-- An operation on two sets. -/
inductive SetOperation where
  | intersection
  | difference
  | symmetricDifference
  deriving DecidableEq, Repr

/-- A set of characters. -/
inductive WrittenSet where
  | literal (l : Literal)
  | range (first last : Literal)
  /-- A set of characters below U+0080. -/
  | ascii (negated : Bool) (set : Unicode.CodeSet)
  | shorthand (negated : Bool) (kind : Shorthand)
  /-- The characters with a property. -/
  | property (negated : Bool) (name : List Char)
  /-- The characters for which a question has an answer. -/
  | answer (negated : Bool) (question answer : List Char)
  /-- A set in brackets of its own. -/
  | bracketed (negated : Bool) (set : WrittenSet)
  | union (items : List WrittenSet)
  | combined (operation : SetOperation) (a b : WrittenSet)

/-- What a written pattern asserts about a place. -/
inductive WrittenAssertion where
  | lineStart
  | lineEnd
  | textStart
  | textEnd
  | word (side : WordSide)
  deriving DecidableEq, Repr

/-- A pattern as it is written. -/
inductive Written where
  | settings (settings : Settings)
  | literal (l : Literal)
  | dot
  | set (set : WrittenSet)
  | assertion (a : WrittenAssertion)
  | repetition (least : Nat) (most : Option Nat) (a : Written)
  /-- A group, whose bounds may be remembered. -/
  | group (keeps : Bool) (settings : Settings) (a : Written)
  | alternation (branches : List Written)
  | sequence (items : List Written)

mutual

/-- The number of brackets, unions and operations that are inside each other. -/
def WrittenSet.depth : WrittenSet → Nat
  | .bracketed _ set => set.depth + 1
  | .union [] => 0
  | .union items => setDepth items + 1
  | .combined _ a b => max a.depth b.depth + 1
  | _ => 0

/-- The greatest depth of some sets. -/
def setDepth : List WrittenSet → Nat
  | [] => 0
  | item :: items => max item.depth (setDepth items)

end

mutual

/-- The number of parts of a pattern that are inside each other. -/
def Written.depth : Written → Nat
  | .set set => set.depth
  | .repetition _ _ a => a.depth + 1
  | .group _ _ a => a.depth + 1
  | .alternation branches => listDepth branches + 1
  | .sequence [] => 0
  | .sequence items => listDepth items + 1
  | _ => 0

/-- The greatest depth of some parts. -/
def listDepth : List Written → Nat
  | [] => 0
  | item :: items => max item.depth (listDepth items)

end

/-- The greatest depth of a pattern. -/
def depthLimit : Nat := 250

/-- Parts one behind another; a single one stands for itself. -/
def inSequence : List Written → Written
  | [item] => item
  | items => .sequence items

/-- Alternatives; a single one stands for itself. -/
def inAlternation : List Written → Written
  | [branch] => branch
  | branches => .alternation branches

/-- Sets put together; a single one stands for itself. -/
def inUnion : List WrittenSet → WrittenSet
  | [item] => item
  | items => .union items

end Shipyard.Pattern
