import Shipyard.Unicode.Word

/-!
# Patterns

What a pattern means: sets of characters, sequences, alternatives, repetitions and assertions about
the place in the text. `Pattern.ends` takes a set of places to all places that a match from one of
them can end at, so whether there is a match does not depend on any preference between alternatives,
and a place is looked at once for each part of a pattern, however it was reached.
-/

namespace Shipyard

/-- What may be asserted about the word characters on both sides of a place. -/
inductive WordSide where
  | edge
  | noEdge
  | start
  | finish
  /-- No word character in front, whatever stands behind. -/
  | noneBefore
  /-- No word character behind, whatever stands in front. -/
  | noneAfter
  deriving DecidableEq, Repr

/-- What may be asserted about a place in a text. -/
inductive Assertion where
  | textStart
  | textEnd
  /-- The start of a line, where lines end in a line feed. -/
  | lineStart
  | lineEnd
  /-- The start of a line, where lines end in a line feed, a carriage return or both. -/
  | anyLineStart
  | anyLineEnd
  /-- Word characters are those of all scripts, or those below U+0080 only. -/
  | word (ascii : Bool) (side : WordSide)
  deriving DecidableEq, Repr

/-- A pattern. -/
inductive Pattern where
  | empty
  | chars (set : Unicode.CodeSet)
  | sequence (a b : Pattern)
  | alternative (a b : Pattern)
  /-- At least `least` and at most `most` times. -/
  | repetition (least : Nat) (most : Option Nat) (a : Pattern)
  /-- A part whose bounds are remembered. It matches what the part matches. -/
  | remembered (a : Pattern)
  | assertion (a : Assertion)
  deriving DecidableEq, Repr

/-- A place in a text: the number of characters in front of it, the last of them, and the characters
behind it. -/
structure Place where
  index : Nat
  before : Option Char
  rest : List Char
  deriving DecidableEq, Repr

namespace Place

/-- The place behind the next character, if that is in a set. -/
def step? (p : Place) (set : Unicode.CodeSet) : Option Place :=
  match p.rest with
  | [] => none
  | c :: rest => if set.hasChar c then some ⟨p.index + 1, some c, rest⟩ else none

/-- The place `before` and `rest` stand for, and all places behind it. -/
def allFrom (index : Nat) (before : Option Char) : List Char → List Place
  | [] => [⟨index, before, []⟩]
  | c :: rest => ⟨index, before, c :: rest⟩ :: allFrom (index + 1) (some c) rest

/-- All places of a text, in ascending order. -/
def all (text : List Char) : List Place :=
  allFrom 0 none text

end Place

/-- The places of two ascending lists in one, each once. -/
def mergePlaces : List Place → List Place → List Place
  | [], qs => qs
  | p :: ps, [] => p :: ps
  | p :: ps, q :: qs =>
    if p.index < q.index then p :: mergePlaces ps (q :: qs)
    else if q.index < p.index then q :: mergePlaces (p :: ps) qs
    else p :: mergePlaces ps qs

/-- The places of an ascending list that are not in another one. -/
def newPlaces : List Place → List Place → List Place
  | [], _ => []
  | p :: ps, [] => p :: ps
  | p :: ps, q :: qs =>
    if p.index < q.index then p :: newPlaces ps (q :: qs)
    else if q.index < p.index then newPlaces (p :: ps) qs
    else newPlaces ps qs

/-- The places after exactly `n` steps. No step leads out of no place. -/
def afterSteps (step : List Place → List Place) : Nat → List Place → List Place
  | 0, ps => ps
  | _ + 1, [] => []
  | n + 1, ps => afterSteps step n (step ps)

/-- The places that were reached and those within `n` steps from the ones that were reached last. -/
def withinSteps (step : List Place → List Place) : Nat → List Place → List Place → List Place
  | 0, reached, _ => reached
  | _ + 1, reached, [] => reached
  | n + 1, reached, last =>
    let next := newPlaces (step last) reached
    withinSteps step n (mergePlaces reached next) next

/-- Whether a character in front of a place or behind it is a word character. -/
def isWordAt (ascii : Bool) (c : Option Char) : Bool :=
  c.any fun c =>
    if ascii then c.toNat < 0x80 && Unicode.isAsciiWordChar c else Unicode.isWordChar c

/-- Whether word characters stand on the sides of a place as they should. -/
def WordSide.holds (side : WordSide) (before after : Bool) : Bool :=
  match side with
  | .edge => before != after
  | .noEdge => before == after
  | .start => !before && after
  | .finish => before && !after
  | .noneBefore => !before
  | .noneAfter => !after

/-- Whether an assertion holds at a place. -/
def Assertion.holds (a : Assertion) (p : Place) : Bool :=
  match a with
  | .textStart => p.before.isNone
  | .textEnd => p.rest.isEmpty
  | .lineStart => p.before.isNone || p.before == some '\n'
  | .lineEnd => p.rest.isEmpty || p.rest.head? == some '\n'
  | .anyLineStart =>
    p.before.isNone || p.before == some '\n' ||
      (p.before == some '\r' && p.rest.head? != some '\n')
  | .anyLineEnd =>
    p.rest.isEmpty || p.rest.head? == some '\r' ||
      (p.rest.head? == some '\n' && p.before != some '\r')
  | .word ascii side => side.holds (isWordAt ascii p.before) (isWordAt ascii p.rest.head?)

namespace Pattern

/-- The places that matches from some places can end at; both lists are ascending. In a text of
`length` characters a repetition comes to no new place after `length + 1` rounds. -/
def ends (length : Nat) : Pattern → List Place → List Place
  | .empty, ps => ps
  | .chars set, ps => ps.filterMap (·.step? set)
  | .sequence a b, ps => b.ends length (a.ends length ps)
  | .alternative a b, ps => mergePlaces (a.ends length ps) (b.ends length ps)
  | .repetition least most a, ps =>
    let rounds := length + 1
    let first := afterSteps (a.ends length) (min least rounds) ps
    withinSteps (a.ends length) (min (most.getD (least + rounds) - least) rounds) first first
  | .remembered a, ps => a.ends length ps
  | .assertion a, ps => ps.filter a.holds

/-- Whether there is a match somewhere in a text. -/
def isFoundIn (a : Pattern) (text : List Char) : Bool :=
  !(a.ends text.length (Place.all text)).isEmpty

end Pattern

end Shipyard
