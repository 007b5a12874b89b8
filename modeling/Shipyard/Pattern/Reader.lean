import Shipyard.Pattern.Bracket

/-!
# Reading patterns

The written form of patterns: alternatives between bars, repetitions `*`, `+`, `?` and counted ones
in braces, groups, switches, sets in brackets, escapes and the anchors. `Written.parse?` reads a
whole text. It keeps what it has read of the groups that it is still inside of; a text that ends
inside of a group, or closes one that is not open, is no pattern.
-/

namespace Shipyard.Pattern

/-- The switch of a letter. -/
def switch? (c : Char) : Option Switch :=
  match c with
  | 'i' => some .caseless
  | 'm' => some .lines
  | 's' => some .dotAll
  | 'U' => some .short
  | 'u' => some .unicode
  | 'R' => some .returns
  | 'x' => some .spaced
  | _ => none

/-- Switches up to a colon or a closing parenthesis, which is given with what stands behind it. A
minus sign turns the switches behind it off; `negated` says whether one was read, `dangling` whether
it was read last. -/
def readSwitches (negated dangling : Bool) : List Char → Option (Settings × Char × List Char)
  | [] => none
  | c :: cs =>
    if c = ':' ∨ c = ')' then
      if dangling then none else some ([], c, cs)
    else if c = '-' then
      if negated then none else readSwitches true true cs
    else do
      let switch ← switch? c
      let (settings, sign, rest) ← readSwitches negated false cs
      if settings.any fun setting => setting.1 = switch then none
      else return ((switch, !negated) :: settings, sign, rest)

/-- Whether a character may stand in the name of a group, or at its start. -/
def isGroupNameChar (first : Bool) (c : Char) : Bool :=
  c == '_' || Unicode.alphabetic.hasChar c ||
    (!first && (c == '.' || c == '[' || c == ']' ||
      (Unicode.categories ["nd", "nl", "no"]).hasChar c))

/-- The name of a group up to the closing angle. -/
def readGroupName (cs : List Char) : Option (List Char × List Char) :=
  match cs.takeWhile (· != '>'), cs.dropWhile (· != '>') with
  | first :: others, _ :: rest =>
    if isGroupNameChar true first && others.all (isGroupNameChar false) then
      some (first :: others, rest)
    else none
  | _, _ => none

/-- What an opening parenthesis begins. -/
inductive Opening where
  /-- Switches for the rest of the group that is read. -/
  | switches (settings : Settings)
  | group (keeps : Bool) (settings : Settings) (name : Option (List Char))

/-- What an opening parenthesis begins, behind the parenthesis. Nothing may be asserted about what
stands in front of a place or behind it, but by a sign of its own. -/
def readOpening (spaced : Bool) (cs : List Char) : Option (Opening × List Char) :=
  match skipGap spaced cs with
  | '?' :: '=' :: _ => none
  | '?' :: '!' :: _ => none
  | '?' :: '<' :: '=' :: _ => none
  | '?' :: '<' :: '!' :: _ => none
  | '?' :: 'P' :: '<' :: cs =>
    (readGroupName cs).map fun read => (.group true [] (some read.1), read.2)
  | '?' :: '<' :: cs => (readGroupName cs).map fun read => (.group true [] (some read.1), read.2)
  | '?' :: cs =>
    match readSwitches false false cs with
    | some ([], ')', _) => none
    | some (settings, ')', rest) => some (.switches settings, rest)
    | some (settings, _, rest) => some (.group false settings none, rest)
    | none => none
  | cs => some (.group true [] none, cs)

/-- The greatest count of a repetition. -/
def countLimit : Nat := 4294967295

/-- A count, which may have white space around it. -/
def readCount (spaced : Bool) (cs : List Char) : Option (Nat × List Char) :=
  let (digits, rest) := takeSpaced spaced Char.isDigit false (cs.dropWhile Text.isBlank)
  let count := Text.decimalValue digits
  if digits.isEmpty || countLimit < count then none
  else some (count, if spaced then rest else rest.dropWhile Text.isBlank)

/-- The counts of a repetition behind the opening brace. -/
def readCounts (spaced : Bool) (cs : List Char) : Option ((Nat × Option Nat) × List Char) := do
  let (least, rest) ← readCount spaced (skipGap spaced cs)
  match rest with
  | '\x7d' :: rest => return ((least, some least), rest)
  | ',' :: rest =>
    match skipGap spaced rest with
    | '\x7d' :: rest => return ((least, none), rest)
    | cs =>
      match ← readCount spaced cs with
      | (most, '\x7d' :: rest) => if least ≤ most then return ((least, some most), rest) else none
      | _ => none
  | _ => none

/-- What stands behind a question mark that makes a repetition prefer to be short. -/
def skipPreference : List Char → List Char
  | '?' :: cs => cs
  | cs => cs

/-- A group that is being read, without its alternatives so far. -/
structure OpenGroup where
  keeps : Bool
  settings : Settings
  /-- What stands in front of the group in its sequence, the last part first. -/
  items : List Written
  /-- The alternatives in front of that sequence, the last one first. -/
  branches : List Written
  /-- Whether the pattern is spaced outside of the group. -/
  spaced : Bool

/-- What was read of a pattern. -/
structure Progress where
  /-- The parts of the sequence that is read, the last one first. -/
  items : List Written
  /-- The alternatives in front of it, the last one first. -/
  branches : List Written
  /-- The groups that it is inside of, from the inside out. -/
  outer : List OpenGroup
  spaced : Bool
  /-- The names of the groups so far. -/
  names : List (List Char)

namespace Progress

/-- The start of a pattern. -/
def start : Progress := ⟨[], [], [], false, []⟩

/-- What was read with one more part. -/
def add (p : Progress) (item : Written) : Progress :=
  { p with items := item :: p.items }

/-- The alternatives of the group that is read. -/
def content (p : Progress) : Written :=
  inAlternation (inSequence p.items.reverse :: p.branches).reverse

/-- What was read with the last part repeated. Switches cannot be repeated. -/
def repeatLast (p : Progress) (least : Nat) (most : Option Nat) : Option Progress :=
  match p.items with
  | [] => none
  | .settings _ :: _ => none
  | item :: items => some { p with items := .repetition least most item :: items }

/-- What was read at the start of a group. A name stands for one group only. -/
def enter (p : Progress) : Opening → Option Progress
  | .switches settings =>
    some { p with
      items := .settings settings :: p.items
      spaced := (settings.lookup .spaced).getD p.spaced }
  | .group keeps settings name =>
    if name.any p.names.contains then none
    else some
      { items := []
        branches := []
        outer := ⟨keeps, settings, p.items, p.branches, p.spaced⟩ :: p.outer
        spaced := (settings.lookup .spaced).getD p.spaced
        names := name.toList ++ p.names }

/-- What was read at the end of a group. -/
def leave (p : Progress) : Option Progress :=
  match p.outer with
  | [] => none
  | group :: outer =>
    some { p with
      items := .group group.keeps group.settings p.content :: group.items
      branches := group.branches
      outer := outer
      spaced := group.spaced }

/-- What was read at a bar between alternatives. -/
def alternate (p : Progress) : Progress :=
  { p with items := [], branches := inSequence p.items.reverse :: p.branches }

/-- The pattern, if all groups are closed. -/
def finish? (p : Progress) : Option Written :=
  if p.outer.isEmpty then some p.content else none

/-- One more part of a pattern, from its first character on. -/
def step (p : Progress) : List Char → Option (Progress × List Char)
  | [] => none
  | '(' :: cs => do
    let (opening, rest) ← readOpening p.spaced cs
    return (← p.enter opening, rest)
  | ')' :: cs => p.leave.map fun p => (p, cs)
  | '|' :: cs => some (p.alternate, cs)
  | '[' :: cs => (readSet p.spaced cs).map fun read => (p.add (.set read.1), read.2)
  | '?' :: cs => (p.repeatLast 0 (some 1)).map fun p => (p, skipPreference cs)
  | '*' :: cs => (p.repeatLast 0 none).map fun p => (p, skipPreference cs)
  | '+' :: cs => (p.repeatLast 1 none).map fun p => (p, skipPreference cs)
  | '\x7b' :: cs => do
    let ((least, most), rest) ← readCounts p.spaced cs
    return (← p.repeatLast least most, skipPreference (skipGap p.spaced rest))
  | '\\' :: cs => (readEscape p.spaced cs).map fun read => (p.add read.1, read.2)
  | '.' :: cs => some (p.add .dot, cs)
  | '^' :: cs => some (p.add (.assertion .lineStart), cs)
  | '$' :: cs => some (p.add (.assertion .lineEnd), cs)
  | c :: cs => some (p.add (.literal ⟨c, false⟩), cs)

/-- The rest of a pattern. Each round takes a character at least. -/
def run : Nat → Progress → List Char → Option Written
  | 0, _, _ => none
  | fuel + 1, p, cs =>
    match skipGap p.spaced cs with
    | [] => p.finish?
    | cs => (p.step cs).bind fun (p, rest) => run fuel p rest

end Progress

/-- The pattern that a text is. Its parts may not be too deep inside each other. -/
def Written.parse? (text : List Char) : Option Written := do
  let written ← Progress.start.run (text.length + 1) text
  if written.depth ≤ depthLimit then return written else none

end Shipyard.Pattern
