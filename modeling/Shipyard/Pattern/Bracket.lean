import Shipyard.Pattern.Escape

/-!
# Reading sets in brackets

A set in brackets lists characters, ranges of them and other sets, and takes sets together with
`&&`, `--` and `~~`. Brackets may stand inside each other, so the reader keeps what it has read of
the sets that it is still inside of.
-/

namespace Shipyard.Pattern

/-- The characters below U+0080 that a name in `[:` and `:]` stands for. -/
def asciiSet? (name : List Char) : Option Unicode.CodeSet :=
  match String.ofList name with
  | "alnum" => some (.ofText "30-39 41-5A 61-7A")
  | "alpha" => some (.ofText "41-5A 61-7A")
  | "ascii" => some (.ofText "0-7F")
  | "blank" => some (.ofText "9 20")
  | "cntrl" => some (.ofText "0-1F 7F")
  | "digit" => some (.ofText "30-39")
  | "graph" => some (.ofText "21-7E")
  | "lower" => some (.ofText "61-7A")
  | "print" => some (.ofText "20-7E")
  | "punct" => some (.ofText "21-2F 3A-40 5B-60 7B-7E")
  | "space" => some (.ofText "9-D 20")
  | "upper" => some (.ofText "41-5A")
  | "word" => some (.ofText "30-39 41-5A 5F 61-7A")
  | "xdigit" => some (.ofText "30-39 41-46 61-66")
  | _ => none

/-- A set in `[:` and `:]` behind its opening bracket. -/
def readAscii : List Char → Option (WrittenSet × List Char)
  | ':' :: cs =>
    let (negated, cs) :=
      match cs with
      | '^' :: cs => (true, cs)
      | cs => (false, cs)
    match asciiSet? (cs.takeWhile (· != ':')), cs.dropWhile (· != ':') with
    | some members, ':' :: ']' :: rest => some (.ascii negated members, rest)
    | _, _ => none
  | _ => none

/-- A member of a set: a set of its own, or a character. -/
def Written.asMember? : Written → Option WrittenSet
  | .literal l => some (.literal l)
  | .set members => some members
  | _ => none

/-- The bound of a range. -/
def Written.asBound? : Written → Option Literal
  | .literal l => some l
  | _ => none

/-- A character or an escape. -/
def readMember (spaced : Bool) : List Char → Option (Written × List Char)
  | [] => none
  | '\\' :: cs => readEscape spaced cs
  | c :: cs => some (.literal ⟨c, false⟩, cs)

/-- The first character behind white space, or behind white space and the sign of a comment. -/
def firstBehindSpace (signSeen : Bool) : List Char → Option Char
  | [] => none
  | c :: cs =>
    if Text.isBlank c then firstBehindSpace signSeen cs
    else if c = '#' ∧ signSeen = false then firstBehindSpace true cs
    else some c

/-- The character that decides whether a hyphen in front of it means a range. If nothing else stands
there it is the next one. -/
def peekBehindHyphen (spaced : Bool) (cs : List Char) : Option Char :=
  if spaced then firstBehindSpace false cs <|> cs.head? else cs.head?

/-- A character, a set or a range. -/
def readItem (spaced : Bool) (cs : List Char) : Option (WrittenSet × List Char) := do
  let (first, rest) ← readMember spaced cs
  match skipGap spaced rest with
  | '-' :: after =>
    let next := peekBehindHyphen spaced after
    if next = some ']' ∨ next = some '-' then
      return (← first.asMember?, '-' :: after)
    else
      let (last, rest) ← readMember spaced (skipGap spaced after)
      let first ← first.asBound?
      let last ← last.asBound?
      if first.char ≤ last.char then return (.range first last, rest) else none
  | rest => return (← first.asMember?, rest)

/-- What was read of a set. -/
structure SetSoFar where
  negated : Bool
  /-- The left side of an operation, if there is one. -/
  left : Option (SetOperation × WrittenSet)
  /-- The members read since, the last one first. -/
  items : List WrittenSet

namespace SetSoFar

/-- A set with one more member. -/
def add (s : SetSoFar) (item : WrittenSet) : SetSoFar :=
  { s with items := item :: s.items }

/-- What was read, without the brackets. -/
def content (s : SetSoFar) : WrittenSet :=
  match s.left with
  | none => inUnion s.items.reverse
  | some (operation, left) => .combined operation left (inUnion s.items.reverse)

/-- What was read as the left side of an operation. -/
def operate (s : SetSoFar) (operation : SetOperation) : SetSoFar :=
  ⟨s.negated, some (operation, s.content), []⟩

/-- What was read, in its brackets. -/
def closed (s : SetSoFar) : WrittenSet :=
  .bracketed s.negated s.content

end SetSoFar

/-- The start of a set behind its opening bracket: the sign of negation, and hyphens or a closing
bracket that stand for themselves. -/
def enterSet (spaced : Bool) (cs : List Char) : SetSoFar × List Char :=
  let (negated, cs) :=
    match skipGap spaced cs with
    | '^' :: cs => (true, skipGap spaced cs)
    | cs => (false, cs)
  match takeSpaced spaced (· == '-') false cs with
  | ([], ']' :: rest) => (⟨negated, none, [.literal ⟨']', false⟩]⟩, rest)
  | (hyphens, rest) => (⟨negated, none, hyphens.map fun c => .literal ⟨c, false⟩⟩, rest)

/-- The rest of a set, which is inside of other ones. Each round takes a character at least. -/
def readSetFrom (spaced : Bool) : Nat → SetSoFar → List SetSoFar → List Char →
    Option (WrittenSet × List Char)
  | 0, _, _, _ => none
  | fuel + 1, current, outer, cs =>
    match skipGap spaced cs with
    | [] => none
    | '[' :: rest =>
      match readAscii rest with
      | some (set, rest) => readSetFrom spaced fuel (current.add set) outer rest
      | none =>
        let (inner, rest) := enterSet spaced rest
        readSetFrom spaced fuel inner (current :: outer) rest
    | ']' :: rest =>
      match outer with
      | [] => some (current.closed, rest)
      | next :: outer => readSetFrom spaced fuel (next.add current.closed) outer rest
    | '&' :: '&' :: rest => readSetFrom spaced fuel (current.operate .intersection) outer rest
    | '-' :: '-' :: rest => readSetFrom spaced fuel (current.operate .difference) outer rest
    | '~' :: '~' :: rest =>
      readSetFrom spaced fuel (current.operate .symmetricDifference) outer rest
    | cs => do
      let (item, rest) ← readItem spaced cs
      readSetFrom spaced fuel (current.add item) outer rest

/-- A set behind its opening bracket. -/
def readSet (spaced : Bool) (cs : List Char) : Option (WrittenSet × List Char) :=
  let (first, rest) := enterSet spaced cs
  readSetFrom spaced (rest.length + 1) first [] rest

end Shipyard.Pattern
