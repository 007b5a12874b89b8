import Shipyard.Pattern.Written
import Shipyard.Text.Blank
import Shipyard.Unicode.Folding
import Shipyard.Unicode.Named

/-!
# The meaning of written patterns

Under switches a written pattern has a meaning, or none: a text is a sequence of characters, so what
could match a part of a character only is refused. A switch counts from where it is set to the end
of the group, also in the alternatives that follow.
-/

namespace Shipyard.Pattern

/-- How letters, dots, anchors and sets are meant. -/
structure Sense where
  caseless : Bool := false
  lines : Bool := false
  dotAll : Bool := false
  unicode : Bool := true
  returns : Bool := false
  deriving DecidableEq, Repr

namespace Sense

/-- A sense with a switch set. The other switches do not change what a pattern matches. -/
def set (s : Sense) (setting : Switch × Bool) : Sense :=
  match setting.1 with
  | .caseless => { s with caseless := setting.2 }
  | .lines => { s with lines := setting.2 }
  | .dotAll => { s with dotAll := setting.2 }
  | .unicode => { s with unicode := setting.2 }
  | .returns => { s with returns := setting.2 }
  | .short => s
  | .spaced => s

/-- A sense with switches set. -/
def setAll (s : Sense) (settings : Settings) : Sense :=
  settings.foldl set s

end Sense

/-- The last code point of the characters that are one byte. -/
def lastByteCode : Nat := 0x7F

/-- The characters of a set in either case of the letters below U+0080. -/
def asciiFolded (set : Unicode.CodeSet) : Unicode.CodeSet :=
  .ofRanges (set.ranges ++ set.ranges.flatMap fun r =>
    [(max r.1 0x41 + 0x20, min r.2 0x5A + 0x20), (max r.1 0x61 - 0x20, min r.2 0x7A - 0x20)])

/-- A set in either case, if case is of no account. -/
def Sense.fold (s : Sense) (set : Unicode.CodeSet) : Unicode.CodeSet :=
  if !s.caseless then set else if s.unicode then set.folded else asciiFolded set

/-- A set or what is outside of it, once case is taken into account. Outside of a set of bytes there
are bytes that are no characters. -/
def Sense.negate? (s : Sense) (negated : Bool) (set : Unicode.CodeSet) : Option Unicode.CodeSet :=
  if !negated then some (s.fold set)
  else if s.unicode then some (s.fold set).complement
  else none

/-- The code of a character in a set. Bytes take characters below U+0080 only. -/
def Sense.code? (s : Sense) (l : Literal) : Option Nat :=
  if s.unicode || l.char.toNat ≤ lastByteCode then some l.char.toNat else none

/-- The characters that a letter stands for. -/
def Shorthand.set (kind : Shorthand) : Unicode.CodeSet :=
  match kind with
  | .digit => Unicode.digitSet
  | .blank => Text.blankSet
  | .word => Unicode.wordSet

/-- The characters below U+0080 that a letter stands for. -/
def Shorthand.asciiSet (kind : Shorthand) : Unicode.CodeSet :=
  match kind with
  | .digit => .ofText "30-39"
  | .blank => .ofText "9-D 20"
  | .word => .ofText "30-39 41-5A 5F 61-7A"

/-- The result of an operation on two sets. -/
def SetOperation.apply (operation : SetOperation) (a b : Unicode.CodeSet) : Unicode.CodeSet :=
  match operation with
  | .intersection => a.inter b
  | .difference => a.diff b
  | .symmetricDifference => a.symmDiff b

mutual

/-- The characters of a written set. -/
def WrittenSet.codes? (s : Sense) : WrittenSet → Option Unicode.CodeSet
  | .literal l => (s.code? l).map .single
  | .range first last => do
    let first ← s.code? first
    let last ← s.code? last
    return ⟨[(first, last)]⟩
  | .ascii negated set => s.negate? negated set
  | .shorthand negated kind =>
    if s.unicode then some (if negated then kind.set.complement else kind.set)
    else if negated then none
    else some kind.asciiSet
  | .property negated name =>
    if s.unicode then (Unicode.named? name).bind (s.negate? negated) else none
  | .answer negated question answer =>
    if s.unicode then (Unicode.answering? question answer).bind (s.negate? negated) else none
  | .bracketed negated set => (set.codes? s).bind (s.negate? negated)
  | .union items => (allCodes? s items).map .unions
  | .combined operation a b => do
    let a ← a.codes? s
    let b ← b.codes? s
    return operation.apply (s.fold a) (s.fold b)

/-- The characters of each of some written sets. -/
def allCodes? (s : Sense) : List WrittenSet → Option (List Unicode.CodeSet)
  | [] => some []
  | item :: items => do
    let set ← item.codes? s
    let sets ← allCodes? s items
    return set :: sets

end

/-- The characters that a dot stands for: all, or all that do not end a line. -/
def Sense.dot? (s : Sense) : Option Unicode.CodeSet :=
  if !s.unicode then none
  else if s.dotAll then some .everything
  else if s.returns then some (Unicode.CodeSet.ofText "A D").complement
  else some (Unicode.CodeSet.ofText "A").complement

/-- The characters that a character in a pattern stands for. A byte is a character below U+0080
only, and a letter from there on has no other case if characters are bytes. -/
def Sense.char? (s : Sense) (l : Literal) : Option Unicode.CodeSet :=
  let code := l.char.toNat
  if s.unicode || code ≤ lastByteCode then some (s.fold (.single code))
  else if l.isByte then none
  else some (.single code)

/-- What an assertion means. -/
def Sense.assertion (s : Sense) (a : WrittenAssertion) : Assertion :=
  match a with
  | .lineStart => if !s.lines then .textStart else if s.returns then .anyLineStart else .lineStart
  | .lineEnd => if !s.lines then .textEnd else if s.returns then .anyLineEnd else .lineEnd
  | .textStart => .textStart
  | .textEnd => .textEnd
  | .word side => .word (!s.unicode) side

mutual

/-- The meaning of a written pattern, and the sense in which what follows is meant. -/
def Written.meaning? : Written → Sense → Option (Pattern × Sense)
  | .settings settings, s => some (.empty, s.setAll settings)
  | .literal l, s => (s.char? l).map fun set => (.chars set, s)
  | .dot, s => s.dot?.map fun set => (.chars set, s)
  | .set set, s => (set.codes? s).map fun set => (.chars set, s)
  | .assertion a, s => some (.assertion (s.assertion a), s)
  | .repetition least most a, s => do
    let (a, s) ← a.meaning? s
    return (.repetition least most a, s)
  | .group keeps settings a, s => do
    let (a, _) ← a.meaning? (s.setAll settings)
    return (if keeps then .remembered a else a, s)
  | .sequence items, s => sequenceMeaning? items s
  | .alternation branches, s => branchesMeaning? branches s

/-- The meaning of parts one behind another. -/
def sequenceMeaning? : List Written → Sense → Option (Pattern × Sense)
  | [], s => some (.empty, s)
  | [item], s => item.meaning? s
  | item :: items, s => do
    let (a, s) ← item.meaning? s
    let (b, s) ← sequenceMeaning? items s
    return (.sequence a b, s)

/-- The meaning of alternatives. -/
def branchesMeaning? : List Written → Sense → Option (Pattern × Sense)
  | [], s => some (.empty, s)
  | [branch], s => branch.meaning? s
  | branch :: branches, s => do
    let (a, s) ← branch.meaning? s
    let (b, s) ← branchesMeaning? branches s
    return (.alternative a b, s)

end

end Shipyard.Pattern
