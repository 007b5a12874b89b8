import Shipyard.Unicode.CodeRun
import Shipyard.Unicode.Tables.Composition

/-!
# Composed characters

Many characters can be written as one code point or as several: a letter with its mark, a Hangul
syllable by its sounds. `composed` brings a text to the form in which characters are composed as far
as possible: it takes all of them apart, puts marks into the order of their classes, and composes
them again.
-/

namespace Shipyard.Unicode

/-- A character that is composed of two. -/
structure Composition where
  first : Nat
  second : Nat
  whole : Nat
  deriving DecidableEq, Repr

/-- The compositions with a second character. -/
def compositionsWith (second : Nat) (text : String) : List Composition :=
  (CodeRun.ofText text).map fun run => ⟨run.first, second, run.other⟩

/-- The compositions but those of Hangul syllables. -/
def compositions : List Composition :=
  compositionEntries.flatMap fun (second, text) => compositionsWith second text

/-- The first Hangul syllable. -/
def syllableBase : Nat := 0xAC00

/-- The first of the sounds that begin a syllable. -/
def leadBase : Nat := 0x1100

/-- The number of sounds that begin a syllable. -/
def leadCount : Nat := 19

/-- The first of the vowels. -/
def vowelBase : Nat := 0x1161

/-- The number of vowels. -/
def vowelCount : Nat := 21

/-- The code point in front of the sounds that end a syllable. -/
def tailBase : Nat := 0x11A7

/-- The number of ends of a syllable, one of which is no sound. -/
def tailCount : Nat := 28

/-- The sounds of a Hangul syllable. -/
def syllableSounds? (code : Nat) : Option (List Nat) :=
  let index := code - syllableBase
  if code < syllableBase ∨ leadCount * vowelCount * tailCount ≤ index then none
  else
    let lead := leadBase + index / (vowelCount * tailCount)
    let vowel := vowelBase + index % (vowelCount * tailCount) / tailCount
    let tail := index % tailCount
    some (if tail = 0 then [lead, vowel] else [lead, vowel, tailBase + tail])

/-- The Hangul syllable of two characters: a lead and a vowel, or a syllable without a tail and a
tail. -/
def syllable? (first second : Nat) : Option Nat :=
  if leadBase ≤ first ∧ first < leadBase + leadCount ∧
      vowelBase ≤ second ∧ second < vowelBase + vowelCount then
    some (syllableBase + ((first - leadBase) * vowelCount + (second - vowelBase)) * tailCount)
  else if syllableBase ≤ first ∧ first < syllableBase + leadCount * vowelCount * tailCount ∧
      (first - syllableBase) % tailCount = 0 ∧
      tailBase < second ∧ second < tailBase + tailCount then
    some (first + (second - tailBase))
  else none

/-- The character that two compose. -/
def composePair? (first second : Nat) : Option Nat :=
  syllable? first second <|>
    (compositions.find? fun c => c.second == second && c.first == first).map (·.whole)

/-- The characters that a character is composed of. No character is composed in more than `fuel`
steps. -/
def decompose : Nat → Nat → List Nat
  | 0, code => [code]
  | fuel + 1, code =>
    match syllableSounds? code with
    | some sounds => sounds
    | none =>
      match compositions.find? fun c => c.whole == code with
      | some c => decompose fuel c.first ++ [c.second]
      | none => [code]

/-- The classes of marks with their code points. -/
def markOrder : List (Nat × CodeSet) :=
  markOrderEntries.map fun (order, codes) => (order, .ofText codes)

/-- The class of a mark; 0 for what is no mark or keeps its place. -/
def orderOf (code : Nat) : Nat :=
  match markOrder.find? fun row => row.2.has code with
  | some (order, _) => order
  | none => 0

/-- A code point with its class. -/
abbrev Ordered := Nat × Nat

/-- Put a mark in front of marks in order: behind those of a smaller class only. -/
def insertMark (mark : Ordered) : List Ordered → List Ordered
  | [] => [mark]
  | other :: others =>
    if other.2 ≠ 0 ∧ other.2 < mark.2 then other :: insertMark mark others
    else mark :: other :: others

/-- Characters with the marks between them in the order of their classes. -/
def inOrder : List Ordered → List Ordered
  | [] => []
  | c :: cs =>
    let rest := inOrder cs
    if c.2 = 0 then c :: rest else insertMark c rest

/-- What is composed so far: the last character that keeps its place, if there is one, and the marks
behind it, the last one first. -/
structure Composing where
  base : Option Nat
  marks : List Ordered

/-- What is composed so far, as code points. -/
def Composing.codes (c : Composing) : List Nat :=
  c.base.toList ++ (c.marks.reverse.map (·.1))

/-- Whether the base can still compose with a character of a class: no mark of the same or of a
greater class stands between them. -/
def Composing.isOpen (c : Composing) (order : Nat) : Bool :=
  match c.marks with
  | [] => true
  | mark :: _ => mark.2 < order

/-- Compose ordered characters from left to right. -/
def composeFrom (c : Composing) : List Ordered → List Nat
  | [] => c.codes
  | (code, order) :: rest =>
    match c.base.bind fun base => if c.isOpen order then composePair? base code else none with
    | some whole => composeFrom { c with base := some whole } rest
    | none =>
      if order = 0 then c.codes ++ composeFrom ⟨some code, []⟩ rest
      else composeFrom { c with marks := (code, order) :: c.marks } rest

/-- A text with its characters composed. -/
def composed (codes : List Nat) : List Nat :=
  let apart := codes.flatMap (decompose 4)
  composeFrom ⟨none, []⟩ (inOrder (apart.map fun code => (code, orderOf code)))

end Shipyard.Unicode
