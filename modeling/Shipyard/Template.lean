import Shipyard.Text.Blank
import Shipyard.Unicode.Word

/-!
# Templates

A template is a text with placeholders: a name of word characters between double braces, with blanks
around it if wanted. `Template.segments` cuts a text from left to right into single characters and
placeholders; every function on templates reads that one cut. `Template.render` puts values in the
place of the placeholders and never looks at an inserted value again.
-/

namespace Shipyard.Template

/-- A placeholder with the blanks that stand around its name. -/
structure Placeholder where
  before : List Char
  name : List Char
  after : List Char
  deriving DecidableEq, Repr

/-- The characters a placeholder is written with. -/
def Placeholder.source (p : Placeholder) : List Char :=
  ['{', '{'] ++ p.before ++ p.name ++ p.after ++ ['}', '}']

/-- A piece of a template. -/
inductive Segment where
  | literal (c : Char)
  | placeholder (p : Placeholder)
  deriving DecidableEq, Repr

/-- The characters a piece is written with. -/
def Segment.source : Segment → List Char
  | .literal c => [c]
  | .placeholder p => p.source

/-- The name a piece refers to. -/
def Segment.name? : Segment → Option String
  | .literal _ => none
  | .placeholder p => some (String.ofList p.name)

/-- The placeholder that the text begins with. Blanks, word characters and braces are apart, so each
of the four runs is as long as it can be. -/
def leading? : List Char → Option Placeholder
  | '{' :: '{' :: cs =>
    let inner := cs.dropWhile Text.isBlank
    let tail := inner.dropWhile Unicode.isWordChar
    let p : Placeholder :=
      { before := cs.takeWhile Text.isBlank
        name := inner.takeWhile Unicode.isWordChar
        after := tail.takeWhile Text.isBlank }
    match tail.dropWhile Text.isBlank with
    | '}' :: '}' :: _ => if p.name.isEmpty then none else some p
    | _ => none
  | _ => none

/-- The pieces of a text from left to right, where the first `skip` characters belong to a
placeholder that is already cut off. -/
def segmentsFrom (skip : Nat) : List Char → List Segment
  | [] => []
  | c :: cs =>
    match skip with
    | skip + 1 => segmentsFrom skip cs
    | 0 =>
      match leading? (c :: cs) with
      | some p => .placeholder p :: segmentsFrom (p.source.length - 1) cs
      | none => .literal c :: segmentsFrom 0 cs

/-- The pieces of a template. -/
def segments (template : String) : List Segment :=
  segmentsFrom 0 template.toList

/-- The names a template refers to, each once, in the order of their first appearance. -/
def placeholders (template : String) : List String :=
  ((segments template).filterMap Segment.name?).eraseDups

/-- What a piece becomes under an assignment of values. -/
def Segment.fill (value : String → Option String) : Segment → List Char
  | .literal c => [c]
  | .placeholder p => ((value (String.ofList p.name)).getD "").toList

/-- The template with a value for every placeholder, or the first name that has none. -/
def render (template : String) (value : String → Option String) : Except String String :=
  match (placeholders template).find? fun name => (value name).isNone with
  | some name => .error name
  | none => .ok (String.ofList ((segments template).flatMap (Segment.fill value)))

end Shipyard.Template
