import Shipyard.Json.Draft
import Shipyard.JsonPath.Query

/-!
# Reading JSON paths

The written form of queries. `Query.parse?` takes a whole text; the readers take what they know from
the start of a text and give what is left of it. White space may stand in front of a segment that
does not descend and between the parts of a bracket or of a condition, and nowhere else.
-/

namespace Shipyard.JsonPath

/-- Whether a name without quotes may begin with a character. -/
def isNameStart (c : Char) : Bool :=
  c.isAlpha || c == '_' || 0x80 ≤ c.toNat

/-- Whether a character may stand in a name without quotes. -/
def isNameChar (c : Char) : Bool :=
  isNameStart c || c.isDigit

/-- A name without quotes. -/
def readName : List Char → Option (String × List Char)
  | [] => none
  | c :: cs =>
    if isNameStart c then
      some (String.ofList (c :: cs.takeWhile isNameChar), cs.dropWhile isNameChar)
    else none

/-- The greatest index. -/
def indexLimit : Nat := 9007199254740991

/-- A number that does not begin with zero. -/
def readPositive (cs : List Char) : Option (Nat × List Char) :=
  let digits := cs.takeWhile Char.isDigit
  let value := Text.decimalValue digits
  if digits.isEmpty || digits.head? == some '0' || indexLimit < value then none
  else some (value, cs.dropWhile Char.isDigit)

/-- An index: zero, or a number that does not begin with zero, perhaps with a sign. -/
def readIndex : List Char → Option (Int × List Char)
  | '0' :: cs => some (0, cs)
  | '-' :: cs => (readPositive cs).map fun read => (-(read.1 : Int), read.2)
  | cs => (readPositive cs).map fun read => (read.1, read.2)

/-- An index, or nothing if none stands here. -/
def readOptionalIndex (cs : List Char) : Option Int × List Char :=
  match readIndex cs with
  | some (index, rest) => (some index, rest)
  | none => (none, cs)

/-- The character that a letter behind a backslash stands for between quotes of a kind. -/
def escapedIn? (quote letter : Char) : Option Char :=
  if letter = quote then some quote
  else if letter = '"' then none
  else Json.shortEscaped? letter

/-- The code points of a text up to its closing quote, halves of surrogate pairs still apart. The
first half of a pair begins with a capital letter. -/
def readCodesTo (quote : Char) : List Char → Option (List Nat × List Char)
  | [] => none
  | '\\' :: 'u' :: a :: b :: c :: d :: cs => do
    let code ← Json.hexFour? a b c d
    let (codes, rest) ← readCodesTo quote cs
    if Json.isHighHalf code ∧ a ≠ 'D' then none else return (code :: codes, rest)
  | '\\' :: letter :: cs => do
    let c ← escapedIn? quote letter
    let (codes, rest) ← readCodesTo quote cs
    return (c.toNat :: codes, rest)
  | c :: cs =>
    if c = quote then some ([], cs)
    else if c.toNat < 0x20 ∨ c = '\\' then none
    else do
      let (codes, rest) ← readCodesTo quote cs
      return (c.toNat :: codes, rest)

/-- A text behind its opening quote. -/
def readTextTo (quote : Char) (cs : List Char) : Option (String × List Char) := do
  let (codes, rest) ← readCodesTo quote cs
  let chars ← Json.joinHalves codes
  return (String.ofList chars, rest)

/-- A text between quotes of either kind. -/
def readQuoted : List Char → Option (String × List Char)
  | '"' :: cs => readTextTo '"' cs
  | '\'' :: cs => readTextTo '\'' cs
  | _ => none

/-- A word, if the text begins with it. -/
def readWord {α : Type} (word : String) (value : α) (cs : List Char) : Option (α × List Char) :=
  if word.toList.isPrefixOf cs then some (value, cs.drop word.toList.length) else none

/-- A number. -/
def readNumber (cs : List Char) : Option (Json × List Char) := do
  let (numeral, rest) ← Json.Numeral.read cs
  let value ← numeral.value?
  return (.number value, rest)

/-- A value that stands for itself. -/
def readLiteral (cs : List Char) : Option (Json × List Char) :=
  readWord "null" .null cs <|> readWord "true" (.bool true) cs <|>
    readWord "false" (.bool false) cs <|> readNumber cs <|>
    (readQuoted cs).map fun read => (.text read.1, read.2)

/-- The sign of a comparison. -/
def readRelation : List Char → Option (Relation × List Char)
  | '=' :: '=' :: cs => some (.equal, cs)
  | '!' :: '=' :: cs => some (.different, cs)
  | '<' :: '=' :: cs => some (.lessOrEqual, cs)
  | '>' :: '=' :: cs => some (.greaterOrEqual, cs)
  | '<' :: cs => some (.less, cs)
  | '>' :: cs => some (.greater, cs)
  | _ => none

/-- The stride of a slice with the colon in front of it; one if there is none. -/
def readStride (cs : List Char) : Int × List Char :=
  match Json.skipGap cs with
  | ':' :: after =>
    match readIndex (Json.skipGap after) with
    | some (stride, rest) => (stride, rest)
    | none => (1, after)
  | _ => (1, cs)

/-- A slice, or a single index. -/
def readRange (cs : List Char) : Option (Selector × List Char) :=
  let (first, rest) := readOptionalIndex cs
  match Json.skipGap rest, first with
  | ':' :: after, first =>
    let (last, rest) :=
      match readIndex (Json.skipGap after) with
      | some (index, rest) => (some index, rest)
      | none => (none, after)
    let (stride, rest) := readStride rest
    some (.slice first last stride, rest)
  | _, some index => some (.step (.item index), rest)
  | _, none => none

/-- A closing parenthesis with the white space in front of it. -/
def readClosing {α : Type} (value : α) (cs : List Char) : Option (α × List Char) :=
  match Json.skipGap cs with
  | ')' :: rest => some (value, rest)
  | _ => none

/-- The characters behind the name and the opening parenthesis of a function. -/
def enterFunction (name : String) (cs : List Char) : Option (List Char) :=
  (readWord name () cs).bind fun read =>
    match read.2 with
    | '(' :: rest => some (Json.skipGap rest)
    | _ => none

mutual

/-- As many segments as there are. -/
def readSegments : Nat → List Char → Option (List Segment × List Char)
  | 0, _ => none
  | fuel + 1, cs =>
    let more (read : Segment × List Char) : Option (List Segment × List Char) := do
      let (segments, rest) ← readSegments fuel read.2
      return (read.1 :: segments, rest)
    match cs, Json.skipGap cs with
    | '.' :: '.' :: '[' :: rest, _ => (readSelectors fuel true rest).bind more
    | '.' :: '.' :: '*' :: rest, _ => more (.mk true [.wildcard], rest)
    | '.' :: '.' :: rest, _ =>
      (readName rest).bind fun read => more (.mk true [.step (.member read.1)], read.2)
    | _, '.' :: '*' :: rest => more (.mk false [.wildcard], rest)
    | _, '.' :: rest =>
      (readName rest).bind fun read => more (.mk false [.step (.member read.1)], read.2)
    | _, '[' :: rest => (readSelectors fuel false rest).bind more
    | _, _ => some ([], cs)

/-- A segment in brackets, behind the opening one. -/
def readSelectors : Nat → Bool → List Char → Option (Segment × List Char)
  | 0, _, _ => none
  | fuel + 1, descends, cs => do
    let (selector, rest) ← readSelector fuel (Json.skipGap cs)
    match Json.skipGap rest with
    | ']' :: rest => return (.mk descends [selector], rest)
    | ',' :: rest =>
      let (.mk _ selectors, rest) ← readSelectors fuel descends rest
      return (.mk descends (selector :: selectors), rest)
    | _ => none

/-- A selector. -/
def readSelector : Nat → List Char → Option (Selector × List Char)
  | 0, _ => none
  | fuel + 1, cs =>
    match cs with
    | '*' :: rest => some (.wildcard, rest)
    | '?' :: rest => do
      let (condition, rest) ← readCondition fuel (Json.skipGap rest)
      return (.filter condition, rest)
    | cs =>
      (readQuoted cs).map (fun read => (.step (.member read.1), read.2)) <|> readRange cs

/-- A query. -/
def readQuery : Nat → List Char → Option (Query × List Char)
  | 0, _ => none
  | fuel + 1, '$' :: cs => do
    let (segments, rest) ← readSegments fuel cs
    return (.mk true segments, rest)
  | fuel + 1, '@' :: cs => do
    let (segments, rest) ← readSegments fuel cs
    return (.mk false segments, rest)
  | _ + 1, _ => none

/-- Conditions one of which has to hold. -/
def readCondition : Nat → List Char → Option (Condition × List Char)
  | 0, _ => none
  | fuel + 1, cs => do
    let (a, rest) ← readConjunction fuel cs
    match Json.skipGap rest with
    | '|' :: '|' :: after =>
      let (b, rest) ← readCondition fuel (Json.skipGap after)
      return (.any a b, rest)
    | _ => return (a, rest)

/-- Conditions all of which have to hold. -/
def readConjunction : Nat → List Char → Option (Condition × List Char)
  | 0, _ => none
  | fuel + 1, cs => do
    let (a, rest) ← readTerm fuel cs
    match Json.skipGap rest with
    | '&' :: '&' :: after =>
      let (b, rest) ← readConjunction fuel (Json.skipGap after)
      return (.all a b, rest)
    | _ => return (a, rest)

/-- A comparison, a test, or a condition in parentheses. -/
def readTerm : Nat → List Char → Option (Condition × List Char)
  | 0, _ => none
  | fuel + 1, cs =>
    match cs with
    | '!' :: rest => do
      let (condition, rest) ← readTest fuel (Json.skipGap rest)
      return (.negation condition, rest)
    | cs =>
      match readQuery fuel cs with
      | some (query, rest) =>
        match readRelation (Json.skipGap rest) with
        | some (relation, rest) => do
          readRightSide fuel relation (.place (← query.path?)) rest
        | none => some (.reaches query, rest)
      | none => readComparison fuel cs <|> readTest fuel cs

/-- What may stand behind a negation: a condition in parentheses, a query that has to reach a node,
or the match of a pattern. -/
def readTest : Nat → List Char → Option (Condition × List Char)
  | 0, _ => none
  | fuel + 1, cs =>
    match cs with
    | '(' :: rest => do
      let (condition, rest) ← readCondition fuel (Json.skipGap rest)
      readClosing condition rest
    | cs =>
      (readQuery fuel cs).map (fun read => (.reaches read.1, read.2)) <|>
        readMatching fuel cs

/-- The match of a pattern. -/
def readMatching : Nat → List Char → Option (Condition × List Char)
  | 0, _ => none
  | fuel + 1, cs => do
    let (whole, arguments) ← (enterFunction "match" cs).map (fun rest => (true, rest)) <|>
      (enterFunction "search" cs).map fun rest => (false, rest)
    let (subject, rest) ← readOperand fuel arguments
    match Json.skipGap rest with
    | ',' :: rest =>
      let (pattern, rest) ← readOperand fuel (Json.skipGap rest)
      readClosing (.matching whole subject pattern) rest
    | _ => none

/-- A comparison. -/
def readComparison : Nat → List Char → Option (Condition × List Char)
  | 0, _ => none
  | fuel + 1, cs => do
    let (left, rest) ← readOperand fuel cs
    let (relation, rest) ← readRelation (Json.skipGap rest)
    readRightSide fuel relation left rest

/-- The right side of a comparison. -/
def readRightSide : Nat → Relation → Operand → List Char → Option (Condition × List Char)
  | 0, _, _, _ => none
  | fuel + 1, relation, left, cs => do
    let (right, rest) ← readOperand fuel (Json.skipGap cs)
    return (.comparison relation left right, rest)

/-- Something that has a value. -/
def readOperand : Nat → List Char → Option (Operand × List Char)
  | 0, _ => none
  | fuel + 1, cs =>
    (readLiteral cs).map (fun read => (.literal read.1, read.2)) <|>
      ((readQuery fuel cs).bind fun (query, rest) => do
        return (.place (← query.path?), rest)) <|>
      ((enterFunction "length" cs).bind fun rest => do
        let (operand, rest) ← readOperand fuel rest
        readClosing (.length operand) rest) <|>
      ((enterFunction "count" cs).bind fun rest => do
        let (query, rest) ← readQuery fuel rest
        readClosing (.count query) rest) <|>
      (enterFunction "value" cs).bind fun rest => do
        let (query, rest) ← readQuery fuel rest
        readClosing (.only query) rest

end

/-- The query that a text is. No reader is inside more than nine others for each character. -/
def Query.parse? (text : String) : Option Query :=
  match text.toList with
  | '$' :: cs =>
    match readSegments (9 * cs.length + 9) cs with
    | some (segments, []) => some (.mk true segments)
    | _ => none
  | _ => none

end Shipyard.JsonPath
