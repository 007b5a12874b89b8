import Shipyard.Json.Numeral
import Shipyard.Text.Digits

/-!
# What can be read of a document

A document that is not well-formed is still read up to the place where it goes wrong, so that a
fault in its content that stands before that place is reported first. A `Draft` is what can be
read: arrays and objects that may not have been closed, texts and numbers whose value may not
exist, and `broken` where the text stops being JSON.

`Draft.toJson?` gives the value of a draft in which nothing is wrong, provided that it is not
nested too deeply; `Json.parse?` reads a text that is one such value.
-/

namespace Shipyard.Json

/-- What can be read of a value. -/
inductive Draft where
  | null
  | bool (value : Bool)
  /-- A number; `none` if it lies beyond the greatest one. -/
  | number (value : Option Number)
  /-- A text; `none` if half of a surrogate pair stands alone in it. -/
  | text (value : Option String)
  | array (items : List Draft) (closed : Bool)
  /-- An object. In the place of a key any value is kept, in case it is no text. -/
  | object (members : List (Draft × Draft)) (closed : Bool)
  | broken
  deriving Repr

/-- What can be read of a document, and whether nothing but blanks follows the value. -/
structure Document where
  content : Draft
  ended : Bool

/-- Whether a character is white space between the tokens of a document. -/
def isGap (c : Char) : Bool :=
  c == ' ' || c == '\n' || c == '\t' || c == '\r'

/-- The characters behind the white space at the start. -/
def skipGap (cs : List Char) : List Char :=
  cs.dropWhile isGap

/-- The value of four hexadecimal digits. -/
def hexFour? (a b c d : Char) : Option Nat := do
  let digits ← [a, b, c, d].mapM Text.hexDigit?
  return digits.foldl (fun n digit => 16 * n + digit) 0

/-- The character that a letter behind a backslash stands for. -/
def shortEscaped? (letter : Char) : Option Char :=
  if letter = '"' then some '"'
  else if letter = '\\' then some '\\'
  else if letter = '/' then some '/'
  else if letter = 'b' then some '\x08'
  else if letter = 'f' then some '\x0C'
  else if letter = 'n' then some '\n'
  else if letter = 'r' then some '\r'
  else if letter = 't' then some '\t'
  else none

/-- The code points of a text up to its closing quote, halves of surrogate pairs still apart, and
the characters behind the quote. -/
def readCodes : List Char → Option (List Nat × List Char)
  | [] => none
  | '"' :: cs => some ([], cs)
  | '\\' :: 'u' :: a :: b :: c :: d :: cs => do
    let code ← hexFour? a b c d
    let (codes, rest) ← readCodes cs
    return (code :: codes, rest)
  | '\\' :: letter :: cs => do
    let c ← shortEscaped? letter
    let (codes, rest) ← readCodes cs
    return (c.toNat :: codes, rest)
  | c :: cs =>
    if c.toNat < 0x20 ∨ c = '\\' then none
    else do
      let (codes, rest) ← readCodes cs
      return (c.toNat :: codes, rest)

/-- The first half of a surrogate pair. -/
def isHighHalf (code : Nat) : Bool := 0xD800 ≤ code && code ≤ 0xDBFF

/-- The second half of a surrogate pair. -/
def isLowHalf (code : Nat) : Bool := 0xDC00 ≤ code && code ≤ 0xDFFF

/-- The characters that code points stand for, the halves of pairs joined; `none` if a half stands
alone. -/
def joinHalves : List Nat → Option (List Char)
  | [] => some []
  | [code] => if isHighHalf code || isLowHalf code then none else some [Char.ofNat code]
  | code :: next :: codes =>
    if isHighHalf code then
      if isLowHalf next then
        (joinHalves codes).map
          (Char.ofNat (0x10000 + (code - 0xD800) * 0x400 + (next - 0xDC00)) :: ·)
      else none
    else if isLowHalf code then none
    else (joinHalves (next :: codes)).map (Char.ofNat code :: ·)

/-- A text behind its opening quote. -/
def readText (cs : List Char) : Draft × Option (List Char) :=
  match readCodes cs with
  | some (codes, rest) => (.text ((joinHalves codes).map String.ofList), some rest)
  | none => (.broken, none)

/-- A word that stands for a value. -/
def readWord (word : String) (value : Draft) (cs : List Char) : Draft × Option (List Char) :=
  if word.toList.isPrefixOf cs then (value, some (cs.drop word.toList.length)) else (.broken, none)

/-- A number. -/
def readNumber (cs : List Char) : Draft × Option (List Char) :=
  match Numeral.read cs with
  | some (numeral, rest) => (.number numeral.value?, some rest)
  | none => (.broken, none)

mutual

/-- A value, and the characters behind it unless the value is broken off. -/
def readValue : Nat → List Char → Draft × Option (List Char)
  | 0, _ => (.broken, none)
  | fuel + 1, cs =>
    match skipGap cs with
    | [] => (.broken, none)
    | '"' :: cs => readText cs
    | '[' :: cs =>
      match skipGap cs with
      | ']' :: rest => (.array [] true, some rest)
      | cs =>
        let (items, rest) := readItems fuel cs
        (.array items rest.isSome, rest)
    | '{' :: cs =>
      match skipGap cs with
      | '}' :: rest => (.object [] true, some rest)
      | cs =>
        let (members, rest) := readMembers fuel cs
        (.object members rest.isSome, rest)
    | 't' :: cs => readWord "rue" (.bool true) cs
    | 'f' :: cs => readWord "alse" (.bool false) cs
    | 'n' :: cs => readWord "ull" .null cs
    | cs => readNumber cs

/-- The items of an array up to its closing bracket. -/
def readItems : Nat → List Char → List Draft × Option (List Char)
  | 0, _ => ([.broken], none)
  | fuel + 1, cs =>
    match readValue fuel cs with
    | (item, none) => ([item], none)
    | (item, some rest) =>
      match skipGap rest with
      | ',' :: cs =>
        let (items, rest) := readItems fuel cs
        (item :: items, rest)
      | ']' :: rest => ([item], some rest)
      | _ => ([item], none)

/-- The members of an object up to its closing brace. -/
def readMembers : Nat → List Char → List (Draft × Draft) × Option (List Char)
  | 0, _ => ([(.broken, .broken)], none)
  | fuel + 1, cs =>
    match readValue fuel cs with
    | (.text key, some rest) =>
      match skipGap rest with
      | ':' :: cs =>
        match readValue fuel cs with
        | (value, none) => ([(.text key, value)], none)
        | (value, some rest) =>
          match skipGap rest with
          | ',' :: cs =>
            let (members, rest) := readMembers fuel cs
            ((.text key, value) :: members, rest)
          | '}' :: rest => ([(.text key, value)], some rest)
          | _ => ([(.text key, value)], none)
      | _ => ([(.text key, .broken)], none)
    | (key, _) => ([(key, .broken)], none)

end

/-- What can be read of a text. Two steps to a character are enough. -/
def Document.read (text : String) : Document :=
  let cs := text.toList
  match readValue (2 * cs.length + 2) cs with
  | (content, some rest) => ⟨content, (skipGap rest).isEmpty⟩
  | (content, none) => ⟨content, false⟩

namespace Draft

mutual

/-- Whether a value follows the grammar, whatever its texts, numbers and depth. -/
def isWhole : Draft → Bool
  | .array items closed => closed && allWhole items
  | .object members closed => closed && membersWhole members
  | .broken => false
  | _ => true

/-- Whether all items follow the grammar. -/
def allWhole : List Draft → Bool
  | [] => true
  | item :: items => isWhole item && allWhole items

/-- Whether all members follow the grammar. -/
def membersWhole : List (Draft × Draft) → Bool
  | [] => true
  | (.text _, value) :: members => isWhole value && membersWhole members
  | _ :: _ => false

end

mutual

/-- The value of a draft in which nothing is wrong and in which at most `room` arrays and objects
stand inside one another. The members of an object come in the order of their keys, the last of
several with the same key. -/
def toJson? (room : Nat) : Draft → Option Json
  | .null => some .null
  | .bool b => some (.bool b)
  | .number n => n.map .number
  | .text s => s.map .text
  | .array items closed =>
    match room, closed with
    | room + 1, true => (itemsToJson? room items).map .array
    | _, _ => none
  | .object members closed =>
    match room, closed with
    | room + 1, true =>
      (membersToJson? room members).map fun ms => .object (Dictionary.ofEntries ms)
    | _, _ => none
  | .broken => none

/-- The values of items. -/
def itemsToJson? (room : Nat) : List Draft → Option (List Json)
  | [] => some []
  | item :: items => do
    let value ← toJson? room item
    let values ← itemsToJson? room items
    return value :: values

/-- The keys and values of members. -/
def membersToJson? (room : Nat) : List (Draft × Draft) → Option (List (String × Json))
  | [] => some []
  | (.text (some key), value) :: members => do
    let value ← toJson? room value
    let members ← membersToJson? room members
    return (key, value) :: members
  | _ :: _ => none

end

end Draft

/-- How many arrays and objects of a document may stand inside one another. -/
def depthLimit : Nat := 127

/-- The value that a text is, if it is one. -/
def parse? (text : String) : Option Json :=
  let document := Document.read text
  if document.ended then document.content.toJson? depthLimit else none

end Shipyard.Json
