import Shipyard.Pattern.Written
import Shipyard.Text.Blank

/-!
# Reading escapes

What a backslash begins: characters by their code, sets, assertions, and signs without their special
meaning. In a spaced pattern white space and comments may stand between the parts of an escape.
-/

namespace Shipyard.Pattern

/-- What stands behind white space and comments. A comment goes from a number sign to the end of its
line. -/
def skipSpace (inComment : Bool) : List Char → List Char
  | [] => []
  | c :: cs =>
    if inComment then skipSpace (c != '\n') cs
    else if Text.isBlank c then skipSpace false cs
    else if c = '#' then skipSpace true cs
    else c :: cs

/-- What stands behind what is of no account here. -/
def skipGap (spaced : Bool) (cs : List Char) : List Char :=
  if spaced then skipSpace false cs else cs

/-- The characters up to the first that fails `p`, and what stands from there on. In a spaced
pattern white space and comments between them are of no account. -/
def takeSpaced (spaced : Bool) (p : Char → Bool) (inComment : Bool) :
    List Char → List Char × List Char
  | [] => ([], [])
  | c :: cs =>
    if inComment then takeSpaced spaced p (c != '\n') cs
    else if spaced && c == '#' then takeSpaced spaced p true cs
    else if spaced && Text.isBlank c then takeSpaced spaced p false cs
    else if p c then
      let (taken, rest) := takeSpaced spaced p false cs
      (c :: taken, rest)
    else ([], c :: cs)

/-- The character of a code in hexadecimal digits. -/
def charOfDigits? (digits : List Char) : Option Char :=
  let code := Text.hexValue digits
  if digits.isEmpty || !digits.all Text.isHexDigit || !code.isValidChar then none
  else some (Char.ofNat code)

/-- A number of hexadecimal digits. -/
def readHexDigits (spaced : Bool) : Nat → List Char → Option (List Char × List Char)
  | 0, cs => some ([], cs)
  | _ + 1, [] => none
  | n + 1, c :: cs =>
    if Text.isHexDigit c then
      (readHexDigits spaced n (skipGap spaced cs)).map fun read => (c :: read.1, read.2)
    else none

/-- A character by its code: in braces, or in a fixed number of digits. -/
def readCode (spaced : Bool) (count : Nat) (cs : List Char) : Option (Literal × List Char) :=
  match skipGap spaced cs with
  | '\x7b' :: cs =>
    match takeSpaced spaced (· != '\x7d') false cs with
    | (digits, _ :: rest) => (charOfDigits? digits).map fun c => (⟨c, false⟩, rest)
    | (_, []) => none
  | cs => do
    let (digits, rest) ← readHexDigits spaced count cs
    let c ← charOfDigits? digits
    return (⟨c, count == 2⟩, rest)

/-- A text up to the first of some sign, and what stands behind the sign. -/
def splitAt? (sign : List Char) : List Char → Option (List Char × List Char)
  | [] => none
  | c :: cs =>
    if sign.isPrefixOf (c :: cs) then some ([], (c :: cs).drop sign.length)
    else (splitAt? sign cs).map fun (front, rest) => (c :: front, rest)

/-- The set of a property, or of a question and its answer. A sign that denies the answer between
them turns the set over, so that a set denied twice is the set itself. -/
def namedSet (negated : Bool) (name : List Char) : WrittenSet :=
  match splitAt? ['!', '='] name with
  | some (question, answer) => .answer (!negated) question answer
  | none =>
    match splitAt? [':'] name <|> splitAt? ['='] name with
    | some (question, answer) => .answer negated question answer
    | none => .property negated name

/-- A set by the name of a property, in braces or of one letter. -/
def readProperty (spaced negated : Bool) (cs : List Char) : Option (WrittenSet × List Char) :=
  match skipGap spaced cs with
  | '\x7b' :: cs =>
    match takeSpaced spaced (· != '\x7d') false cs with
    | (name, _ :: rest) => some (namedSet negated name, rest)
    | (_, []) => none
  | '\\' :: _ => none
  | c :: cs => some (.property negated [c], cs)
  | [] => none

/-- A special sign between words by its name. -/
def wordSide? (name : List Char) : Option WordSide :=
  if name = "start".toList then some .start
  else if name = "end".toList then some .finish
  else if name = "start-half".toList then some .noneBefore
  else if name = "end-half".toList then some .noneAfter
  else none

/-- The bound of a word, perhaps one with a name in braces. Braces whose content does not begin as a
name does are left for a repetition. -/
def readWordBound (spaced : Bool) (cs : List Char) : Option (Written × List Char) :=
  let plain := some (Written.assertion (.word .edge), cs)
  match cs with
  | '\x7b' :: inner =>
    match takeSpaced spaced (fun c => c.isAlpha || c == '-') false inner with
    | ([], []) => none
    | ([], _) => plain
    | (name, '\x7d' :: rest) => (wordSide? name).map fun side => (.assertion (.word side), rest)
    | (_, _) => none
  | _ => plain

/-- The character that a letter behind a backslash stands for. -/
def controlChar? (c : Char) : Option Char :=
  match c with
  | 'a' => some '\x07'
  | 'f' => some '\x0C'
  | 't' => some '\t'
  | 'n' => some '\n'
  | 'r' => some '\r'
  | 'v' => some '\x0B'
  | _ => none

/-- The assertion that a sign behind a backslash stands for. -/
def assertion? (c : Char) : Option WrittenAssertion :=
  match c with
  | 'A' => some .textStart
  | 'z' => some .textEnd
  | 'B' => some (.word .noEdge)
  | '<' => some (.word .start)
  | '>' => some (.word .finish)
  | _ => none

/-- The set that a letter behind a backslash stands for. -/
def shorthand? (c : Char) : Option WrittenSet :=
  match c with
  | 'd' => some (.shorthand false .digit)
  | 's' => some (.shorthand false .blank)
  | 'w' => some (.shorthand false .word)
  | 'D' => some (.shorthand true .digit)
  | 'S' => some (.shorthand true .blank)
  | 'W' => some (.shorthand true .word)
  | _ => none

/-- Whether a backslash takes nothing but its special meaning from a character. -/
def isPlainEscaped (c : Char) : Bool :=
  c.toNat < 0x80 && !c.isAlphanum

/-- An escape behind its backslash. -/
def readEscape (spaced : Bool) : List Char → Option (Written × List Char)
  | [] => none
  | 'x' :: cs => (readCode spaced 2 cs).map fun read => (.literal read.1, read.2)
  | 'u' :: cs => (readCode spaced 4 cs).map fun read => (.literal read.1, read.2)
  | 'U' :: cs => (readCode spaced 8 cs).map fun read => (.literal read.1, read.2)
  | 'p' :: cs => (readProperty spaced false cs).map fun read => (.set read.1, read.2)
  | 'P' :: cs => (readProperty spaced true cs).map fun read => (.set read.1, read.2)
  | 'b' :: cs => readWordBound spaced cs
  | c :: cs =>
    match shorthand? c, assertion? c, controlChar? c with
    | some set, _, _ => some (.set set, cs)
    | none, some a, _ => some (.assertion a, cs)
    | none, none, some control => some (.literal ⟨control, false⟩, cs)
    | none, none, none => if isPlainEscaped c then some (.literal ⟨c, false⟩, cs) else none

end Shipyard.Pattern
