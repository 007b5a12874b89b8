import Shipyard.Text.Digits

/-!
# The addresses of hosts

Hosts go by an address of four bytes, in one to four numbers between full stops, or by an address of
eight pieces in hexadecimal digits between colons. Addresses are shown in their usual form, and a
name that ends in a number is no name but an address of four bytes.
-/

namespace Shipyard.Http

/-- The parts of a text between some sign. -/
def partsAt (sign : Char) : List Char → List (List Char)
  | [] => [[]]
  | c :: cs =>
    if c = sign then [] :: partsAt sign cs
    else
      match partsAt sign cs with
      | [] => [[c]]
      | part :: parts => (c :: part) :: parts

/-- A number in decimal digits, or behind `0x` in hexadecimal and behind `0` in octal ones. -/
def readAddressNumber : List Char → Option Nat
  | [] => none
  | '0' :: x :: digits =>
    if x = 'x' ∨ x = 'X' then
      if digits.all Text.isHexDigit then some (Text.hexValue digits) else none
    else if (x :: digits).all fun c => '0' ≤ c && c ≤ '7' then
      some ((x :: digits).foldl (fun n c => 8 * n + Text.decimalDigit c) 0)
    else none
  | digits => if digits.all Char.isDigit then some (Text.decimalValue digits) else none

/-- The parts of a name or an address, without an empty one at its end. -/
def hostParts (host : List Char) : List (List Char) :=
  match (partsAt '.' host).reverse with
  | [] :: parts => parts.reverse
  | parts => parts.reverse

/-- Whether a name ends in a number. -/
def endsInNumber (host : List Char) : Bool :=
  match (hostParts host).getLast? with
  | some part => !part.isEmpty && (part.all Char.isDigit || (readAddressNumber part).isSome)
  | none => false

/-- The value of an address of four bytes. Its last number stands for all bytes that are left. -/
def fourByteValue? (host : List Char) : Option Nat := do
  let numbers ← (hostParts host).mapM readAddressNumber
  let last ← numbers.getLast?
  let others := numbers.dropLast
  let value := (others.foldl (fun n m => 256 * n + m) 0)
  let room := ((List.replicate (4 - others.length) 256).foldl (· * ·) 1)
  if others.length ≤ 3 ∧ others.all (· < 256) ∧ last < room then return value * room + last
  else none

/-- An address of four bytes in its usual form. -/
def showFourBytes (value : Nat) : List Char :=
  ['.'].intercalate
    ([value / 16777216, value / 65536 % 256, value / 256 % 256, value % 256].map (Nat.toDigits 10))

/-- What was read of an address of eight pieces: the pieces, and where others may be left out. -/
structure Pieces where
  pieces : List Nat
  gap : Option Nat

/-- A number from 0 to 255 without zeros in front of it. -/
def readByte (digits : List Char) : Option Nat :=
  let value := Text.decimalValue digits
  if digits.isEmpty || !digits.all Char.isDigit || 255 < value ||
      (1 < digits.length && digits.head? == some '0') then none
  else some value

/-- The two pieces of an address of four bytes in strict form. -/
def readBytePieces (cs : List Char) : Option (List Nat) :=
  match (partsAt '.' cs).mapM readByte with
  | some [a, b, c, d] => some [256 * a + b, 256 * c + d]
  | _ => none

/-- The pieces of an address from one piece on. Each round takes a character at least. -/
def readPieces : Nat → Pieces → List Char → Option Pieces
  | 0, _, _ => none
  | _ + 1, p, [] => some p
  | fuel + 1, p, ':' :: rest =>
    if p.pieces.length = 8 ∨ p.gap.isSome then none
    else readPieces fuel ⟨p.pieces ++ [0], some (p.pieces.length + 1)⟩ rest
  | fuel + 1, p, cs =>
    let digits := (cs.take 4).takeWhile Text.isHexDigit
    let next : Pieces := ⟨p.pieces ++ [Text.hexValue digits], p.gap⟩
    if p.pieces.length = 8 then none
    else
      match cs.drop digits.length with
      | [] => some next
      | '.' :: _ =>
        if digits.isEmpty || 6 < p.pieces.length then none
        else (readBytePieces cs).map fun pieces => ⟨p.pieces ++ pieces, p.gap⟩
      | ':' :: rest => if rest.isEmpty then none else readPieces fuel next rest
      | _ => none

/-- The eight pieces of an address, with zeros for those that are left out. -/
def eightPieces? (cs : List Char) : Option (List Nat) := do
  let read ←
    match cs with
    | ':' :: ':' :: rest => readPieces (rest.length + 1) ⟨[0], some 1⟩ rest
    | ':' :: _ => none
    | [] => none
    | cs => readPieces (cs.length + 1) ⟨[], none⟩ cs
  match read.gap with
  | some gap =>
    return read.pieces.take gap ++ List.replicate (8 - read.pieces.length) 0 ++
      read.pieces.drop gap
  | none => if read.pieces.length = 8 then return read.pieces else none

/-- The number of zeros at the start of a list. -/
def leadingZeros (pieces : List Nat) : Nat :=
  (pieces.takeWhile (· == 0)).length

/-- Where the longest run of zeros begins, and its length; the first one if there are several. -/
def longestZeros : List Nat → Nat × Nat
  | [] => (0, 0)
  | piece :: pieces =>
    let here := leadingZeros (piece :: pieces)
    let (start, length) := longestZeros pieces
    if length ≤ here then (0, here) else (start + 1, length)

/-- Pieces between colons. -/
def showPieces (pieces : List Nat) : List Char :=
  [':'].intercalate (pieces.map (Nat.toDigits 16))

/-- An address of eight pieces in its usual form: the longest run of zeros is left out, unless it is
a single one. -/
def showEightPieces (pieces : List Nat) : List Char :=
  match longestZeros pieces with
  | (start, length) =>
    if length < 2 then showPieces pieces
    else showPieces (pieces.take start) ++ [':', ':'] ++ showPieces (pieces.drop (start + length))

end Shipyard.Http
