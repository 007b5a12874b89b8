/-!
# Bytes and characters

UTF-8 as it is read from files and programs. `Utf8.decode?` reads well-formed bytes only;
`Utf8.decodeLossy` reads any bytes, with U+FFFD for each ill-formed piece. A piece is the longest
run of bytes that begins some character, or one byte if there is no such run.
-/

namespace Shipyard.Text.Utf8

/-- A byte `10xxxxxx`. -/
def isContinuation (b : UInt8) : Bool :=
  0x80 ≤ b.toNat && b.toNat ≤ 0xBF

/-- The bytes that may follow the first byte of a character of three or four bytes. -/
def secondByteBounds (lead : Nat) : Nat × Nat :=
  if lead = 0xE0 then (0xA0, 0xBF)
  else if lead = 0xED then (0x80, 0x9F)
  else if lead = 0xF0 then (0x90, 0xBF)
  else if lead = 0xF4 then (0x80, 0x8F)
  else (0x80, 0xBF)

/-- Whether `b` may be the second byte after `lead`. -/
def isSecondByte (lead : Nat) (b : UInt8) : Bool :=
  (secondByteBounds lead).1 ≤ b.toNat && b.toNat ≤ (secondByteBounds lead).2

/-- How many bytes follow a first byte; `none` if no character begins with it. -/
def following (lead : Nat) : Option Nat :=
  if lead < 0x80 then some 0
  else if lead < 0xC2 then none
  else if lead < 0xE0 then some 1
  else if lead < 0xF0 then some 2
  else if lead < 0xF5 then some 3
  else none

/-- The six payload bits of a continuation byte. -/
def payload (b : UInt8) : Nat :=
  b.toNat % 0x40

/-- The character that begins with the byte `lead` and goes on in `rest`, or `none` if it is
ill-formed, with the number of bytes of `rest` that belong to it. -/
def decodeFirst (lead : UInt8) (rest : List UInt8) : Option Char × Nat :=
  match following lead.toNat, rest with
  | some 0, _ => (some (Char.ofNat lead.toNat), 0)
  | some 1, b :: _ =>
    if isContinuation b then (some (Char.ofNat ((lead.toNat % 0x20) * 0x40 + payload b)), 1)
    else (none, 0)
  | some 2, b :: c :: _ =>
    if isSecondByte lead.toNat b then
      if isContinuation c then
        (some (Char.ofNat (((lead.toNat % 0x10) * 0x40 + payload b) * 0x40 + payload c)), 2)
      else (none, 1)
    else (none, 0)
  | some 3, b :: c :: d :: _ =>
    if isSecondByte lead.toNat b then
      if isContinuation c then
        if isContinuation d then
          (some (Char.ofNat
            ((((lead.toNat % 0x08) * 0x40 + payload b) * 0x40 + payload c) * 0x40 + payload d)), 3)
        else (none, 2)
      else (none, 1)
    else (none, 0)
  | some 2, [b] => (none, if isSecondByte lead.toNat b then 1 else 0)
  | some 3, [b] => (none, if isSecondByte lead.toNat b then 1 else 0)
  | some 3, [b, c] =>
    (none, if isSecondByte lead.toNat b then if isContinuation c then 2 else 1 else 0)
  | _, _ => (none, 0)

/-- The pieces of a run of bytes in order: a character, or `none` for an ill-formed piece. The first
`skip` bytes belong to a piece that is already known. -/
def pieces (skip : Nat) : List UInt8 → List (Option Char)
  | [] => []
  | b :: bs =>
    match skip with
    | skip + 1 => pieces skip bs
    | 0 =>
      let piece := decodeFirst b bs
      piece.1 :: pieces piece.2 bs

/-- The text that the bytes stand for, if they are well-formed. -/
def decode? (bytes : List UInt8) : Option String :=
  let found := pieces 0 bytes
  if found.all Option.isSome then some (String.ofList (found.filterMap id)) else none

/-- The text that the bytes stand for, with U+FFFD in the place of each ill-formed piece. -/
def decodeLossy (bytes : List UInt8) : String :=
  String.ofList ((pieces 0 bytes).map (·.getD '\uFFFD'))

/-- The bytes of a text. -/
def encode (s : String) : List UInt8 :=
  s.toUTF8.toList

end Shipyard.Text.Utf8
