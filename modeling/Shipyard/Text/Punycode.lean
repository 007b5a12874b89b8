/-!
# Names in letters, digits and hyphens

A name with characters of all scripts can be written in the letters, digits and hyphens of old: the
characters below U+0080 first, behind them a hyphen, and then in letters and digits where the other
ones go in. Each number tells how many steps to take through the places and the code points in their
order until the next character goes in. Its digits stand with the least one first; a digit below a
bound, which follows from the numbers before, is the last one.
-/

namespace Shipyard.Text.Punycode

/-- The number of digits. -/
def base : Nat := 36

/-- The first code point that is not written as it is. -/
def firstCode : Nat := 0x80

/-- The bias of the first number. -/
def firstBias : Nat := 72

/-- The least bound of a digit. -/
def leastBound : Nat := 1

/-- The greatest bound of a digit. -/
def greatestBound : Nat := 26

/-- The bound of the digit at the place `k`, which goes up in steps of the base. -/
def bound (bias k : Nat) : Nat :=
  if k ≤ bias then leastBound else min (k - bias) greatestBound

/-- Divide a number until a few digits will do; how often, and what is left. -/
def shrink : Nat → Nat → Nat × Nat
  | 0, n => (0, n)
  | fuel + 1, n =>
    if n ≤ (base - leastBound) * greatestBound / 2 then (0, n)
    else
      let (times, rest) := shrink fuel (n / (base - leastBound))
      (times + 1, rest)

/-- The bias behind a number: numbers that follow are guessed to be about as great. -/
def adapt (number count : Nat) (isFirst : Bool) : Nat :=
  let damped := if isFirst then number / 700 else number / 2
  let (times, rest) := shrink number (damped + damped / count)
  times * base + (base - leastBound + 1) * rest / (rest + 38)

/-- The letter or digit of a value. -/
def digitChar (value : Nat) : Char :=
  if value < 26 then Char.ofNat ('a'.toNat + value) else Char.ofNat ('0'.toNat + (value - 26))

/-- The value of a letter or digit. -/
def digitValue? (c : Char) : Option Nat :=
  if 'a' ≤ c ∧ c ≤ 'z' then some (c.toNat - 'a'.toNat)
  else if 'A' ≤ c ∧ c ≤ 'Z' then some (c.toNat - 'A'.toNat)
  else if '0' ≤ c ∧ c ≤ '9' then some (c.toNat - '0'.toNat + 26)
  else none

/-- The digits of a number from the place `k` on. A number has no more digits than its value. -/
def numberDigits (bias : Nat) : Nat → Nat → Nat → List Char
  | 0, _, _ => []
  | fuel + 1, k, number =>
    let t := bound bias k
    if number < t then [digitChar number]
    else
      digitChar (t + (number - t) % (base - t)) ::
        numberDigits bias fuel (k + base) ((number - t) / (base - t))

/-- What is written so far: the digits, and the steps since the last character that went in. -/
structure Encoding where
  digits : List Char
  steps : Nat
  bias : Nat
  /-- How many characters are written. -/
  count : Nat
  isFirst : Bool

/-- Go past one character of the name when those of the code point `code` go in. -/
def Encoding.pass (e : Encoding) (code other : Nat) : Encoding :=
  if other < code then { e with steps := e.steps + 1 }
  else if other = code then
    { digits := e.digits ++ numberDigits e.bias (e.steps + 1) base e.steps
      steps := 0
      bias := adapt e.steps (e.count + 1) e.isFirst
      count := e.count + 1
      isFirst := false }
  else e

/-- Write the characters of the code points `rest`, which are ascending; `code` is the first one
that may go in next. -/
def encodeFrom (codes : List Nat) (e : Encoding) (code : Nat) : List Nat → List Char
  | [] => e.digits
  | next :: rest =>
    let e := { e with steps := e.steps + (next - code) * (e.count + 1) }
    let e := codes.foldl (fun e other => e.pass next other) e
    encodeFrom codes { e with steps := e.steps + 1 } (next + 1) rest

/-- A name in letters, digits and hyphens. -/
def encode (codes : List Nat) : List Char :=
  let basic := (codes.filter (· < firstCode)).map Char.ofNat
  let others := ((codes.filter (firstCode ≤ ·)).mergeSort (· ≤ ·)).eraseDups
  let start := if basic.isEmpty then [] else basic ++ ['-']
  start ++ encodeFrom codes ⟨[], 0, firstBias, basic.length, true⟩ firstCode others

/-- What is read so far: the characters, the code point and the place that go on from, and the
number that is being read with the weight of its next digit. -/
structure Decoding where
  codes : List Nat
  code : Nat
  place : Nat
  bias : Nat
  number : Nat
  weight : Nat
  k : Nat
  isFirst : Bool

/-- Whether no number has been begun. -/
def Decoding.isBetween (d : Decoding) : Bool :=
  d.k == base

/-- Put a character in at the end of a number. -/
def Decoding.insert (d : Decoding) (number : Nat) : Decoding :=
  let count := d.codes.length + 1
  let total := d.place + number
  let code := d.code + total / count
  let place := total % count
  { codes := d.codes.take place ++ code :: d.codes.drop place
    code := code
    place := place + 1
    bias := adapt number count d.isFirst
    number := 0
    weight := 1
    k := base
    isFirst := false }

/-- Read digits to the end. -/
def decodeFrom (d : Decoding) : List Char → Option (List Nat)
  | [] => if d.isBetween then some d.codes else none
  | c :: cs => do
    let digit ← digitValue? c
    let number := d.number + digit * d.weight
    let t := bound d.bias d.k
    if digit < t then decodeFrom (d.insert number) cs
    else decodeFrom { d with number := number, weight := d.weight * (base - t), k := d.k + base } cs

/-- The name that a text in letters, digits and hyphens stands for. The last hyphen is between the
two parts only if something stands in front of it. -/
def decode? (text : List Char) : Option (List Nat) := do
  let behind := (text.reverse.takeWhile (· != '-')).reverse
  let basic := (text.take (text.length - behind.length)).dropLast
  let digits := if basic.isEmpty then text else behind
  let codes ← decodeFrom ⟨basic.map Char.toNat, firstCode, 0, firstBias, 0, 1, base, true⟩ digits
  if codes.all (·.isValidChar) then return codes else none

end Shipyard.Text.Punycode
