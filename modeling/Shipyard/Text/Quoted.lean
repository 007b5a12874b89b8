import Shipyard.Unicode.Printable

/-!
# Quoted texts

How a text is shown between double quotes in a diagnostic: the quote, the backslash and the usual
controls by a letter, every other character that does not show on its own by its code point in
hexadecimal, all else as it is.
-/

namespace Shipyard.Text

/-- The letter that stands behind a backslash for a character, if the character has one. -/
def escapeLetter? (c : Char) : Option Char :=
  if c = '\x00' then some '0'
  else if c = '\t' then some 't'
  else if c = '\r' then some 'r'
  else if c = '\n' then some 'n'
  else if c = '"' then some '"'
  else if c = '\\' then some '\\'
  else none

/-- A code point in hexadecimal between braces, behind `\u`. -/
def escapeCodePoint (c : Char) : List Char :=
  ['\\', 'u', '{'] ++ Nat.toDigits 16 c.toNat ++ ['}']

/-- How one character is shown in a quoted text. -/
def quoteChar (c : Char) : List Char :=
  match escapeLetter? c with
  | some letter => ['\\', letter]
  | none => if Unicode.isPrintable c then [c] else escapeCodePoint c

/-- A text between double quotes, with every character shown. -/
def quoted (s : String) : String :=
  String.ofList ('"' :: s.toList.flatMap quoteChar ++ ['"'])

end Shipyard.Text
