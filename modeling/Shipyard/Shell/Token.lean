/-!
# Shell tokens

How a POSIX shell cuts a command line into words and operators. A character of a word is either
literal, because it is quoted or has no meaning to the shell, or active: the shell expands what
begins there. A line whose quotes are not closed has no tokens.
-/

namespace Shipyard.Shell

/-- A character of a word. -/
inductive Glyph where
  | literal (c : Char)
  /-- An unquoted or half-quoted character that begins an expansion, a pattern or a comment. -/
  | active (c : Char)
  deriving DecidableEq, Repr

/-- A token of a command line. -/
inductive Token where
  | word (glyphs : List Glyph)
  | operator (text : List Char)
  deriving DecidableEq, Repr

/-- The characters that are active outside quotes. -/
def activeCharacters : List Char :=
  ['$', '\x60', '*', '?', '[', ']', '{', '}', '!', '~', '#']

/-- A character as it counts outside quotes. -/
def Glyph.unquoted (c : Char) : Glyph :=
  if activeCharacters.contains c then .active c else .literal c

/-- A character as it counts between double quotes. -/
def Glyph.halfQuoted (c : Char) : Glyph :=
  if c = '$' ∨ c = '\x60' then .active c else .literal c

/-- The value of a word in which nothing is expanded. -/
def wordValue? : List Glyph → Option (List Char)
  | [] => some []
  | .literal c :: glyphs => (wordValue? glyphs).map (c :: ·)
  | .active _ :: _ => none

/-- A blank between words. -/
def isSeparator (c : Char) : Bool := c == ' ' || c == '\t'

/-- A character that begins an operator. -/
def isOperatorStart (c : Char) : Bool :=
  c == '&' || c == '|' || c == ';' || c == '<' || c == '>' || c == '(' || c == ')' || c == '\n'

/-- Whether two characters are one operator. -/
def isDoubleOperator (c d : Char) : Bool :=
  (c == '&' && d == '&') || (c == '|' && d == '|') || (c == '>' && d == '>') ||
    (c == '<' && d == '<') || (c == '>' && d == '&') || (c == '<' && d == '&') ||
    (c == ';' && d == ';')

/-- The quotes that a character stands between. -/
inductive Quoting where
  | none
  | single
  | double
  deriving DecidableEq, Repr

/-- The word that is being read, in front of the tokens that follow it. -/
def endWord : Option (List Glyph) → List Token → List Token
  | none, tokens => tokens
  | some glyphs, tokens => .word glyphs.reverse :: tokens

/-- Whether an operator redirects input or output. -/
def isRedirection (operator : List Char) : Bool :=
  operator.head? == some '<' || operator.head? == some '>'

/-- The digits that a word consists of, if it does. -/
def digitWord? (glyphs : List Glyph) : Option (List Char) :=
  (wordValue? glyphs).bind fun cs => if cs.all Char.isDigit && !cs.isEmpty then some cs else none

/-- The word that is being read, in front of an operator. Digits directly before a redirection
belong to the operator. -/
def endWordAt (operator : List Char) (word : Option (List Glyph)) (tokens : List Token) :
    List Token :=
  match if isRedirection operator then word.bind fun w => digitWord? w.reverse else none with
  | some digits => .operator (digits ++ operator) :: tokens
  | none => endWord word (.operator operator :: tokens)

/-- Add a character to the word that is being read. -/
def addGlyph (glyph : Glyph) (word : Option (List Glyph)) : Option (List Glyph) :=
  some (glyph :: word.getD [])

/-- The tokens of a text, where `quoting` tells the quotes that are open and `word` holds the
characters of the word that is being read, the last one first. -/
def tokensFrom : Quoting → Option (List Glyph) → List Char → Option (List Token)
  | .none, word, [] => some (endWord word [])
  | .single, _, [] => none
  | .double, _, [] => none
  | .single, word, c :: cs =>
    if c = '\'' then tokensFrom .none word cs
    else tokensFrom .single (addGlyph (.literal c) word) cs
  | .double, word, '\\' :: c :: cs =>
    if c = '\n' then tokensFrom .double word cs
    else if c = '$' ∨ c = '\x60' ∨ c = '"' ∨ c = '\\' then
      tokensFrom .double (addGlyph (.literal c) word) cs
    else tokensFrom .double (addGlyph (.literal c) (addGlyph (.literal '\\') word)) cs
  | .double, word, c :: cs =>
    if c = '"' then tokensFrom .none word cs
    else tokensFrom .double (addGlyph (.halfQuoted c) word) cs
  | .none, word, '\\' :: c :: cs =>
    if c = '\n' then tokensFrom .none word cs
    else tokensFrom .none (addGlyph (.literal c) word) cs
  | .none, word, [c] =>
    if c = '\'' ∨ c = '"' then none
    else if isSeparator c then some (endWord word [])
    else if isOperatorStart c then some (endWordAt [c] word [])
    else some (endWord (addGlyph (if c = '\\' then .literal c else .unquoted c) word) [])
  | .none, word, c :: d :: cs =>
    if c = '\'' then tokensFrom .single (some (word.getD [])) (d :: cs)
    else if c = '"' then tokensFrom .double (some (word.getD [])) (d :: cs)
    else if isSeparator c then (tokensFrom .none none (d :: cs)).map (endWord word)
    else if isDoubleOperator c d then
      (tokensFrom .none none cs).map (endWordAt [c, d] word)
    else if isOperatorStart c then
      (tokensFrom .none none (d :: cs)).map (endWordAt [c] word)
    else tokensFrom .none (addGlyph (.unquoted c) word) (d :: cs)

/-- The tokens of a command line. -/
def tokens? (line : List Char) : Option (List Token) :=
  tokensFrom .none none line

end Shipyard.Shell
