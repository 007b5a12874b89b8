import Mathlib.Data.List.Basic
import Shipyard.Shell.Quote
import Shipyard.Shell.Token

/-!
# Reading written words

What a text that was written for the shell comes to when the shell reads the line it stands in: a
word with that text as its value, in which no character has a meaning. The reader goes through a
line with the word it is in the middle of, so the first lemmas tell what becomes of that word.

A line is *complete* if it is read as the same tokens whatever follows it behind a blank. Words are
complete, however they were written, and complete lines may be put one behind the other. So a
command line is taken apart at its blanks, and an argument is read as one word in every place where
an argument may stand.
-/

namespace Shipyard.Shell

/-- The token of a word in which every character stands for itself. -/
def plainWord (value : List Char) : Token :=
  .word (value.map .literal)

/-- The operator between two commands of which the second is run if the first one succeeds. -/
def andThen : Token := .operator ['&', '&']

/-- The word that is being read, with more characters that stand for themselves. -/
def addLiterals (cs : List Char) (word : Option (List Glyph)) : Option (List Glyph) :=
  cs.foldl (fun word c => addGlyph (.literal c) word) word

/-- A word that was begun with literal characters ends as a plain word. -/
lemma endWord_addLiterals (cs : List Char) (tokens : List Token) :
    endWord (addLiterals cs (some [])) tokens = plainWord cs :: tokens := by
  have hfold : ∀ glyphs, addLiterals cs (some glyphs) =
      some ((cs.map Glyph.literal).reverse ++ glyphs) := by
    induction cs with
    | nil => exact fun glyphs => rfl
    | cons c cs ih =>
      intro glyphs
      change addLiterals cs (some (.literal c :: glyphs)) = _
      rw [ih, List.map_cons, List.reverse_cons, List.append_assoc, List.singleton_append]
  rw [hfold, List.append_nil]
  change Token.word (cs.map Glyph.literal).reverse.reverse :: tokens = _
  rw [List.reverse_reverse]
  rfl

/-! ## Between single quotes -/

/-- An opening quote begins a word, or goes on with the one that was begun. -/
lemma tokensFrom_openQuote (cs : List Char) (word : Option (List Glyph)) :
    tokensFrom .none word ('\'' :: cs) = tokensFrom .single (some (word.getD [])) cs := by
  cases cs with
  | nil => rfl
  | cons d cs => simp [tokensFrom]

/-- An escaped character between quotes is read as that character. -/
lemma tokensFrom_escapeQuoted (c : Char) (cs : List Char) (glyphs : List Glyph) :
    tokensFrom .single (some glyphs) (escapeQuoted c ++ cs) =
      tokensFrom .single (some (.literal c :: glyphs)) cs := by
  by_cases hc : c = '\''
  · -- the quotes are closed, the character is read behind a stroke, and they are opened again
    rw [escapeQuoted, if_pos hc, hc]
    simp only [List.cons_append, List.nil_append]
    rw [tokensFrom, if_pos rfl, tokensFrom, if_neg (by decide), tokensFrom_openQuote]
    rfl
  · rw [escapeQuoted, if_neg hc, List.singleton_append, tokensFrom, if_neg hc]
    rfl

/-- A text between quotes is added to the word as it is. -/
lemma tokensFrom_escapeContent (cs rest : List Char) (glyphs : List Glyph) :
    tokensFrom .single (some glyphs) (escapeContent cs ++ '\'' :: rest) =
      tokensFrom .none (addLiterals cs (some glyphs)) rest := by
  induction cs generalizing glyphs with
  | nil => exact if_pos rfl
  | cons c cs ih =>
    rw [escapeContent, List.flatMap_cons, List.append_assoc, tokensFrom_escapeQuoted c _ glyphs]
    exact ih (.literal c :: glyphs)

/-- A quoted text at the beginning of a word is read as the text. -/
lemma tokensFrom_singleQuoted (cs rest : List Char) :
    tokensFrom .none none (singleQuoted cs ++ rest) =
      tokensFrom .none (addLiterals cs (some [])) rest := by
  simp only [singleQuoted, List.cons_append, List.append_assoc, List.nil_append]
  rw [tokensFrom_openQuote]
  exact tokensFrom_escapeContent cs rest []

/-! ## Without quotes -/

/-- A character that has no meaning to the shell outside quotes. -/
def isOrdinary (c : Char) : Bool :=
  !(c == '\'' || c == '"' || c == '\\' || isSeparator c || isOperatorStart c ||
    activeCharacters.contains c)

/-- A word that needs no quotes. -/
def isOrdinaryWord (word : List Char) : Bool :=
  !word.isEmpty && word.all isOrdinary

/-- A character that begins no operator is no part of one. -/
lemma isDoubleOperator_eq_false {c : Char} (hc : isOperatorStart c = false) (d : Char) :
    isDoubleOperator c d = false := by
  simp only [isOperatorStart, Bool.or_eq_false_iff] at hc
  simp [isDoubleOperator, hc]

/-- A character without a meaning is added to the word. -/
lemma tokensFrom_ordinary {c : Char} (hc : isOrdinary c = true) (cs : List Char)
    (word : Option (List Glyph)) :
    tokensFrom .none word (c :: cs) = tokensFrom .none (addGlyph (.literal c) word) cs := by
  simp only [isOrdinary, Bool.not_eq_true', Bool.or_eq_false_iff, beq_eq_false_iff_ne] at hc
  obtain ⟨⟨⟨⟨⟨hsingle, hdouble⟩, hstroke⟩, hseparator⟩, hoperator⟩, hactive⟩ := hc
  have hglyph : Glyph.unquoted c = .literal c := if_neg (by simpa using hactive)
  cases cs with
  | nil => simp [tokensFrom, hsingle, hdouble, hseparator, hoperator, hstroke, hglyph]
  | cons d cs =>
    rw [tokensFrom]
    · rw [if_neg hsingle, if_neg hdouble, if_neg (by simp [hseparator]),
        if_neg (by simp [isDoubleOperator_eq_false hoperator]), if_neg (by simp [hoperator]),
        hglyph]
    · exact hstroke

/-- A word that needs no quotes is read as it is. -/
lemma tokensFrom_ordinaryWord {word : List Char} (hword : isOrdinaryWord word = true)
    (rest : List Char) :
    tokensFrom .none none (word ++ rest) = tokensFrom .none (addLiterals word (some [])) rest := by
  have hread : ∀ (letters : List Char), (∀ c ∈ letters, isOrdinary c = true) → ∀ begun,
      tokensFrom .none begun (letters ++ rest) =
        tokensFrom .none (addLiterals letters begun) rest := by
    intro letters
    induction letters with
    | nil => exact fun _ _ => rfl
    | cons c letters ih =>
      intro hletters begun
      rw [List.cons_append, tokensFrom_ordinary (hletters c List.mem_cons_self)]
      exact ih (fun d hd => hletters d (List.mem_cons_of_mem _ hd)) _
  obtain ⟨hne, hletters⟩ : word ≠ [] ∧ ∀ c ∈ word, isOrdinary c = true := by
    simpa [isOrdinaryWord] using hword
  -- whether the word was begun or not makes no difference to its first letter
  obtain ⟨c, letters, rfl⟩ := List.exists_cons_of_ne_nil hne
  exact hread _ hletters none

/-- Quotes are used for the characters that have a meaning to the shell, and for no others. -/
lemma isOrdinary_eq_not_contains (c : Char) : isOrdinary c = !metaCharacters.contains c := by
  unfold isOrdinary isSeparator isOperatorStart activeCharacters metaCharacters
  rw [Bool.eq_iff_iff]
  simp only [List.contains_cons, List.contains_nil, Bool.not_eq_true', Bool.or_eq_false_iff]
  tauto

/-- An argument is written between quotes, or it needs none and is written as it is. -/
lemma quoteArgument_eq (argument : String) :
    quoteArgument argument = quotePath argument ∨
      quoteArgument argument = argument ∧ isOrdinaryWord argument.toList = true := by
  unfold quoteArgument
  split
  · exact .inl rfl
  · rename_i hbare
    refine .inr ⟨rfl, ?_⟩
    rw [Bool.or_eq_true, not_or, Bool.not_eq_true, Bool.not_eq_true, List.any_eq_false] at hbare
    rw [isOrdinaryWord, hbare.1, Bool.not_false, Bool.true_and, List.all_eq_true]
    intro c hc
    rw [isOrdinary_eq_not_contains, Bool.not_eq_true', ← Bool.not_eq_true]
    exact hbare.2 c hc

/-! ## Complete lines -/

/-- A blank ends the word. -/
lemma tokensFrom_blank (word : Option (List Glyph)) (cs : List Char) :
    tokensFrom .none word (' ' :: cs) = (tokensFrom .none none cs).map (endWord word) := by
  cases cs with
  | nil => rfl
  | cons d cs => simp [tokensFrom, isSeparator]

/-- A line is complete and is read as `tokens`: by itself, and when a blank and another line are put
behind it, whatever that is read as. -/
structure IsRead (line : List Char) (tokens : List Token) : Prop where
  alone : tokens? line = some tokens
  before : ∀ rest, tokens? (line ++ ' ' :: rest) = (tokens? rest).map (tokens ++ ·)

namespace IsRead

/-- Complete lines with a blank between them are a complete line. -/
lemma join {first second : List Char} {tokens later : List Token} (hfirst : IsRead first tokens)
    (hsecond : IsRead second later) :
    IsRead (first ++ ' ' :: second) (tokens ++ later) where
  alone := by rw [hfirst.before, hsecond.alone, Option.map_some]
  before := by
    intro rest
    rw [List.append_assoc, List.cons_append, hfirst.before, hsecond.before, Option.map_map]
    congr 1
    funext rest
    exact (List.append_assoc tokens later rest).symm

/-- A text that is taken into a word is a complete line. -/
lemma of_taken {text value : List Char} (h : ∀ rest, tokensFrom .none none (text ++ rest) =
      tokensFrom .none (addLiterals value (some [])) rest) :
    IsRead text [plainWord value] where
  alone := by
    have halone := h []
    rw [List.append_nil] at halone
    rw [tokens?, halone, tokensFrom, endWord_addLiterals]
  before := by
    intro rest
    rw [tokens?, h, tokensFrom_blank]
    congr 1
    funext tokens
    exact endWord_addLiterals value tokens

/-- A word that needs no quotes is complete. -/
lemma word {word : List Char} (hword : isOrdinaryWord word = true) :
    IsRead word [plainWord word] :=
  of_taken (tokensFrom_ordinaryWord hword)

/-- The operator between two commands is complete. -/
lemma andThen : IsRead ['&', '&'] [andThen] where
  alone := rfl
  before := by
    intro rest
    change (tokensFrom .none none (' ' :: rest)).map (Shell.andThen :: ·) = _
    rw [tokensFrom_blank, Option.map_map]
    rfl

/-- A quoted path is one word, and its value is the path. -/
lemma quotePath (path : String) : IsRead (quotePath path).toList [plainWord path.toList] := by
  unfold Shell.quotePath
  rw [String.toList_ofList]
  exact of_taken (tokensFrom_singleQuoted path.toList)

/-- A quoted argument is one word, and its value is the argument. -/
lemma quoteArgument (argument : String) :
    IsRead (quoteArgument argument).toList [plainWord argument.toList] := by
  rcases quoteArgument_eq argument with h | ⟨h, hordinary⟩
  · rw [h]
    exact quotePath argument
  · rw [h]
    exact word hordinary

example : tokens? (Shell.quoteArgument "it's; rm -rf ~").toList =
    some [plainWord "it's; rm -rf ~".toList] := by decide

/-- A command that runs in a directory is read as a change to that directory, and then the command.
-/
lemma inDirectory (directory : String) {command : String} {tokens : List Token}
    (h : IsRead command.toList tokens) :
    IsRead (inDirectory directory command).toList
      ([plainWord "cd".toList, plainWord directory.toList, Shell.andThen] ++ tokens) := by
  have hline : (Shell.inDirectory directory command).toList =
      "cd".toList ++ ' ' :: ((Shell.quotePath directory).toList ++
        ' ' :: (['&', '&'] ++ ' ' :: command.toList)) := by
    have hcd : "cd ".toList = "cd".toList ++ [' '] := by decide
    have hand : " && ".toList = [' ', '&', '&', ' '] := by decide
    simp only [Shell.inDirectory, String.toList_append, hcd, hand, List.append_assoc,
      List.cons_append, List.nil_append]
  rw [hline]
  exact (word (by decide)).join ((quotePath directory).join (andThen.join h))

end IsRead

/-- A text stands for an argument: the shell reads it as one word whose value is the argument, at
the beginning of a line and behind every complete line, whatever follows behind a blank. -/
structure StandsFor (text argument : String) : Prop where
  first : IsRead text.toList [plainWord argument.toList]
  behind : ∀ {line tokens}, IsRead line tokens →
    IsRead (line ++ ' ' :: text.toList) (tokens ++ [plainWord argument.toList])

/-- A text that is read as one word stands for its value. -/
lemma IsRead.standsFor {text argument : String}
    (h : IsRead text.toList [plainWord argument.toList]) : StandsFor text argument where
  first := h
  behind hline := hline.join h

end Shipyard.Shell
