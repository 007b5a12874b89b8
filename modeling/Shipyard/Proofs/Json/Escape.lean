import Mathlib.Tactic.SplitIfs
import Shipyard.Json.Draft
import Shipyard.Json.Printer

/-!
# Texts between quotes

A text is read back from what is written for it: every escape is the one of its character, and the
code points of characters hold no half of a surrogate pair.
-/

namespace Shipyard.Json

/-- The letter of a short escape stands for the character that it is written for. -/
lemma shortEscaped?_of_shortEscape? {c letter : Char} (h : shortEscape? c = some letter) :
    letter ≠ 'u' ∧ shortEscaped? letter = some c := by
  unfold shortEscape? at h
  split_ifs at h <;> cases h <;> subst_vars <;> decide

/-- A character without a short escape is neither a quote nor a backslash. -/
lemma ne_of_shortEscape? {c : Char} (h : shortEscape? c = none) : c ≠ '"' ∧ c ≠ '\\' := by
  constructor <;> rintro rfl <;> cases h

/-- A code below U+0020 is read back from its four hexadecimal digits. -/
lemma hexFour?_hexFour : ∀ n < 0x20,
    hexFour? '0' '0' (Nat.digitChar (n / 16)) (Nat.digitChar (n % 16)) = some n := by
  decide

/-- A character is read back from what is written for it, whatever stands behind. -/
lemma readCodes_escapeChar (c : Char) (cs : List Char) :
    readCodes (escapeChar c ++ cs) = (readCodes cs).map fun read => (c.toNat :: read.1, read.2) := by
  unfold escapeChar
  cases hshort : shortEscape? c with
  | some letter =>
    obtain ⟨hletter, hmeant⟩ := shortEscaped?_of_shortEscape? hshort
    change readCodes ('\\' :: letter :: cs) = _
    rw [readCodes.eq_4 _ _ fun _ _ _ _ _ hu _ => hletter hu, hmeant]
    cases readCodes cs <;> rfl
  | none =>
    obtain ⟨hquote, hslash⟩ := ne_of_shortEscape? hshort
    dsimp only
    by_cases hcontrol : c.toNat < 0x20
    · rw [if_pos hcontrol]
      change readCodes ('\\' :: 'u' :: '0' :: '0' :: _ :: _ :: cs) = _
      rw [readCodes, hexFour?_hexFour _ hcontrol]
      cases readCodes cs <;> rfl
    · rw [if_neg hcontrol, List.singleton_append,
        readCodes.eq_5 _ _ hquote (fun _ _ _ _ _ h _ => hslash h) (fun _ _ h _ => hslash h),
        if_neg (not_or.mpr ⟨hcontrol, hslash⟩)]
      cases readCodes cs <;> rfl

/-- A text is read back up to its closing quote. -/
lemma readCodes_escaped (cs rest : List Char) :
    readCodes (cs.flatMap escapeChar ++ '"' :: rest) = some (cs.map Char.toNat, rest) := by
  induction cs with
  | nil => rfl
  | cons c cs ih =>
    rw [List.flatMap_cons, List.append_assoc, readCodes_escapeChar, ih]
    rfl

/-- No character is half of a surrogate pair. -/
lemma not_isHalf (c : Char) : isHighHalf c.toNat = false ∧ isLowHalf c.toNat = false := by
  have hvalid : c.toNat < 0xD800 ∨ 0xDFFF < c.toNat ∧ c.toNat < 0x110000 := c.valid
  unfold isHighHalf isLowHalf
  simp only [Bool.and_eq_false_iff, decide_eq_false_iff_not]
  omega

/-- Code points of characters stand for these characters. -/
lemma joinHalves_map_toNat (cs : List Char) : joinHalves (cs.map Char.toNat) = some cs := by
  induction cs with
  | nil => rfl
  | cons c cs ih =>
    obtain ⟨hhigh, hlow⟩ := not_isHalf c
    cases cs with
    | nil =>
      rw [List.map_singleton, joinHalves, hhigh, hlow, Char.ofNat_toNat]
      rfl
    | cons d ds =>
      rw [List.map_cons] at ih
      rw [List.map_cons, List.map_cons, joinHalves, hhigh, hlow, ih, Char.ofNat_toNat]
      rfl

/-- A text is read back from what is written between its quotes. -/
lemma readText_escaped (s : String) (rest : List Char) :
    readText (s.toList.flatMap escapeChar ++ '"' :: rest) = (.text (some s), some rest) := by
  rw [readText, readCodes_escaped]
  simp only [joinHalves_map_toNat, Option.map_some, String.ofList_toList]

end Shipyard.Json
