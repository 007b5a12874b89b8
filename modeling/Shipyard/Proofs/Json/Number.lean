import Mathlib.Tactic.Common
import Shipyard.Json.Draft

/-!
# Numbers as text

A number is written with at least one character, and an integer that fits 64 bits is read back from
its digits, whatever stands behind them, as long as that cannot be taken for more of the number.
-/

namespace Shipyard

/-- Every layout of a decimal has a character. -/
lemma Decimal.Binary64.layout_ne_nil (d : Scaled) : layout d ≠ [] := by
  have hdigits : digitChars d.digits ≠ [] := Nat.toDigits_ne_nil
  unfold layout
  dsimp only
  split
  · split
    · contradiction
    · exact List.cons_ne_nil _ _
    · exact List.cons_ne_nil _ _
  · split
    · exact List.append_ne_nil_of_right_ne_nil _ (List.cons_ne_nil _ _)
    · split
      · exact List.append_ne_nil_of_right_ne_nil _ (List.cons_ne_nil _ _)
      · exact List.cons_ne_nil _ _

/-- A number is written with at least one character. -/
lemma Json.Number.toText_ne_empty (n : Number) : n.toText ≠ "" := by
  suffices h : ∃ chars, n.toText = String.ofList chars ∧ chars ≠ [] by
    obtain ⟨chars, htext, hchars⟩ := h
    rw [htext, ← String.ofList_nil]
    exact fun h => hchars (String.ofList_inj.mp h)
  cases n with
  | integer i =>
    exact ⟨_, rfl, List.append_ne_nil_of_right_ne_nil _ Nat.toDigits_ne_nil⟩
  | decimal x =>
    refine ⟨_, rfl, List.append_ne_nil_of_right_ne_nil _ ?_⟩
    split
    · exact List.cons_ne_nil _ _
    · exact Decimal.Binary64.layout_ne_nil _

/-! ## Integers -/

namespace Text

/-- The digits of a natural number have its value. -/
lemma decimalValue_toDigits (n : Nat) : decimalValue (Nat.toDigits 10 n) = n := by
  have h : Nat.ofDigitChars 10 (Nat.toDigits 10 n) 0 = n := Nat.ofDigitChars_ten_toDigits
  rwa [Nat.ofDigitChars_eq_foldl] at h

/-- Digits that are put behind a value do not make it smaller. -/
lemma le_foldl_decimalDigit (digits : List Char) (n : Nat) :
    n ≤ digits.foldl (fun n c => 10 * n + decimalDigit c) n := by
  induction digits generalizing n with
  | nil => exact Nat.le_refl n
  | cons d ds ih =>
    have hnext := ih (10 * n + decimalDigit d)
    rw [List.foldl_cons]
    omega

end Text

namespace Json

/-- The digits of a natural number other than zero do not begin with a zero. -/
lemma exists_toDigits_eq_cons {n : Nat} (hn : 0 < n) :
    ∃ d ds, Nat.toDigits 10 n = d :: ds ∧ d ≠ '0' := by
  induction n using Nat.strongRecOn with
  | _ n ih =>
    by_cases hsmall : n < 10
    · refine ⟨n.digitChar, [], Nat.toDigits_of_lt_base hsmall, fun hzero => ?_⟩
      have h : n = 0 := Nat.digitChar_eq_zero.mp hzero
      omega
    · obtain ⟨d, ds, hdigits, hd⟩ := ih (n / 10) (by omega) (by omega)
      refine ⟨d, ds ++ [(n % 10).digitChar], ?_, hd⟩
      rw [Nat.toDigits_of_base_le (by decide) (by omega), hdigits, List.cons_append]

/-- Every digit of a natural number is a decimal digit. -/
lemma isDigit_of_mem_toDigits {n : Nat} {c : Char} (h : c ∈ Nat.toDigits 10 n) :
    c.isDigit = true :=
  Nat.isDigit_of_mem_toDigits (by decide) (Nat.le_refl _) h

/-- What may follow a number without being taken for a part of it. -/
def EndsNumber (rest : List Char) : Prop :=
  ∀ c ∈ rest.head?, c.isDigit = false ∧ c ≠ '.' ∧ c ≠ 'e' ∧ c ≠ 'E'

/-- Nothing more of a number comes at the end of a text. -/
lemma endsNumber_nil : EndsNumber [] := by
  intro c hc
  cases hc

/-- A character of no number ends one. -/
lemma endsNumber_cons {c : Char} (hc : c.isDigit = false ∧ c ≠ '.' ∧ c ≠ 'e' ∧ c ≠ 'E')
    (rest : List Char) : EndsNumber (c :: rest) := by
  intro d hd
  cases hd
  exact hc

namespace Numeral

/-- Digits are taken up as long as the whole value is within the limit. -/
lemma takeUp_eq {n : Nat} {digits : List Char}
    (h : digits.foldl (fun n c => 10 * n + Text.decimalDigit c) n ≤ digitLimit) :
    takeUp n digits = (digits.foldl (fun n c => 10 * n + Text.decimalDigit c) n, []) := by
  induction digits generalizing n with
  | nil => rfl
  | cons d ds ih =>
    rw [List.foldl_cons] at h
    have hd := Text.le_foldl_decimalDigit ds (10 * n + Text.decimalDigit d)
    rw [takeUp, if_pos (Nat.le_trans hd h), ih h, List.foldl_cons]

/-- The digits of a natural number are read to their end. -/
lemma readWhole_toDigits (n : Nat) {rest : List Char} (hrest : EndsNumber rest) :
    readWhole (Nat.toDigits 10 n ++ rest) = some (Nat.toDigits 10 n, rest) := by
  rcases Nat.eq_zero_or_pos n with rfl | hn
  · rw [Nat.toDigits_zero]
    cases rest with
    | nil => rfl
    | cons c cs =>
      have hc : c.isDigit = false := (hrest c rfl).1
      simp [readWhole, hc]
  · obtain ⟨d, ds, hdigits, hzero⟩ := exists_toDigits_eq_cons hn
    have hall : ∀ c ∈ d :: ds, c.isDigit = true := by
      intro c hc
      exact isDigit_of_mem_toDigits (hdigits ▸ hc)
    have hstop : rest.takeWhile Char.isDigit = [] ∧ rest.dropWhile Char.isDigit = rest := by
      cases rest with
      | nil => exact ⟨rfl, rfl⟩
      | cons c cs =>
        have hc : ¬c.isDigit = true := by simp [(hrest c rfl).1]
        exact ⟨List.takeWhile_cons_of_neg hc, List.dropWhile_cons_of_neg hc⟩
    have hds : ∀ c ∈ ds, c.isDigit = true := fun c hc => hall c (List.mem_cons_of_mem _ hc)
    rw [hdigits, List.cons_append, readWhole.eq_3 _ _ (by grind) (by grind)]
    rw [if_pos (hall d List.mem_cons_self), List.takeWhile_append_of_pos hds,
      List.dropWhile_append_of_pos hds, hstop.1, hstop.2, List.append_nil]

/-- Behind the digits of an integer there is no fraction and no exponent. -/
lemma readUnsigned_toDigits (negative : Bool) (n : Nat) {rest : List Char}
    (hrest : EndsNumber rest) :
    readUnsigned negative (Nat.toDigits 10 n ++ rest) =
      some (⟨negative, Nat.toDigits 10 n, none, none⟩, rest) := by
  have hfraction : readFraction rest = some (none, rest) := by
    cases rest with
    | nil => rfl
    | cons c cs => exact readFraction.eq_2 _ fun cs' h => (hrest c rfl).2.1 (List.cons.inj h).1
  have hexponent : readExponent rest = some (none, rest) := by
    cases rest with
    | nil => rfl
    | cons c cs =>
      have hc : ¬(c = 'e' ∨ c = 'E') := not_or.mpr (hrest c rfl).2.2
      exact if_neg hc
  simp only [readUnsigned, readWhole_toDigits n hrest, hfraction, hexponent, Option.bind_eq_bind,
    Option.bind_some, Option.pure_def]

/-- Digits that stand for an integer of 64 bits are kept as an integer. -/
lemma value?_toDigits {negative : Bool} {n : Nat} {i : Int} (hn : n ≤ digitLimit)
    (hi : integer? negative n = some i) :
    value? ⟨negative, Nat.toDigits 10 n, none, none⟩ = some (.integer i) := by
  have hvalue : (Nat.toDigits 10 n).foldl (fun n c => 10 * n + Text.decimalDigit c) 0 = n :=
    Text.decimalValue_toDigits n
  have htaken : takeUp 0 (Nat.toDigits 10 n) = (n, []) := by
    rw [takeUp_eq (by rwa [hvalue]), hvalue]
  unfold value?
  simp only [htaken, hi]

end Numeral

/-- An integer that is kept as one: it fits 64 bits, with a sign or without. -/
def Fits64 (i : Int) : Prop := -9223372036854775808 ≤ i ∧ i ≤ 18446744073709551615

instance (i : Int) : Decidable (Fits64 i) := inferInstanceAs (Decidable (_ ∧ _))

/-- The characters of an integer: a minus sign if it is negative, and digits. -/
lemma toList_toText_integer (i : Int) :
    (Number.integer i).toText.toList =
      (if i < 0 then ['-'] else []) ++ Nat.toDigits 10 i.natAbs :=
  String.toList_ofList

/-- An integer that fits 64 bits is read back. -/
lemma readNumber_toText {i : Int} (hi : Fits64 i) {rest : List Char} (hrest : EndsNumber rest) :
    readNumber ((Number.integer i).toText.toList ++ rest) =
      (.number (some (.integer i)), some rest) := by
  unfold Fits64 at hi
  have hlimit : i.natAbs ≤ digitLimit := by
    unfold digitLimit
    omega
  rw [toList_toText_integer, readNumber]
  by_cases hneg : i < 0
  · have hvalue : Numeral.integer? true i.natAbs = some i := by
      have hbounds : 0 < i.natAbs ∧ i.natAbs ≤ 9223372036854775808 := by omega
      have habs : -(i.natAbs : Int) = i := by omega
      rw [Numeral.integer?, if_pos rfl, if_pos hbounds, habs]
    rw [if_pos hneg, List.append_assoc, List.singleton_append, Numeral.read,
      Numeral.readUnsigned_toDigits true _ hrest]
    simp only [Numeral.value?_toDigits hlimit hvalue]
  · have hvalue : Numeral.integer? false i.natAbs = some i := by
      have habs : (i.natAbs : Int) = i := by omega
      rw [Numeral.integer?, if_neg (by decide), habs]
    obtain ⟨d, ds, hdigits⟩ := List.exists_cons_of_ne_nil (Nat.toDigits_ne_nil (n := i.natAbs))
    have hd : d ≠ '-' := by
      rintro rfl
      have hdigit := isDigit_of_mem_toDigits (hdigits ▸ List.mem_cons_self)
      exact absurd hdigit (by decide)
    have hread : Numeral.read (Nat.toDigits 10 i.natAbs ++ rest) =
        Numeral.readUnsigned false (Nat.toDigits 10 i.natAbs ++ rest) := by
      rw [hdigits, List.cons_append]
      exact Numeral.read.eq_2 _ fun cs h => hd (List.cons.inj h).1
    rw [if_neg hneg, List.nil_append, hread, Numeral.readUnsigned_toDigits false _ hrest]
    simp only [Numeral.value?_toDigits hlimit hvalue]

end Json

end Shipyard
