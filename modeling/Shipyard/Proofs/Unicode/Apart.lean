import Mathlib
import Shipyard.Text.Blank
import Shipyard.Unicode.Word

/-!
# Word characters are not blank

No character of a name is white space. Below U+0080 this is seen from the ranges of letters and
digits. Above, word characters are the union of some tables, and it is enough to look at the texts
of these tables: the operations on sets of code points sort and join ranges, but they do not bring
in any code point that is in none of them.
-/

namespace Shipyard.Unicode

/-! ## What sets are made of -/

/-- A code point lies within one of some ranges. -/
def Covers (ranges : List (Nat × Nat)) (n : Nat) : Prop :=
  ∃ r ∈ ranges, r.1 ≤ n ∧ n ≤ r.2

/-- Joined ranges cover no more than the ranges themselves: what lies between two that are joined
belongs to one of them. -/
lemma covers_of_joinRanges {ranges : List (Nat × Nat)} {r : Nat × Nat} {n : Nat}
    (h : Covers (joinRanges r ranges) n) : Covers (r :: ranges) n := by
  induction ranges generalizing r with
  | nil => exact h
  | cons s ranges ih =>
    rw [joinRanges] at h
    split at h
    · rename_i hjoined
      obtain ⟨t, ht, hlow, hhigh⟩ := ih h
      rcases List.mem_cons.mp ht with rfl | ht
      · rcases Nat.lt_or_ge r.2 n with hlt | hge
        · refine ⟨s, by simp, ?_, ?_⟩
          · omega
          · have hmax : n ≤ max r.2 s.2 := hhigh
            omega
        · exact ⟨r, List.mem_cons_self, hlow, hge⟩
      · exact ⟨t, List.mem_cons_of_mem _ (List.mem_cons_of_mem _ ht), hlow, hhigh⟩
    · obtain ⟨t, ht, hrange⟩ := h
      rcases List.mem_cons.mp ht with rfl | ht
      · exact ⟨t, List.mem_cons_self, hrange⟩
      · obtain ⟨u, hu, hwithin⟩ := ih ⟨t, ht, hrange⟩
        exact ⟨u, List.mem_cons_of_mem _ hu, hwithin⟩

/-- Ranges in order cover no more than the ranges themselves. -/
lemma covers_of_tidyRanges {ranges : List (Nat × Nat)} {n : Nat} (h : Covers (tidyRanges ranges) n) :
    Covers ranges n := by
  have hsorted : Covers ((ranges.filter fun r => r.1 ≤ r.2).mergeSort fun r s => r.1 ≤ s.1) n := by
    unfold tidyRanges at h
    split at h
    · obtain ⟨r, hr, -⟩ := h
      cases hr
    · rename_i hsorted
      rw [hsorted]
      exact covers_of_joinRanges h
  obtain ⟨r, hr, hrange⟩ := hsorted
  exact ⟨r, List.mem_of_mem_filter (List.mem_mergeSort.mp hr), hrange⟩

namespace CodeSet

/-- A set has the code points within its ranges. -/
lemma has_iff_covers {s : CodeSet} {n : Nat} : s.has n = true ↔ Covers s.ranges n := by
  simp [has, Covers]

/-- What is in one of some sets together is in one of them. -/
lemma exists_has_of_unions {sets : List CodeSet} {n : Nat} (h : (unions sets).has n = true) :
    ∃ s ∈ sets, s.has n = true := by
  obtain ⟨r, hr, hrange⟩ := covers_of_tidyRanges (has_iff_covers.mp h)
  obtain ⟨s, hs, hr⟩ := List.mem_flatMap.mp hr
  exact ⟨s, hs, has_iff_covers.mpr ⟨r, hr, hrange⟩⟩

/-- What is in two sets together is in one of them. -/
lemma has_or_has_of_union {a b : CodeSet} {n : Nat} (h : (a.union b).has n = true) :
    a.has n = true ∨ b.has n = true := by
  obtain ⟨r, hr, hrange⟩ := covers_of_tidyRanges (has_iff_covers.mp h)
  exact (List.mem_append.mp hr).imp (fun hr => has_iff_covers.mpr ⟨r, hr, hrange⟩)
    fun hr => has_iff_covers.mpr ⟨r, hr, hrange⟩

/-! ## Sets without blanks -/

/-- No code point of a set is white space. -/
def NoBlanks (s : CodeSet) : Prop :=
  ∀ n, s.has n = true → Text.blankSet.has n = false

/-- There is no white space in sets together if there is none in any of them. -/
lemma noBlanks_unions {sets : List CodeSet} (h : ∀ s ∈ sets, s.NoBlanks) :
    (unions sets).NoBlanks := by
  intro n hn
  obtain ⟨s, hs, hn⟩ := exists_has_of_unions hn
  exact h s hs n hn

/-- There is no white space in two sets together if there is none in either. -/
lemma NoBlanks.union {a b : CodeSet} (ha : a.NoBlanks) (hb : b.NoBlanks) : (a.union b).NoBlanks :=
  fun n hn => (has_or_has_of_union hn).elim (ha n) (hb n)

/-- There is no white space in a set if none of the ranges in its text meets a range of blanks. The
text is given by its characters, so that they need not be decoded. -/
lemma noBlanks_ofText {codes : List Char}
    (h : (((words codes).flatMap wordRanges).all fun r =>
      Text.blankSet.ranges.all fun b => r.2 < b.1 || b.2 < r.1) = true) :
    (ofText (String.ofList codes)).NoBlanks := by
  intro n hn
  obtain ⟨r, hr, hlow, hhigh⟩ := covers_of_tidyRanges (has_iff_covers.mp hn)
  rw [String.toList_ofList] at hr
  rw [Bool.eq_false_iff]
  intro hblank
  obtain ⟨b, hb, hblow, hbhigh⟩ := has_iff_covers.mp hblank
  have happart := List.all_eq_true.mp (List.all_eq_true.mp h r hr) b hb
  simp only [Bool.or_eq_true, decide_eq_true_eq] at happart
  omega

end CodeSet

/-- The rows of a table that go by one of some names are without white space. -/
def RowsNoBlanks (entries : List Entry) (names : List String) : Prop :=
  ∀ e ∈ entries, (e.names.any names.contains) = true → e.set.NoBlanks

/-- There is no white space in the sets under some names if there is none in the rows that go by
these names and perhaps by others. -/
lemma RowsNoBlanks.setOf {entries : List Entry} {names some : List String}
    (h : RowsNoBlanks entries names) (hsome : some ⊆ names) : (Entry.setOf entries some).NoBlanks := by
  refine CodeSet.noBlanks_unions fun s hs => ?_
  obtain ⟨name, hname, hfind⟩ := List.mem_filterMap.mp hs
  obtain ⟨e, he, rfl⟩ := Option.map_eq_some_iff.mp hfind
  have hcontains := List.find?_some he
  refine h e (List.mem_of_find?_eq_some he) (List.any_eq_true.mpr ⟨name, ?_, ?_⟩)
  · simpa using hcontains
  · simpa using hsome hname

/-! ## The tables of word characters -/

set_option maxRecDepth 100000 in
/-- There is no white space among the letters and the numbers that are letters. -/
lemma rowsNoBlanks_letters :
    RowsNoBlanks categoryEntries ["lu", "ll", "lt", "lm", "lo", "nl"] := by
  unfold RowsNoBlanks categoryEntries
  repeat' refine List.forall_mem_cons.mpr ⟨?_, ?_⟩
  -- a row either goes by another name or its text is looked through
  all_goals first
    | exact List.forall_mem_nil _
    | exact fun h => absurd h (by decide)
    | exact fun _ => CodeSet.noBlanks_ofText (by decide +kernel)

set_option maxRecDepth 100000 in
/-- There is no white space among the marks, the decimal digits and the connectors. -/
lemma rowsNoBlanks_marks :
    RowsNoBlanks categoryEntries ["mn", "mc", "me", "nd", "pc"] := by
  unfold RowsNoBlanks categoryEntries
  repeat' refine List.forall_mem_cons.mpr ⟨?_, ?_⟩
  all_goals first
    | exact List.forall_mem_nil _
    | exact fun h => absurd h (by decide)
    | exact fun _ => CodeSet.noBlanks_ofText (by decide +kernel)

set_option maxRecDepth 100000 in
/-- There is no white space among what counts as a letter and the joiners. -/
lemma rowsNoBlanks_properties :
    RowsNoBlanks propertyEntries ["joinc", "oalpha", "olower", "oupper"] := by
  unfold RowsNoBlanks propertyEntries
  repeat' refine List.forall_mem_cons.mpr ⟨?_, ?_⟩
  all_goals first
    | exact List.forall_mem_nil _
    | exact fun h => absurd h (by decide)
    | exact fun _ => CodeSet.noBlanks_ofText (by decide +kernel)

/-- There is no white space among the word characters of the tables. -/
lemma noBlanks_wordSet : wordSet.NoBlanks := by
  have hlower : lowercase.NoBlanks :=
    (rowsNoBlanks_letters.setOf (by simp)).union (rowsNoBlanks_properties.setOf (by simp))
  have hupper : uppercase.NoBlanks :=
    (rowsNoBlanks_letters.setOf (by simp)).union (rowsNoBlanks_properties.setOf (by simp))
  have halphabetic : alphabetic.NoBlanks := by
    refine CodeSet.noBlanks_unions (List.forall_mem_cons.mpr ⟨hlower, List.forall_mem_cons.mpr
      ⟨hupper, List.forall_mem_cons.mpr ⟨?_, List.forall_mem_singleton.mpr ?_⟩⟩⟩)
    · exact rowsNoBlanks_letters.setOf (by simp)
    · exact rowsNoBlanks_properties.setOf (by simp)
  refine CodeSet.noBlanks_unions (List.forall_mem_cons.mpr ⟨halphabetic,
    List.forall_mem_cons.mpr ⟨?_, List.forall_mem_singleton.mpr ?_⟩⟩)
  · exact rowsNoBlanks_marks.setOf (by simp)
  · exact rowsNoBlanks_properties.setOf (by simp)

/-! ## Word characters -/

/-- A letter, a digit and the underscore below U+0080 are not blank. -/
lemma isBlank_of_isAsciiWordChar {c : Char} (h : isAsciiWordChar c = true) :
    Text.isBlank c = false := by
  -- all of them lie between the digit zero and the small z
  have hcode : 48 ≤ c.toNat ∧ c.toNat ≤ 122 := by
    simp only [isAsciiWordChar, Char.isAlphanum, Char.isAlpha, Char.isUpper, Char.isLower,
      Char.isDigit, Bool.or_eq_true, Bool.and_eq_true, decide_eq_true_eq, beq_iff_eq,
      ge_iff_le, UInt32.le_iff_toNat_le] at h
    rw [← Char.toNat_val]
    rcases h with ((⟨hlow, hhigh⟩ | ⟨hlow, hhigh⟩) | ⟨hlow, hhigh⟩) | rfl
    · exact ⟨Nat.le_trans (by decide) hlow, Nat.le_trans hhigh (by decide)⟩
    · exact ⟨Nat.le_trans (by decide) hlow, Nat.le_trans hhigh (by decide)⟩
    · exact ⟨Nat.le_trans (by decide) hlow, Nat.le_trans hhigh (by decide)⟩
    · decide
  simp [Text.isBlank, CodeSet.hasChar, CodeSet.has, Text.blankSet]
  omega

/-- No character of a name is blank. -/
theorem isBlank_of_isWordChar {c : Char} (h : isWordChar c = true) : Text.isBlank c = false := by
  unfold isWordChar at h
  split at h
  · exact isBlank_of_isAsciiWordChar h
  · exact noBlanks_wordSet c.toNat h

end Shipyard.Unicode
