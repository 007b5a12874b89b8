import Mathlib.Data.List.Basic
import Mathlib.Data.List.TakeWhile
import Shipyard.Text.Blank

/-!
# What is cut off texts

Characters are dropped from the ends of a text as long as they are of some kind. What is dropped
from the end stands behind all that is left, and a text is blank exactly if nothing is left of it
when the blanks are taken from both ends.
-/

namespace Shipyard.Text

/-- What stands in front of the characters that are dropped at the end stays. -/
lemma dropEndWhile_cons {α : Type} {p : α → Bool} {x : α} (hx : p x = false) (xs : List α) :
    dropEndWhile p (x :: xs) = x :: dropEndWhile p xs := by
  unfold dropEndWhile
  rw [List.reverse_cons, List.dropWhile_append]
  split
  · rename_i hempty
    have hnil : xs.reverse.dropWhile p = [] := by simpa using hempty
    simp [hnil, hx]
  · rw [List.reverse_append]
    rfl

/-- What is left when the end is dropped is a beginning. -/
lemma dropEndWhile_prefix {α : Type} (p : α → Bool) (xs : List α) :
    dropEndWhile p xs <+: xs := by
  unfold dropEndWhile
  rw [← List.reverse_suffix, List.reverse_reverse]
  exact List.dropWhile_suffix p

/-- Of what is dropped from the end, any part may stand there or not. -/
lemma dropEndWhile_append {α : Type} {p : α → Bool} {back : List α} (h : ∀ x ∈ back, p x = true)
    (xs : List α) : dropEndWhile p (xs ++ back) = dropEndWhile p xs := by
  unfold dropEndWhile
  rw [List.reverse_append, List.dropWhile_append_of_pos]
  exact fun x hx => h x (List.mem_reverse.mp hx)

/-- What is dropped from the end stands behind all that is left. -/
lemma exists_dropEndWhile_append {α : Type} (p : α → Bool) (xs : List α) :
    ∃ back, (∀ x ∈ back, p x = true) ∧ xs = dropEndWhile p xs ++ back := by
  refine ⟨(xs.reverse.takeWhile p).reverse, ?_, ?_⟩
  · exact fun x hx => List.mem_takeWhile_imp (List.mem_reverse.mp hx)
  · unfold dropEndWhile
    rw [← List.reverse_append, List.takeWhile_append_dropWhile, List.reverse_reverse]

/-- The last of what is left when the end is dropped is not of the kind that is dropped. -/
lemma getLast?_dropEndWhile {α : Type} (p : α → Bool) (xs : List α) :
    ∀ x ∈ (dropEndWhile p xs).getLast?, p x = false := by
  unfold dropEndWhile
  rw [List.getLast?_reverse]
  exact fun x hx => by simpa [Option.mem_def.mp hx] using List.head?_dropWhile_not p xs.reverse

/-- Nothing is dropped from the end if the last one stays. -/
lemma dropEndWhile_eq_self {α : Type} {p : α → Bool} {xs : List α}
    (h : ∀ x ∈ xs.getLast?, p x = false) : dropEndWhile p xs = xs := by
  rcases List.eq_nil_or_concat xs with rfl | ⟨front, x, rfl⟩
  · rfl
  · have hx : p x = false := h x (by simp)
    unfold dropEndWhile
    simp [hx]

/-- A list from whose ends nothing can be taken: neither its first nor its last member is of the
kind that is taken. -/
structure IsStripped {α : Type} (p : α → Bool) (xs : List α) : Prop where
  head : ∀ x ∈ xs.head?, p x = false
  last : ∀ x ∈ xs.getLast?, p x = false

/-- A list is stripped if its first and its last member stay. -/
lemma isStripped_of_ends {α : Type} {p : α → Bool} {xs : List α} {a b : α}
    (hfirst : xs.head? = some a) (ha : p a = false) (hlast : xs.getLast? = some b)
    (hb : p b = false) : IsStripped p xs where
  head := by simpa [hfirst] using ha
  last := by simpa [hlast] using hb

/-- Between two ends from which nothing can be taken anything may stand. -/
lemma isStripped_append {α : Type} {p : α → Bool} {front back : List α} (hfront : front ≠ [])
    (hback : back ≠ []) (hhead : ∀ x ∈ front.head?, p x = false)
    (hlast : ∀ x ∈ back.getLast?, p x = false) (middle : List α) :
    IsStripped p (front ++ middle ++ back) where
  head := by
    rw [List.append_assoc, List.head?_append_of_ne_nil _ hfront]
    exact hhead
  last := by
    rw [List.getLast?_append_of_ne_nil _ hback]
    exact hlast

/-- A list that cannot be stripped is what is left of it with anything around it that can be taken
off. -/
lemma stripWhile_append {α : Type} {p : α → Bool} {front xs back : List α} (h : IsStripped p xs)
    (hfront : ∀ x ∈ front, p x = true) (hback : ∀ x ∈ back, p x = true) :
    stripWhile p (front ++ xs ++ back) = xs := by
  unfold stripWhile
  rw [List.append_assoc, List.dropWhile_append_of_pos hfront]
  cases xs with
  | nil =>
    rw [List.nil_append, List.dropWhile_eq_nil_iff.mpr hback]
    rfl
  | cons x xs =>
    have hx : p x = false := h.head x rfl
    rw [List.cons_append, List.dropWhile_cons_of_neg (by simp [hx]), ← List.cons_append,
      dropEndWhile_append hback, dropEndWhile_eq_self h.last]

/-- What is left between two cuts cannot be stripped further. -/
lemma isStripped_stripWhile {α : Type} (p : α → Bool) (xs : List α) :
    IsStripped p (stripWhile p xs) where
  head := by
    intro x hx
    obtain ⟨tail, htail⟩ := dropEndWhile_prefix p (xs.dropWhile p)
    have hfirst : (xs.dropWhile p).head? = some x := by
      rw [← htail, List.head?_append, ← stripWhile, Option.mem_def.mp hx]
      rfl
    simpa [hfirst] using List.head?_dropWhile_not p xs
  last := getLast?_dropEndWhile p _

/-- What is taken from the ends stands around what is left. -/
lemma exists_stripWhile_append {α : Type} (p : α → Bool) (xs : List α) :
    ∃ front back, (∀ x ∈ front, p x = true) ∧ (∀ x ∈ back, p x = true) ∧
      xs = front ++ stripWhile p xs ++ back := by
  obtain ⟨back, hback, hrest⟩ := exists_dropEndWhile_append p (xs.dropWhile p)
  refine ⟨xs.takeWhile p, back, fun x => List.mem_takeWhile_imp, hback, ?_⟩
  rw [List.append_assoc, stripWhile, ← hrest, List.takeWhile_append_dropWhile]

/-- What is left between two cuts stands in one piece. -/
lemma stripWhile_infix_self {α : Type} (p : α → Bool) (xs : List α) : stripWhile p xs <:+: xs := by
  obtain ⟨front, back, -, -, hxs⟩ := exists_stripWhile_append p xs
  exact ⟨front, back, hxs.symm⟩

/-- A list stays as it is exactly if it cannot be stripped. -/
lemma stripWhile_eq_self_iff {α : Type} {p : α → Bool} {xs : List α} :
    stripWhile p xs = xs ↔ IsStripped p xs := by
  constructor
  · intro h
    exact h ▸ isStripped_stripWhile p xs
  · intro h
    have hstrip := stripWhile_append h (List.forall_mem_nil _) (List.forall_mem_nil _)
    rwa [List.nil_append, List.append_nil] at hstrip

/-- Cutting at both ends is the same in both directions. -/
lemma stripWhile_reverse {α : Type} (p : α → Bool) (xs : List α) :
    stripWhile p xs.reverse = (stripWhile p xs).reverse := by
  obtain ⟨front, back, hfront, hback, hxs⟩ := exists_stripWhile_append p xs
  have hstripped : IsStripped p (stripWhile p xs).reverse :=
    { head := by simpa using (isStripped_stripWhile p xs).last
      last := by simpa using (isStripped_stripWhile p xs).head }
  have hreverse : xs.reverse = back.reverse ++ (stripWhile p xs).reverse ++ front.reverse := by
    conv_lhs => rw [hxs]
    simp
  rw [hreverse]
  exact stripWhile_append hstripped (fun x hx => hback x (List.mem_reverse.mp hx))
    fun x hx => hfront x (List.mem_reverse.mp hx)

/-- Nothing is left between two cuts exactly if everything is cut off. -/
lemma stripWhile_eq_nil_iff {α : Type} {p : α → Bool} {xs : List α} :
    stripWhile p xs = [] ↔ ∀ x ∈ xs, p x = true := by
  unfold stripWhile dropEndWhile
  rw [List.reverse_eq_nil_iff, List.dropWhile_eq_nil_iff]
  constructor
  · intro h x hx
    rw [← List.takeWhile_append_dropWhile (p := p) (l := xs), List.mem_append] at hx
    rcases hx with hx | hx
    · exact List.mem_takeWhile_imp hx
    · exact h x (List.mem_reverse.mpr hx)
  · intro h x hx
    exact h x ((List.dropWhile_suffix p).subset (List.mem_reverse.mp hx))

/-- A text is blank exactly if nothing is left of it. -/
lemma trim_eq_empty_iff {s : String} : trim s = "" ↔ isBlankText s = true := by
  unfold trim trimChars isBlankText
  rw [← String.ofList_nil, String.ofList_inj, stripWhile_eq_nil_iff, List.all_eq_true]

end Shipyard.Text
