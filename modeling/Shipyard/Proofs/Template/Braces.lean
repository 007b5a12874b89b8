import Mathlib.Data.List.Infix
import Mathlib.Data.List.TakeWhile
import Shipyard.Proofs.Template.Filling

/-!
# Braces in filled templates

Two opening braces side by side are how a placeholder begins. Not every such pair belongs to a
placeholder, though: a template has *stray braces* if the two stand side by side between its
placeholders. Filling a template takes away the braces of its placeholders and leaves all others
where they are. So as long as the values are not empty and bring no opening brace along, there is a
pair of braces in a filled template exactly if the template has stray ones.
-/

namespace Shipyard.Template

/-- Two opening braces stand side by side in a text. -/
def HasBracePair (text : List Char) : Prop :=
  ['{', '{'] <:+: text

/-- Two opening braces stand side by side in a template, and neither belongs to a placeholder. -/
def HasStrayBraces (template : String) : Prop :=
  [Segment.literal '{', Segment.literal '{'] <:+: segments template

instance (text : List Char) : Decidable (HasBracePair text) :=
  inferInstanceAs (Decidable (['{', '{'] <:+: text))

instance (template : String) : Decidable (HasStrayBraces template) :=
  inferInstanceAs (Decidable (_ <:+: segments template))

/-- A pair of braces at the head is a brace with a brace behind it. -/
lemma hasBracePair_cons {c : Char} {text : List Char} :
    HasBracePair (c :: text) ↔ (c = '{' ∧ ['{'] <+: text) ∨ HasBracePair text := by
  unfold HasBracePair
  rw [List.infix_cons_iff, List.cons_prefix_cons, eq_comm]

/-- There is no pair of braces at the border of a text without opening braces. -/
lemma hasBracePair_append {front text : List Char} (h : '{' ∉ front) :
    HasBracePair (front ++ text) ↔ HasBracePair text := by
  induction front with
  | nil => rfl
  | cons c front ih =>
    rw [List.mem_cons, not_or] at h
    rw [List.cons_append, hasBracePair_cons, ih h.2]
    exact or_iff_right fun hpair => h.1 hpair.1.symm

/-- A text has a pair of braces exactly if it has one when it is read backwards. -/
lemma hasBracePair_reverse {text : List Char} : HasBracePair text.reverse ↔ HasBracePair text := by
  change ['{', '{'].reverse <:+: text.reverse ↔ _
  exact List.reverse_infix

/-- There is no pair of braces at the border of a text without opening braces behind another. -/
lemma hasBracePair_append_right {text back : List Char} (h : '{' ∉ back) :
    HasBracePair (text ++ back) ↔ HasBracePair text := by
  rw [← hasBracePair_reverse, List.reverse_append,
    hasBracePair_append fun hmem => h (List.mem_reverse.mp hmem), hasBracePair_reverse]

/-- Characters other than the brace have no part in a pair of braces when they are dropped. -/
lemma hasBracePair_dropWhile {p : Char → Bool} (hp : p '{' = false) {text : List Char} :
    HasBracePair (text.dropWhile p) ↔ HasBracePair text := by
  have hfree : '{' ∉ text.takeWhile p := by
    intro hmem
    rw [List.mem_takeWhile_imp hmem] at hp
    cases hp
  conv_rhs => rw [← List.takeWhile_append_dropWhile (p := p) (l := text)]
  rw [hasBracePair_append hfree]

/-- Nor have they when they are dropped from the end. -/
lemma hasBracePair_dropEndWhile {p : Char → Bool} (hp : p '{' = false) {text : List Char} :
    HasBracePair (Text.dropEndWhile p text) ↔ HasBracePair text := by
  unfold Text.dropEndWhile
  rw [hasBracePair_reverse, hasBracePair_dropWhile hp, hasBracePair_reverse]

section Filled

variable {value : String → Option String} {pieces : List Segment} {text : List Char}

/-- A filled template begins with an opening brace exactly if the template begins with one outside
of a placeholder. -/
lemma Filled.brace_prefix_iff (h : Filled value pieces text)
    (hvalue : ∀ name inserted, value name = some inserted → inserted ≠ "" ∧ '{' ∉ inserted.toList) :
    ['{'] <+: text ↔ [Segment.literal '{'] <+: pieces := by
  cases h with
  | nil => simp
  | literal c rest => simp [List.cons_prefix_cons]
  | placeholder p known rest =>
    obtain ⟨hinserted, hbrace⟩ := hvalue _ _ known
    obtain ⟨c, cs, hcs⟩ :=
      List.exists_cons_of_ne_nil fun hnil => hinserted (String.toList_eq_nil_iff.mp hnil)
    rw [hcs, List.mem_cons, not_or] at hbrace
    refine iff_of_false ?_ ?_
    · rw [hcs, List.cons_append, List.cons_prefix_cons]
      exact fun hprefix => hbrace.1 hprefix.1
    · rw [List.cons_prefix_cons]
      rintro ⟨⟨⟩, -⟩

/-- A filled template has a pair of braces exactly if the template has stray ones. -/
lemma Filled.hasBracePair_iff (h : Filled value pieces text)
    (hvalue : ∀ name inserted, value name = some inserted → inserted ≠ "" ∧ '{' ∉ inserted.toList) :
    HasBracePair text ↔ [Segment.literal '{', Segment.literal '{'] <:+: pieces := by
  induction h with
  | nil => simp [HasBracePair]
  | literal c rest ih =>
    rw [hasBracePair_cons, ih, List.infix_cons_iff, List.cons_prefix_cons,
      rest.brace_prefix_iff hvalue, Segment.literal.injEq, eq_comm]
  | placeholder p known rest ih =>
    rw [hasBracePair_append (hvalue _ _ known).2, ih, List.infix_cons_iff, List.cons_prefix_cons]
    refine (or_iff_right ?_).symm
    rintro ⟨⟨⟩, -⟩

end Filled

end Shipyard.Template
