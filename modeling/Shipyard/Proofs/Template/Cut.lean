import Mathlib.Data.List.Basic
import Mathlib.Data.List.TakeWhile
import Shipyard.Proofs.Template.Filling
import Shipyard.Proofs.Unicode.Apart

/-!
# Cutting a template

A template is cut from left to right. Where a placeholder begins, it is cut off as a whole, and
elsewhere a single character is. What a placeholder looks like is said without a search: double
braces, a name of word characters, and blanks around it. As blanks, word characters and braces are
apart, at most one placeholder begins at each place, and it is the one that is found there. So each
template can be cut in one way only.

The names of a template and what it is rendered to are read off this cut.
-/

namespace Shipyard.Template

open Text (isBlank)
open Unicode (isWordChar)

/-! ## Placeholders as they are written -/

/-- A placeholder may be written: its name consists of word characters, at least one, and around the
name there are blanks only. -/
structure Placeholder.IsWritten (p : Placeholder) : Prop where
  before : ∀ c ∈ p.before, isBlank c = true
  nonempty : p.name ≠ []
  name : ∀ c ∈ p.name, isWordChar c = true
  after : ∀ c ∈ p.after, isBlank c = true

/-- A run of characters of one kind ends where the next character is of another kind. -/
lemma takeWhile_append_of_head {p : Char → Bool} {run rest : List Char}
    (hrun : ∀ c ∈ run, p c = true) (hrest : ∀ c ∈ rest.head?, p c = false) :
    (run ++ rest).takeWhile p = run ∧ (run ++ rest).dropWhile p = rest := by
  rw [List.takeWhile_append_of_pos hrun, List.dropWhile_append_of_pos hrun]
  cases rest with
  | nil => simp
  | cons c rest =>
    have hc : p c = false := hrest c rfl
    simp [hc]

/-- A placeholder that is written at the front of a text is the one that is found there. -/
lemma leading?_source_append {p : Placeholder} (h : p.IsWritten) (rest : List Char) :
    leading? (p.source ++ rest) = some p := by
  obtain ⟨before, name, after⟩ := p
  obtain ⟨hbefore, hnonempty, hname, hafter⟩ := h
  dsimp only at hbefore hnonempty hname hafter
  have hsource : Placeholder.source ⟨before, name, after⟩ ++ rest =
      '{' :: '{' :: (before ++ (name ++ (after ++ '}' :: '}' :: rest))) := by
    simp [Placeholder.source]
  have hclose : ∀ c ∈ ('}' :: '}' :: rest).head?, isBlank c = false := by
    rintro c ⟨⟩
    decide
  -- behind the name there is a blank or a brace, and neither is a word character
  have hbehind : ∀ c ∈ (after ++ '}' :: '}' :: rest).head?, isWordChar c = false := by
    intro c hc
    cases after with
    | nil =>
      cases hc
      decide
    | cons d after =>
      cases hc
      rw [Bool.eq_false_iff]
      intro hword
      exact absurd (hafter c List.mem_cons_self) (by simp [Unicode.isBlank_of_isWordChar hword])
  have hinner : ∀ c ∈ (name ++ (after ++ '}' :: '}' :: rest)).head?, isBlank c = false := by
    intro c hc
    rw [List.head?_append_of_ne_nil _ hnonempty] at hc
    exact Unicode.isBlank_of_isWordChar (hname c (List.mem_of_mem_head? hc))
  have hempty : name.isEmpty = false := by simpa using hnonempty
  rw [hsource]
  simp only [leading?, takeWhile_append_of_head hbefore hinner,
    takeWhile_append_of_head hname hbehind, takeWhile_append_of_head hafter hclose, hempty,
    Bool.false_eq_true, if_false]

/-- A placeholder that is found may be written. -/
lemma isWritten_of_leading? {cs : List Char} {p : Placeholder} (h : leading? cs = some p) :
    p.IsWritten := by
  unfold leading? at h
  split at h
  · dsimp only at h
    split at h
    · split at h
      · cases h
      · rename_i hname
        obtain rfl := Option.some.inj h
        exact
          { before := fun c hc => List.mem_takeWhile_imp hc
            nonempty := by simpa using hname
            name := fun c hc => List.mem_takeWhile_imp hc
            after := fun c hc => List.mem_takeWhile_imp hc }
    · cases h
  · cases h

/-- The placeholder that is found is the one that is written there. -/
lemma leading?_eq_some_iff {cs : List Char} {p : Placeholder} :
    leading? cs = some p ↔ p.IsWritten ∧ p.source <+: cs := by
  constructor
  · exact fun h => ⟨isWritten_of_leading? h, leading?_prefix h⟩
  · rintro ⟨hwritten, rest, rfl⟩
    exact leading?_source_append hwritten rest

/-! ## The cut -/

/-- A text is cut into pieces from left to right: a placeholder is cut off if one begins, and
otherwise a character is. -/
inductive IsCut : List Char → List Segment → Prop where
  | nil : IsCut [] []
  | literal {c : Char} {text : List Char} {pieces : List Segment}
      (other : ∀ p : Placeholder, p.IsWritten → ¬ p.source <+: c :: text)
      (rest : IsCut text pieces) : IsCut (c :: text) (.literal c :: pieces)
  | placeholder {p : Placeholder} {text : List Char} {pieces : List Segment}
      (written : p.IsWritten) (rest : IsCut text pieces) :
      IsCut (p.source ++ text) (.placeholder p :: pieces)

/-- The characters that are already cut off are skipped. -/
lemma segmentsFrom_append (front rest : List Char) :
    segmentsFrom front.length (front ++ rest) = segmentsFrom 0 rest := by
  induction front with
  | nil => rfl
  | cons c front ih =>
    rw [List.length_cons, List.cons_append, segmentsFrom]
    exact ih

/-- What is found from left to right is a cut. -/
lemma isCut_segmentsFrom (cs : List Char) (skip : Nat) :
    IsCut (cs.drop skip) (segmentsFrom skip cs) := by
  induction cs generalizing skip with
  | nil =>
    rw [List.drop_nil, segmentsFrom]
    exact .nil
  | cons c cs ih =>
    cases skip with
    | succ skip =>
      rw [segmentsFrom, List.drop_succ_cons]
      exact ih skip
    | zero =>
      rw [segmentsFrom, List.drop_zero]
      cases hleading : leading? (c :: cs) with
      | none =>
        refine .literal (fun p hwritten hprefix => ?_) (ih 0)
        rw [leading?_eq_some_iff.mpr ⟨hwritten, hprefix⟩] at hleading
        cases hleading
      | some p =>
        obtain ⟨hwritten, rest, hrest⟩ := leading?_eq_some_iff.mp hleading
        have hlater : cs.drop (p.source.length - 1) = rest := by
          have hdrop : (c :: cs).drop p.source.length = rest := by rw [← hrest, List.drop_left]
          exact hdrop
        have hpieces := ih (p.source.length - 1)
        rw [hlater] at hpieces
        rw [← hrest]
        exact .placeholder hwritten hpieces

/-- There is only one cut of a text. -/
lemma IsCut.eq_segmentsFrom {text : List Char} {pieces : List Segment} (h : IsCut text pieces) :
    pieces = segmentsFrom 0 text := by
  induction h with
  | nil => rfl
  | @literal c text pieces other _ ih =>
    have hleading : leading? (c :: text) = none := by
      rw [Option.eq_none_iff_forall_ne_some]
      intro p hp
      obtain ⟨hwritten, hprefix⟩ := leading?_eq_some_iff.mp hp
      exact other p hwritten hprefix
    rw [segmentsFrom, hleading, ih]
  | @placeholder p text pieces written _ ih =>
    obtain ⟨tail, htail⟩ : ∃ tail, p.source = '{' :: tail := ⟨_, rfl⟩
    have hleading := leading?_source_append written text
    have hlength : p.source.length - 1 = tail.length := by rw [htail]; rfl
    rw [htail, List.cons_append] at hleading
    rw [htail, List.cons_append, segmentsFrom, hleading, ih]
    dsimp only
    rw [hlength, segmentsFrom_append]

/-- The pieces of a template are its only cut. -/
lemma isCut_iff {template : String} {pieces : List Segment} :
    IsCut template.toList pieces ↔ pieces = segments template :=
  ⟨IsCut.eq_segmentsFrom, fun h => h ▸ isCut_segmentsFrom template.toList 0⟩

/-! ## Names -/

/-- What is left out does not change which of two others appears first. -/
lemma idxOf_lt_of_filter {α : Type} [DecidableEq α] {keep : α → Bool} {xs : List α} {a b : α}
    (ha : keep a = true) (hb : keep b = true)
    (h : (xs.filter keep).idxOf a < (xs.filter keep).idxOf b) : xs.idxOf a < xs.idxOf b := by
  induction xs with
  | nil => simp at h
  | cons x xs ih =>
    by_cases hx : keep x = true
    · rw [List.filter_cons_of_pos hx] at h
      by_cases hxb : x = b
      · rw [hxb, List.idxOf_cons_self] at h
        exact absurd h (Nat.not_lt_zero _)
      · by_cases hxa : x = a
        · rw [List.idxOf_cons_ne _ hxb, hxa, List.idxOf_cons_self]
          exact Nat.succ_pos _
        · rw [List.idxOf_cons_ne _ hxa, List.idxOf_cons_ne _ hxb] at h ⊢
          exact Nat.succ_lt_succ (ih (Nat.lt_of_succ_lt_succ h))
    · rw [List.filter_cons_of_neg hx] at h
      have hxa : x ≠ a := fun heq => hx (heq ▸ ha)
      have hxb : x ≠ b := fun heq => hx (heq ▸ hb)
      rw [List.idxOf_cons_ne _ hxa, List.idxOf_cons_ne _ hxb]
      exact Nat.succ_lt_succ (ih h)

/-- Members listed once are listed in the order of their first appearance. -/
lemma pairwise_eraseDups {α : Type} [DecidableEq α] (xs : List α) :
    xs.eraseDups.Pairwise fun a b => xs.idxOf a < xs.idxOf b := by
  induction hlength : xs.length using Nat.strong_induction_on generalizing xs with
  | _ n ih =>
    cases xs with
    | nil => exact .nil
    | cons x xs =>
      rw [List.eraseDups_cons, List.pairwise_cons]
      have hother : ∀ y ∈ (xs.filter fun y => !y == x).eraseDups, x ≠ y := by
        intro y hy heq
        have hkept := (List.mem_filter.mp (List.mem_eraseDups.mp hy)).2
        simp [heq] at hkept
      have hshorter : (xs.filter fun y => !y == x).length < n := by
        have hle := List.length_filter_le (fun y => !y == x) xs
        rw [List.length_cons] at hlength
        omega
      refine ⟨fun y hy => ?_, (ih _ hshorter _ rfl).imp_of_mem fun {a b} ha hb hlt => ?_⟩
      · rw [List.idxOf_cons_self, List.idxOf_cons_ne _ (hother y hy)]
        exact Nat.succ_pos _
      · rw [List.idxOf_cons_ne _ (hother a ha), List.idxOf_cons_ne _ (hother b hb)]
        exact Nat.succ_lt_succ (idxOf_lt_of_filter (List.mem_filter.mp (List.mem_eraseDups.mp ha)).2
          (List.mem_filter.mp (List.mem_eraseDups.mp hb)).2 hlt)

/-! ## Rendering -/

variable {value : String → Option String} {template text : String}

/-- A text that pieces are filled to is all that they are filled to, and all their names are
known. -/
lemma Filled.eq_flatMap {pieces : List Segment} {text : List Char} (h : Filled value pieces text) :
    text = pieces.flatMap (Segment.fill value) ∧
      ∀ p, .placeholder p ∈ pieces → (value (String.ofList p.name)).isSome := by
  induction h with
  | nil => exact ⟨rfl, fun p hp => nomatch hp⟩
  | literal c _ ih =>
    refine ⟨by rw [List.flatMap_cons, ← ih.1]; rfl, fun p hp => ?_⟩
    rcases List.mem_cons.mp hp with heq | hp
    · cases heq
    · exact ih.2 p hp
  | placeholder p known _ ih =>
    refine ⟨?_, fun q hq => ?_⟩
    · rw [List.flatMap_cons, ← ih.1, Segment.fill, known, Option.getD_some]
    · rcases List.mem_cons.mp hq with heq | hq
      · obtain rfl := Segment.placeholder.inj heq
        rw [known]
        rfl
      · exact ih.2 q hq

/-- The names that a template refers to are those of its placeholders. -/
lemma mem_placeholders_iff {name : String} : name ∈ placeholders template ↔
    ∃ p, .placeholder p ∈ segments template ∧ String.ofList p.name = name := by
  constructor
  · intro h
    obtain ⟨piece, hpiece, hname⟩ := List.mem_filterMap.mp (List.mem_eraseDups.mp h)
    cases piece with
    | literal c => cases hname
    | placeholder p => exact ⟨p, hpiece, Option.some.inj hname⟩
  · rintro ⟨p, hp, rfl⟩
    exact mem_placeholders_of_mem hp

/-- What a template is rendered to is all that it is filled to. -/
lemma render_eq_ok_iff :
    render template value = .ok text ↔ Filled value (segments template) text.toList := by
  refine ⟨filled_of_render, fun h => ?_⟩
  obtain ⟨htext, hknown⟩ := h.eq_flatMap
  have hnames : ∀ name ∈ placeholders template, (value name).isSome := by
    intro name hname
    obtain ⟨p, hp, rfl⟩ := mem_placeholders_iff.mp hname
    exact hknown p hp
  rw [render_of_known hnames, ← htext, String.ofList_toList]

/-- A template is not rendered exactly if a name has no value, and the first such is reported. -/
lemma render_eq_error_iff {name : String} : render template value = .error name ↔
    ∃ front back, placeholders template = front ++ name :: back ∧
      (∀ other ∈ front, (value other).isSome) ∧ value name = none := by
  unfold render
  constructor
  · intro h
    split at h
    · rename_i hfind
      obtain rfl := Except.error.inj h
      obtain ⟨hname, front, back, hnames, hfront⟩ := List.find?_eq_some_iff_append.mp hfind
      refine ⟨front, back, hnames, fun other hother => ?_, by simpa using hname⟩
      have hknown := hfront other hother
      simpa [Option.isSome_iff_ne_none] using hknown
    · cases h
  · rintro ⟨front, back, hnames, hfront, hname⟩
    have hfind : (placeholders template).find? (fun name => (value name).isNone) = some name := by
      rw [List.find?_eq_some_iff_append]
      refine ⟨by simp [hname], front, back, hnames, fun other hother => ?_⟩
      simpa [Option.isSome_iff_ne_none] using hfront other hother
    rw [hfind]

end Shipyard.Template
