import Mathlib.Data.List.Basic
import Shipyard.Template

/-!
# Filled templates

A template is rendered if there is a value for each name that it refers to. What comes of it is the
template *filled*: it is gone through piece by piece, a character stands for itself and a
placeholder for the value of its name. Nothing of the template is lost between its pieces, and
inserted text is not looked at again.
-/

namespace Shipyard.Template

variable {value : String → Option String} {template text : String}

/-- A text is what pieces of a template become when each placeholder is replaced by the value of its
name. -/
inductive Filled (value : String → Option String) : List Segment → List Char → Prop where
  | nil : Filled value [] []
  | literal (c : Char) {pieces : List Segment} {text : List Char}
      (rest : Filled value pieces text) : Filled value (.literal c :: pieces) (c :: text)
  | placeholder (p : Placeholder) {inserted : String} {pieces : List Segment} {text : List Char}
      (known : value (String.ofList p.name) = some inserted)
      (rest : Filled value pieces text) :
      Filled value (.placeholder p :: pieces) (inserted.toList ++ text)

/-! ## Pieces -/

/-- The text begins with the placeholder that it is found to begin with. -/
lemma leading?_prefix {cs : List Char} {p : Placeholder} (h : leading? cs = some p) :
    p.source <+: cs := by
  unfold leading? at h
  split at h
  · rename_i cs
    dsimp only at h
    split at h
    · rename_i rest hrest
      split at h
      · cases h
      · obtain rfl := Option.some.inj h
        refine ⟨rest, ?_⟩
        simp only [Placeholder.source, List.append_assoc, List.cons_append, List.nil_append]
        rw [← hrest, List.takeWhile_append_dropWhile, List.takeWhile_append_dropWhile,
          List.takeWhile_append_dropWhile]
    · cases h
  · cases h

/-- The pieces of a text give the text without what was already cut off. -/
lemma segmentsFrom_source (cs : List Char) (skip : Nat) :
    (segmentsFrom skip cs).flatMap Segment.source = cs.drop skip := by
  induction cs generalizing skip with
  | nil => simp [segmentsFrom]
  | cons c cs ih =>
    cases skip with
    | succ skip => rw [segmentsFrom, ih, List.drop_succ_cons]
    | zero =>
      rw [segmentsFrom]
      cases hleading : leading? (c :: cs) with
      | none => simp only [List.flatMap_cons, ih, Segment.source]; rfl
      | some p =>
        -- the first character of the placeholder is at hand, the others are what is cut off
        obtain ⟨rest, hrest⟩ := leading?_prefix hleading
        obtain ⟨tail, htail⟩ : ∃ tail, p.source = '{' :: tail := ⟨_, rfl⟩
        rw [htail, List.cons_append] at hrest
        obtain ⟨rfl, rfl⟩ := List.cons.inj hrest
        simp only [List.flatMap_cons, ih, Segment.source, htail, List.length_cons,
          Nat.add_sub_cancel, List.drop_left, List.cons_append, List.drop_zero]

/-- The pieces of a template, one after another, are the template. -/
theorem segments_source (template : String) :
    (segments template).flatMap Segment.source = template.toList :=
  segmentsFrom_source template.toList 0

/-! ## Filling -/

/-- A template refers to the names of its placeholders. -/
lemma mem_placeholders_of_mem {p : Placeholder} (h : .placeholder p ∈ segments template) :
    String.ofList p.name ∈ placeholders template :=
  List.mem_eraseDups.mpr (List.mem_filterMap.mpr ⟨_, h, rfl⟩)

/-- A template is rendered if there is a value for each name that it refers to. -/
lemma render_of_known (h : ∀ name ∈ placeholders template, (value name).isSome) :
    render template value =
      .ok (String.ofList ((segments template).flatMap (Segment.fill value))) := by
  have hnone : (placeholders template).find? (fun name => (value name).isNone) = none :=
    List.find?_eq_none.mpr fun name hname => by
      simpa using Option.isSome_iff_ne_none.mp (h name hname)
  unfold render
  rw [hnone]

/-- A template that refers to no name is rendered to itself. -/
lemma render_eq_self (h : placeholders template = []) : render template value = .ok template := by
  have hfill : ∀ piece ∈ segments template, Segment.fill value piece = piece.source := by
    intro piece hpiece
    cases piece with
    | literal c => rfl
    | placeholder p =>
      have hmem := mem_placeholders_of_mem hpiece
      rw [h] at hmem
      cases hmem
  rw [render_of_known (h ▸ List.forall_mem_nil _), List.flatMap_congr hfill, segments_source,
    String.ofList_toList]

/-- There is a value for each name that a rendered template refers to. -/
lemma known_of_render (h : render template value = .ok text) :
    ∀ name ∈ placeholders template, (value name).isSome := by
  intro name hname
  unfold render at h
  split at h
  · cases h
  · rename_i hnone
    exact Option.isSome_iff_ne_none.mpr (by simpa using List.find?_eq_none.mp hnone name hname)

/-- Pieces with known names are filled. -/
lemma filled_of_known {pieces : List Segment}
    (h : ∀ p, .placeholder p ∈ pieces → (value (String.ofList p.name)).isSome) :
    Filled value pieces (pieces.flatMap (Segment.fill value)) := by
  induction pieces with
  | nil => exact .nil
  | cons piece pieces ih =>
    have hrest := ih fun p hp => h p (List.mem_cons_of_mem _ hp)
    rw [List.flatMap_cons]
    cases piece with
    | literal c => exact .literal c hrest
    | placeholder p =>
      obtain ⟨inserted, hinserted⟩ := Option.isSome_iff_exists.mp (h p List.mem_cons_self)
      rw [Segment.fill, hinserted, Option.getD_some]
      exact .placeholder p hinserted hrest

/-- What a template is rendered to is the template filled. -/
theorem filled_of_render (h : render template value = .ok text) :
    Filled value (segments template) text.toList := by
  have hknown := known_of_render h
  rw [render_of_known hknown] at h
  obtain rfl := Except.ok.inj h
  rw [String.toList_ofList]
  exact filled_of_known fun p hp => hknown _ (mem_placeholders_of_mem hp)

/-- A character that does not open a placeholder stays at the head. -/
lemma head_of_render {c : Char} (hc : c ≠ '{') (hhead : template.toList.head? = some c)
    (h : render template value = .ok text) : text.toList.head? = some c := by
  obtain ⟨cs, hcs⟩ : ∃ cs, template.toList = c :: cs := List.head?_eq_some_iff.mp hhead
  have hleading : leading? (c :: cs) = none := by
    unfold leading?
    split
    · rename_i heq
      exact absurd (List.cons.inj heq).1 hc
    · rfl
  have hpieces : segments template = .literal c :: segmentsFrom 0 cs := by
    rw [segments, hcs, segmentsFrom, hleading]
  have hfilled := filled_of_render h
  rw [hpieces] at hfilled
  generalize text.toList = filled at hfilled ⊢
  cases hfilled
  rfl

end Shipyard.Template
