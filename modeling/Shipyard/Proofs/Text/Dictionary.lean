import Mathlib.Data.List.Basic
import Shipyard.Text.Dictionary

/-!
# What stands under a key

What was put under a key last stands there, and what stands under other keys stays. The order of the
keys is not needed for this. Entries that already stand in the order of their keys are kept as they
are.
-/

namespace Shipyard.Dictionary

variable {α : Type}

/-- The first entry with a key counts. -/
lemma get?_cons (entry : String × α) (entries : Dictionary α) (key : String) :
    get? (entry :: entries) key = if entry.1 = key then some entry.2 else get? entries key := by
  unfold get?
  by_cases h : entry.1 = key
  · rw [if_pos h, List.find?_cons_of_pos (by simpa using h), Option.map_some]
  · rw [if_neg h, List.find?_cons_of_neg (by simpa using h)]

/-- What is put under a key stands there, and what stands under other keys stays. -/
lemma get?_insert (key : String) (value : α) (entries : Dictionary α) (other : String) :
    get? (insert key value entries) other =
      if key = other then some value else get? entries other := by
  induction entries with
  | nil => rw [insert, get?_cons]
  | cons entry entries ih =>
    rw [insert]
    split
    · rw [get?_cons]
    · split
      · rename_i heq
        rw [get?_cons, get?_cons, ← heq]
        by_cases h : key = other
        · rw [if_pos h, if_pos h]
        · rw [if_neg h, if_neg h, if_neg h]
      · rename_i hne
        rw [get?_cons, get?_cons, ih]
        by_cases h : entry.1 = other
        · rw [if_pos h, if_pos h, if_neg fun hkey => hne (hkey.trans h.symm)]
        · rw [if_neg h, if_neg h]

/-- Of entries that are put in one after another, the last one with a key counts. -/
lemma get?_foldl_insert (found entries : Dictionary α) (key : String) :
    get? (found.foldl (fun d e => insert e.1 e.2 d) entries) key =
      (((found.filter fun e => e.1 = key).map Prod.snd).getLast?).or (get? entries key) := by
  induction found generalizing entries with
  | nil => rfl
  | cons e found ih =>
    rw [List.foldl_cons, ih, get?_insert]
    by_cases h : e.1 = key
    · rw [if_pos h, List.filter_cons_of_pos (by simpa using h), List.map_cons, List.getLast?_cons]
      cases ((found.filter fun e => e.1 = key).map Prod.snd).getLast? <;> rfl
    · rw [if_neg h, List.filter_cons_of_neg (by simpa using h)]

/-- An entry behind all others is put at the end. -/
lemma insert_eq_append {key : String} {entries : Dictionary α} (h : ∀ e ∈ entries, e.1 < key)
    (value : α) : insert key value entries = entries ++ [(key, value)] := by
  induction entries with
  | nil => rfl
  | cons e entries ih =>
    have hlt : e.1 < key := h e List.mem_cons_self
    have hne : key ≠ e.1 := by
      rintro rfl
      exact String.lt_irrefl _ hlt
    rw [insert, if_neg (String.lt_asymm hlt), if_neg hne,
      ih fun f hf => h f (List.mem_cons_of_mem _ hf), List.cons_append]

/-- What is among the entries behind an insertion was put in or was there. -/
lemma eq_or_mem_of_mem_insert {key : String} {value : α} {entries : Dictionary α} {e : String × α}
    (h : e ∈ insert key value entries) : e = (key, value) ∨ e ∈ entries := by
  induction entries with
  | nil => exact .inl (List.mem_singleton.mp h)
  | cons f entries ih =>
    rw [insert] at h
    split at h
    · exact List.mem_cons.mp h
    · split at h
      · exact (List.mem_cons.mp h).imp_right (List.mem_cons_of_mem _)
      · rcases List.mem_cons.mp h with rfl | hlater
        · exact .inr List.mem_cons_self
        · exact (ih hlater).imp_right (List.mem_cons_of_mem _)

/-- What is among entries that were put in one after another was put in. -/
lemma mem_of_mem_ofEntries {entries : List (String × α)} {e : String × α}
    (h : e ∈ ofEntries entries) : e ∈ entries := by
  suffices hall : ∀ done : Dictionary α, e ∈ entries.foldl (fun d e => insert e.1 e.2 d) done →
      e ∈ entries ∨ e ∈ done from (hall [] h).resolve_right List.not_mem_nil
  intro done hmem
  clear h
  induction entries generalizing done with
  | nil => exact .inr hmem
  | cons first entries ih =>
    rcases ih _ hmem with hlater | hdone
    · exact .inl (List.mem_cons_of_mem _ hlater)
    · rcases eq_or_mem_of_mem_insert hdone with rfl | hdone
      · exact .inl List.mem_cons_self
      · exact .inr hdone

/-- The order of the keys is kept when an entry is put in. -/
lemma Ascending.insert {entries : Dictionary α} (h : Ascending entries) (key : String) (value : α) :
    Ascending (insert key value entries) := by
  induction entries with
  | nil => exact List.pairwise_singleton _ _
  | cons e entries ih =>
    obtain ⟨hfirst, hlater⟩ := List.pairwise_cons.mp h
    rw [Dictionary.insert]
    split
    · rename_i hlt
      refine List.pairwise_cons.mpr ⟨List.forall_mem_cons.mpr ⟨hlt, fun f hf => ?_⟩, h⟩
      exact String.lt_trans hlt (hfirst f hf)
    · rename_i hnot
      split
      · rename_i heq
        rw [heq]
        exact List.pairwise_cons.mpr ⟨hfirst, hlater⟩
      · rename_i hne
        refine List.pairwise_cons.mpr ⟨fun f hf => ?_, ih hlater⟩
        rcases eq_or_mem_of_mem_insert hf with rfl | hf
        · by_contra hge
          exact hne (String.le_antisymm (String.not_lt.mp hge) (String.not_lt.mp hnot))
        · exact hfirst f hf

/-- Entries that were put in one after another stand in the order of their keys. -/
lemma ascending_ofEntries (entries : List (String × α)) : Ascending (ofEntries entries) := by
  suffices hall : ∀ done : Dictionary α, Ascending done →
      Ascending (entries.foldl (fun d e => insert e.1 e.2 d) done) from hall [] .nil
  intro done hdone
  induction entries generalizing done with
  | nil => exact hdone
  | cons e entries ih => exact ih _ (hdone.insert e.1 e.2)

/-- If the keys are in order, then what stands under a key is what there is an entry for. -/
lemma get?_eq_some_iff {entries : Dictionary α} (h : Ascending entries) {key : String} {value : α} :
    get? entries key = some value ↔ (key, value) ∈ entries := by
  induction entries with
  | nil => simp [get?]
  | cons e entries ih =>
    obtain ⟨hfirst, hlater⟩ := List.pairwise_cons.mp h
    rw [get?_cons, List.mem_cons]
    by_cases hkey : e.1 = key
    · rw [if_pos hkey, Option.some_inj]
      constructor
      · rintro rfl
        exact .inl (Prod.ext hkey.symm rfl)
      · rintro (rfl | hmem)
        · rfl
        · exact absurd (hfirst _ hmem) (hkey ▸ String.lt_irrefl _)
    · rw [if_neg hkey, ih hlater, or_iff_right]
      rintro rfl
      exact hkey rfl

/-- Entries in the order of their keys are kept as they are. -/
lemma ofEntries_of_ascending {entries : List (String × α)} (h : Ascending entries) :
    ofEntries entries = entries := by
  suffices happend : ∀ done : Dictionary α, Ascending (done ++ entries) →
      entries.foldl (fun d e => insert e.1 e.2 d) done = done ++ entries from happend [] h
  intro done hall
  clear h
  induction entries generalizing done with
  | nil => exact (List.append_nil _).symm
  | cons e entries ih =>
    have hbefore : ∀ d ∈ done, d.1 < e.1 := fun d hd =>
      (List.pairwise_append.mp hall).2.2 d hd e List.mem_cons_self
    have hsplit : done ++ e :: entries = (done ++ [e]) ++ entries := by
      rw [List.append_assoc, List.singleton_append]
    rw [List.foldl_cons, insert_eq_append hbefore, hsplit]
    exact ih _ (hsplit ▸ hall)

end Shipyard.Dictionary
