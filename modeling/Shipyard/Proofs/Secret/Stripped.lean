import Mathlib
import Shipyard.Proofs.Secret.Lookup

/-!
# What stays around a value

From what stands behind the equals sign blanks are taken off, then quotes, and then blanks once
more. It ends there: if the blanks of the last step stood in front of another quote, then the value
begins with this quote, and reading the value again would take it off.

The two ends of a value are alike, since all three steps are the same in both directions, and so it
is enough to look at the first character of a value. It is a quote exactly if the text without the
blanks around it begins with quotes, goes on with blanks and then has a quote again. For one
direction the steps are undone, and what each of them took off is put in front; for the other one it
has to be seen that the quotes which are taken off at the end do not reach back to this quote, as
nothing would be left of the value then.
-/

namespace Shipyard.Secret

open Text (IsStripped isBlank trimChars stripWhile)

/-! ## Quotes behind blanks -/

/-- A text begins with quotes, goes on with blanks, and then there is a quote again. -/
def Reopens (cs : List Char) : Prop :=
  ∃ quotes blanks c rest, cs = quotes ++ blanks ++ c :: rest ∧
    (quotes ≠ [] ∧ ∀ q ∈ quotes, isQuote q = true) ∧
    (blanks ≠ [] ∧ ∀ b ∈ blanks, isBlank b = true) ∧ isQuote c = true

/-- A quote is not blank. -/
lemma isBlank_of_isQuote {c : Char} (h : isQuote c = true) : isBlank c = false := by
  unfold isQuote at h
  simp only [Bool.or_eq_true, beq_iff_eq] at h
  rcases h with rfl | rfl <;> decide

variable {cs : List Char}

/-- What is left of a text without blanks around it begins with a quote only if it reopens. -/
lemma reopens_of_head {c : Char} (hcs : IsStripped isBlank cs)
    (h : (trimChars (stripWhile isQuote cs)).head? = some c) (hc : isQuote c = true) :
    Reopens cs := by
  obtain ⟨quotes, back, hquotes, -, hinner⟩ := Text.exists_stripWhile_append isQuote cs
  obtain ⟨blanks, rest, hblanks, -, hvalue⟩ :=
    Text.exists_stripWhile_append isBlank (stripWhile isQuote cs)
  obtain ⟨value, hcons⟩ := List.head?_eq_some_iff.mp h
  rw [← trimChars, hcons] at hvalue
  have hblanksne : blanks ≠ [] := by
    rintro rfl
    have hhead : isQuote c = false :=
      (Text.isStripped_stripWhile isQuote cs).head c (by rw [hvalue]; rfl)
    rw [hc] at hhead
    cases hhead
  have hquotesne : quotes ≠ [] := by
    rintro rfl
    obtain ⟨b, blanks, rfl⟩ := List.exists_cons_of_ne_nil hblanksne
    have hhead : isBlank b = false := hcs.head b (by rw [hinner, hvalue]; rfl)
    rw [hblanks b List.mem_cons_self] at hhead
    cases hhead
  refine ⟨quotes, blanks, c, value ++ rest ++ back, ?_, ⟨hquotesne, hquotes⟩,
    ⟨hblanksne, hblanks⟩, hc⟩
  rw [hinner, hvalue]
  simp

/-- If a text reopens, then what is left of it begins with a quote, unless nothing is left. -/
lemma head_of_reopens (h : Reopens cs) (hne : trimChars (stripWhile isQuote cs) ≠ []) :
    ∃ c, (trimChars (stripWhile isQuote cs)).head? = some c ∧ isQuote c = true := by
  obtain ⟨quotes, blanks, c, rest, rfl, ⟨-, hquotes⟩, ⟨hblanksne, hblanks⟩, hc⟩ := h
  have hdrop : (quotes ++ blanks ++ c :: rest).dropWhile isQuote = blanks ++ c :: rest := by
    obtain ⟨b, more, rfl⟩ := List.exists_cons_of_ne_nil hblanksne
    have hb : ¬isQuote b = true := by
      intro hquote
      have hblank : isBlank b = true := hblanks b List.mem_cons_self
      rw [isBlank_of_isQuote hquote] at hblank
      cases hblank
    rw [List.append_assoc, List.dropWhile_append_of_pos hquotes, List.cons_append,
      List.dropWhile_cons_of_neg hb]
  obtain ⟨tail, htail⟩ := Text.dropEndWhile_prefix isQuote (blanks ++ c :: rest)
  have hinner : Text.stripWhile isQuote (quotes ++ blanks ++ c :: rest) =
      Text.dropEndWhile isQuote (blanks ++ c :: rest) := by
    rw [stripWhile, hdrop]
  rw [hinner] at hne ⊢
  generalize Text.dropEndWhile isQuote (blanks ++ c :: rest) = inner at htail hne ⊢
  -- if nothing but blanks is left between the quotes, then the value is empty
  have hnotBlank : ¬∀ x ∈ inner, isBlank x = true := mt Text.stripWhile_eq_nil_iff.mpr hne
  rcases List.append_eq_append_iff.mp htail with ⟨more, hmore, -⟩ | ⟨more, rfl, hmore⟩
  · refine absurd (fun x hx => hblanks x ?_) hnotBlank
    rw [hmore]
    exact List.mem_append_left _ hx
  · cases more with
    | nil =>
      rw [List.append_nil] at hnotBlank
      exact absurd hblanks hnotBlank
    | cons d more =>
      obtain ⟨rfl, -⟩ := List.cons.inj hmore
      have hvalue : trimChars (blanks ++ c :: more) = c :: Text.dropEndWhile isBlank more := by
        have hcblank : isBlank c = false := isBlank_of_isQuote hc
        rw [trimChars, stripWhile, List.dropWhile_append_of_pos hblanks,
          List.dropWhile_cons_of_neg (by simp [hcblank]), Text.dropEndWhile_cons hcblank]
      exact ⟨c, by rw [hvalue]; rfl, hc⟩

variable {raw : List Char}

/-- A value begins with a quote exactly if what it is made of reopens. -/
lemma head_stripValue_iff (hne : stripValue raw ≠ []) :
    (∃ c, (stripValue raw).head? = some c ∧ isQuote c = true) ↔ Reopens (trimChars raw) := by
  constructor
  · rintro ⟨c, hhead, hc⟩
    exact reopens_of_head (Text.isStripped_stripWhile isBlank raw) hhead hc
  · intro h
    exact head_of_reopens h hne

/-- A value is made in the same way in both directions. -/
lemma stripValue_reverse (raw : List Char) : stripValue raw.reverse = (stripValue raw).reverse := by
  unfold stripValue trimChars
  rw [Text.stripWhile_reverse, Text.stripWhile_reverse, Text.stripWhile_reverse]

/-- A value ends in a quote exactly if what it is made of reopens from its end. -/
lemma getLast_stripValue_iff (hne : stripValue raw ≠ []) :
    (∃ c, (stripValue raw).getLast? = some c ∧ isQuote c = true) ↔
      Reopens (trimChars raw).reverse := by
  have hreverse : stripValue raw.reverse ≠ [] := by
    rw [stripValue_reverse]
    exact mt List.reverse_eq_nil_iff.mp hne
  rw [← List.head?_reverse, ← stripValue_reverse, head_stripValue_iff hreverse, trimChars,
    Text.stripWhile_reverse, trimChars]

/-- A value without blanks around it stays as it is exactly if there are no quotes around it. -/
lemma stripValue_eq_self_iff (hraw : IsStripped isBlank raw) :
    stripValue raw = raw ↔ IsStripped isQuote raw := by
  have htrim : trimChars raw = raw := Text.stripWhile_eq_self_iff.mpr hraw
  constructor
  · intro h
    rw [stripValue, htrim] at h
    have hinner : stripWhile isQuote raw <:+: raw := Text.stripWhile_infix_self isQuote raw
    have houter : raw <:+: stripWhile isQuote raw := by
      conv_lhs => rw [← h]
      exact Text.stripWhile_infix_self isBlank _
    exact Text.stripWhile_eq_self_iff.mp (hinner.eq_of_length_le houter.length_le)
  · intro h
    rw [stripValue, htrim, Text.stripWhile_eq_self_iff.mpr h, htrim]

/-! ## Reading a value again -/

/-- A name that may be looked up and written in front of an equals sign: without blanks around it,
and neither a comment nor behind the word that may stand in front of a definition. -/
structure IsBareKey (key : List Char) : Prop where
  stripped : IsStripped isBlank key
  not_comment : key.head? ≠ some '#'
  not_marked : ¬exportWord <+: key
  no_equals : '=' ∉ key
  inLine : '\n' ∉ key

variable {key value : List Char}

/-- The word in front of a definition does not reach over an equals sign. -/
lemma IsBareKey.not_marked_append (h : IsBareKey key) (value : List Char) :
    ¬exportWord <+: key ++ '=' :: value := by
  rintro ⟨tail, htail⟩
  rcases List.append_eq_append_iff.mp htail with ⟨more, hkey, -⟩ | ⟨more, hword, hrest⟩
  · exact h.not_marked ⟨more, hkey.symm⟩
  · cases more with
    | nil => exact h.not_marked ⟨[], by rw [hword, List.append_nil, List.append_nil]⟩
    | cons c more =>
      obtain ⟨rfl, -⟩ := List.cons.inj hrest
      have hmem : '=' ∈ exportWord := by
        rw [hword]
        exact List.mem_append_right _ List.mem_cons_self
      exact absurd hmem (by decide)

/-- A key and a value on either side of an equals sign are a definition of the key. -/
lemma IsBareKey.defines (h : IsBareKey key) (hne : value ≠ []) (hvalue : IsStripped isBlank value) :
    Defines (key ++ '=' :: value) key value := by
  have hstripped : IsStripped isBlank (key ++ '=' :: value) :=
    { head := by
        cases key with
        | nil => exact fun c hc => by cases hc; decide
        | cons d key => exact fun c hc => h.stripped.head c hc
      last := by
        rw [List.append_cons, List.getLast?_append_of_ne_nil _ hne]
        exact hvalue.last }
  have htrim : trimChars (key ++ '=' :: value) = key ++ '=' :: value :=
    Text.stripWhile_eq_self_iff.mpr hstripped
  refine .plain key htrim ?_ ?_ h.no_equals (Text.stripWhile_eq_self_iff.mpr h.stripped)
  · rw [htrim]
    cases key with
    | nil => simp
    | cons d key => exact h.not_comment
  · rw [htrim]
    exact h.not_marked_append value

/-- A value that is written behind its key is read again exactly if there are no quotes around
it. -/
lemma IsBareKey.value?_eq_some_iff {key value : String} (h : IsBareKey key.toList)
    (hne : value.toList ≠ []) (hvalue : IsStripped isBlank value.toList)
    (hline : '\n' ∉ value.toList) :
    value? (key ++ "=" ++ value) key = some value ↔ IsStripped isQuote value.toList := by
  have htext : (key ++ "=" ++ value).toList = key.toList ++ '=' :: value.toList := by simp
  have hinLine : '\n' ∉ key.toList ++ '=' :: value.toList := by simp [h.inLine, hline]
  have hread := valueIn?_of_defines (List.forall_mem_nil _) (h.defines hne hvalue) []
  rw [List.nil_append] at hread
  unfold value?
  rw [htext, Text.lines_eq_singleton hinLine, hread, ← stripValue_eq_self_iff hvalue]
  constructor
  · intro hagain
    split at hagain
    case isTrue => cases hagain
    case isFalse =>
      have hsame : String.ofList (stripValue value.toList) = value := Option.some.inj hagain
      conv_rhs => rw [← hsame, String.toList_ofList]
  · intro hself
    rw [hself, if_neg (by simpa using hne), Option.map_some, String.ofList_toList]

/-! ## Values of files -/

/-- The first line that defines a key does so with these characters behind its equals sign. -/
def FirstDefines (content key raw : List Char) : Prop :=
  ∃ before line after, Text.lines content = before ++ line :: after ∧
    (∀ other ∈ before, ∀ value, ¬Defines other key value) ∧ Defines line key raw

/-- What is found in lines is the value of the first of them that defines the key. -/
lemma exists_defines_of_valueIn? {lines : List (List Char)} (h : valueIn? key lines = some value) :
    ∃ before line after raw, lines = before ++ line :: after ∧
      (∀ other ∈ before, ∀ value, ¬Defines other key value) ∧ Defines line key raw ∧
      stripValue raw = value ∧ value ≠ [] := by
  induction lines with
  | nil => cases h
  | cons line lines ih =>
    by_cases hdefines : ∃ raw, Defines line key raw
    · obtain ⟨raw, hraw⟩ := hdefines
      have hread := valueIn?_of_defines (List.forall_mem_nil _) hraw lines
      rw [List.nil_append, h] at hread
      split at hread
      case isTrue => cases hread
      case isFalse hempty =>
        obtain rfl := Option.some.inj hread
        exact ⟨[], line, lines, raw, rfl, List.forall_mem_nil _, hraw, rfl, by simpa using hempty⟩
    · have hline : ∀ other ∈ [line], ∀ value, ¬Defines other key value :=
        List.forall_mem_singleton.mpr (not_exists.mp hdefines)
      have hrest := valueIn?_append hline lines
      rw [List.singleton_append, h] at hrest
      obtain ⟨before, next, after, raw, rfl, hbefore, hnext⟩ := ih hrest.symm
      exact ⟨line :: before, next, after, raw, rfl,
        List.forall_mem_cons.mpr ⟨not_exists.mp hdefines, hbefore⟩, hnext⟩

/-- A line defines a key with a part of it. -/
lemma Defines.infix_line {line : List Char} (h : Defines line key raw) : raw <:+: line := by
  have hline : trimChars line <:+: line := Text.stripWhile_infix_self isBlank line
  have hraw : raw <:+: trimChars line := by
    cases h with
    | plain front htrimmed =>
      exact ⟨front ++ ['='], [], by rw [htrimmed]; simp⟩
    | marked front htrimmed =>
      exact ⟨exportWord ++ (front ++ ['=']), [], by rw [htrimmed]; simp⟩
  exact hraw.trans hline

/-- A value is a part of what it is made of. -/
lemma stripValue_infix_self (raw : List Char) : stripValue raw <:+: raw :=
  ((Text.stripWhile_infix_self isBlank _).trans (Text.stripWhile_infix_self isQuote _)).trans
    (Text.stripWhile_infix_self isBlank raw)

/-- The value that is found for a key is not empty and has no blanks around it. It begins or ends
with a quote exactly if blanks and then another quote stand behind the quotes at this end of what
the key is defined with, and it can be written behind the key and read again exactly if it neither
begins nor ends with a quote. -/
theorem value?_stripped_but_for_inner_quotes {content key value : String}
    (hkey : IsBareKey key.toList) (hvalue : value? content key = some value) :
    ∃ raw, FirstDefines content.toList key.toList raw ∧
      value ≠ "" ∧ IsStripped isBlank value.toList ∧
      ((∃ c, value.toList.head? = some c ∧ isQuote c = true) ↔ Reopens (trimChars raw)) ∧
      ((∃ c, value.toList.getLast? = some c ∧ isQuote c = true) ↔
        Reopens (trimChars raw).reverse) ∧
      (value? (key ++ "=" ++ value) key = some value ↔ IsStripped isQuote value.toList) := by
  obtain ⟨chars, hchars, rfl⟩ := Option.map_eq_some_iff.mp hvalue
  obtain ⟨before, line, after, raw, hlines, hbefore, hline, rfl, hne⟩ :=
    exists_defines_of_valueIn? hchars
  have hmem : line ∈ Text.lines content.toList := by
    rw [hlines]
    exact List.mem_append_right _ List.mem_cons_self
  have hpart : stripValue raw <:+: line := (stripValue_infix_self raw).trans hline.infix_line
  have hvalueLine : '\n' ∉ stripValue raw := fun hfeed =>
    Text.newline_notMem_of_mem_lines hmem (hpart.subset hfeed)
  have hstripped : IsStripped isBlank (stripValue raw) := Text.isStripped_stripWhile isBlank _
  have hlist := String.toList_ofList (l := stripValue raw)
  refine ⟨raw, ⟨before, line, after, hlines, hbefore, hline⟩, ?_, ?_, ?_, ?_, ?_⟩
  · simpa using hne
  · rwa [hlist]
  · rw [hlist]
    exact head_stripValue_iff hne
  · rw [hlist]
    exact getLast_stripValue_iff hne
  · exact hkey.value?_eq_some_iff (by rwa [hlist]) (by rwa [hlist]) (by rwa [hlist])

/-- A letter may be looked up. -/
lemma isBareKey_letter : IsBareKey "K".toList where
  stripped := Text.isStripped_of_ends (a := 'K') (b := 'K') rfl (by decide) rfl (by decide)
  not_comment := by decide
  not_marked := by decide
  no_equals := by decide
  inLine := by decide

/-- A value with blanks around it between quotes is read again. -/
theorem spaced_value_is_read_again :
    value? "export K = \" v \"\n" "K" = some "v" ∧ value? ("K" ++ "=" ++ "v") "K" = some "v" := by
  have hvalue : value? "export K = \" v \"\n" "K" = some "v" := by decide
  have hbare : IsStripped isQuote "v".toList :=
    Text.isStripped_of_ends (a := 'v') (b := 'v') rfl (by decide) rfl (by decide)
  obtain ⟨raw, -, -, -, -, -, hagain⟩ :=
    value?_stripped_but_for_inner_quotes isBareKey_letter hvalue
  exact ⟨hvalue, hagain.mpr hbare⟩

/-- Quotes that stand between blanks and other quotes are taken off only when the value is read
again. -/
theorem inner_quotes_stay : IsBareKey "K".toList ∧
    value? "K=\" 'x' \"\n" "K" = some "'x'" ∧ value? ("K" ++ "=" ++ "'x'") "K" = some "x" :=
  ⟨isBareKey_letter, by decide, by decide⟩

end Shipyard.Secret
