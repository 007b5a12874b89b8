import Mathlib
import Shipyard.Proofs.Text.Blank
import Shipyard.Proofs.Text.Lines
import Shipyard.Secret

/-!
# Looking up a key

The value of a key is the one of the first line that defines it. A definition may be laid out in
many ways: with blanks around the line, around the name and around the value, with the word `export`
in front and with quotes around the value. What is in the way is taken off in a certain order, and
what has to be shown is that in this order nothing is taken off that belongs to the name or to the
value, and nothing stays that does not.

First it is said which lines define which names, apart from how this is found out. Every layout of a
definition is such a line, and it gives its value back. The lines of a file are then gone through up
to the first one that defines the key.
-/

namespace Shipyard

namespace Text

/-! ## Lines -/

/-- Lines, each of them with a line feed at its end. -/
def endLines (lines : List (List Char)) : List Char :=
  lines.flatMap (· ++ ['\n'])

/-- What stands behind some characters on the same line: nothing, or a line feed and more. -/
def IsLineEnd (rest : List Char) : Prop :=
  rest = [] ∨ ∃ more, rest = '\n' :: more

/-- Complete lines are the first lines of a text that begins with them. -/
lemma lines_endLines_append {before : List (List Char)} (hbefore : ∀ line ∈ before, '\n' ∉ line)
    (text : List Char) : lines (endLines before ++ text) = before ++ lines text := by
  induction before with
  | nil => rfl
  | cons line before ih =>
    obtain ⟨hline, hrest⟩ := List.forall_mem_cons.mp hbefore
    have hsplit : endLines (line :: before) ++ text =
        line ++ '\n' :: (endLines before ++ text) := by
      simp [endLines]
    rw [hsplit, lines_append hline, ih hrest]
    rfl

/-- What stands up to the end of a line is the first line. -/
lemma exists_lines_eq_cons {line rest : List Char} (hline : '\n' ∉ line) (hrest : IsLineEnd rest) :
    ∃ after, lines (line ++ rest) = line :: after := by
  rcases hrest with rfl | ⟨more, rfl⟩
  · refine ⟨[], ?_⟩
    rw [List.append_nil]
    exact lines_eq_singleton hline
  · exact ⟨lines more, lines_append hline more⟩

end Text

/-- A text is divided into what stands in front of its first mark and what stands behind it. -/
lemma splitAtFirst_eq_some_iff {mark : Char} {cs front back : List Char} :
    splitAtFirst mark cs = some (front, back) ↔ cs = front ++ mark :: back ∧ mark ∉ front := by
  have hfirst : ∀ {front : List Char}, mark ∉ front → ∀ c ∈ front, (c != mark) = true :=
    fun hfront c hc => bne_iff_ne.mpr fun heq => hfront (heq ▸ hc)
  constructor
  · intro h
    unfold splitAtFirst at h
    cases hrest : cs.dropWhile (· != mark) with
    | nil =>
      rw [hrest] at h
      cases h
    | cons c rest =>
      rw [hrest] at h
      obtain ⟨rfl, rfl⟩ := Prod.mk.inj (Option.some.inj h)
      have hc : c = mark := by simpa [hrest] using List.head?_dropWhile_not (· != mark) cs
      refine ⟨?_, fun hmem => ?_⟩
      · conv_lhs => rw [← List.takeWhile_append_dropWhile (p := (· != mark)) (l := cs), hrest, hc]
      · simpa using List.mem_takeWhile_imp hmem
  · rintro ⟨rfl, hfront⟩
    unfold splitAtFirst
    rw [List.dropWhile_append_of_pos (hfirst hfront), List.takeWhile_append_of_pos (hfirst hfront),
      List.dropWhile_cons_of_neg (by simp), List.takeWhile_cons_of_neg (by simp), List.append_nil]

namespace Secret

open Text (IsStripped isBlank trimChars)

/-! ## Lines that define something -/

/-- A line defines a name with the text behind its first equals sign. Without the blanks around the
line, the name and the blanks around it are all that stands in front of this sign, apart from one
`export ` that may stand before them. A line that begins with a number sign defines nothing. -/
inductive Defines (line name value : List Char) : Prop where
  | plain (front : List Char) (trimmed : trimChars line = front ++ '=' :: value)
      (comment : (trimChars line).head? ≠ some '#') (unmarked : ¬ exportWord <+: trimChars line)
      (first : '=' ∉ front) (named : trimChars front = name)
  | marked (front : List Char) (trimmed : trimChars line = exportWord ++ (front ++ '=' :: value))
      (first : '=' ∉ front) (named : trimChars front = name)

/-- Behind the word that may stand in front of a line the rest of it begins. -/
lemma dropExport_append (rest : List Char) : dropExport (exportWord ++ rest) = rest := by
  unfold dropExport
  rw [if_pos (List.isPrefixOf_iff_prefix.mpr (List.prefix_append _ _)), List.drop_left]

/-- A line without the word in front of it stays. -/
lemma dropExport_of_unmarked {line : List Char} (h : ¬ exportWord <+: line) :
    dropExport line = line := by
  unfold dropExport
  rw [if_neg (mt List.isPrefixOf_iff_prefix.mp h)]

/-- What is found in a line is what it defines. -/
lemma definition?_eq_some_iff {line name value : List Char} :
    definition? line = some (name, value) ↔ Defines line name value := by
  unfold definition?
  dsimp only
  constructor
  · intro h
    split at h
    · cases h
    · rename_i hdefines
      simp only [Bool.or_eq_true, beq_iff_eq, not_or] at hdefines
      obtain ⟨⟨front, back⟩, hsplit, hparts⟩ := Option.map_eq_some_iff.mp h
      obtain ⟨rfl, rfl⟩ := Prod.mk.inj hparts
      obtain ⟨hbody, hfirst⟩ := splitAtFirst_eq_some_iff.mp hsplit
      by_cases hmarked : exportWord <+: trimChars line
      · obtain ⟨rest, hrest⟩ := hmarked
        rw [← hrest, dropExport_append] at hbody
        exact .marked front (by rw [← hrest, hbody]) hfirst rfl
      · rw [dropExport_of_unmarked hmarked] at hbody
        exact .plain front hbody hdefines.2 hmarked hfirst rfl
  · rintro (⟨front, hbody, hcomment, hunmarked, hfirst, rfl⟩ | ⟨front, hbody, hfirst, rfl⟩)
    · have hsplit : splitAtFirst '=' (front ++ '=' :: value) = some (front, value) :=
        splitAtFirst_eq_some_iff.mpr ⟨rfl, hfirst⟩
      rw [hbody] at hcomment hunmarked ⊢
      rw [dropExport_of_unmarked hunmarked, hsplit, if_neg (by simpa using hcomment)]
      rfl
    · have hsplit : splitAtFirst '=' (front ++ '=' :: value) = some (front, value) :=
        splitAtFirst_eq_some_iff.mpr ⟨rfl, hfirst⟩
      have hhead : (exportWord ++ (front ++ '=' :: value)).head? = some 'e' := rfl
      rw [hbody, dropExport_append, hsplit, hhead, if_neg (by simp)]
      rfl

/-! ## The first line that defines a key -/

/-- Lines that do not define a key are passed over. -/
lemma valueIn?_append {key : List Char} {before : List (List Char)}
    (hbefore : ∀ line ∈ before, ∀ value, ¬ Defines line key value) (lines : List (List Char)) :
    valueIn? key (before ++ lines) = valueIn? key lines := by
  induction before with
  | nil => rfl
  | cons line before ih =>
    have hrest := ih fun other hother => hbefore other (List.mem_cons_of_mem _ hother)
    rw [List.cons_append, valueIn?]
    split
    · rename_i name value hdefinition
      split
      · rename_i hname
        rw [hname] at hdefinition
        exact absurd (definition?_eq_some_iff.mp hdefinition) (hbefore line List.mem_cons_self value)
      · exact hrest
    · exact hrest

/-- The first line that defines a key decides. -/
lemma valueIn?_of_defines {key value : List Char} {before : List (List Char)} {line : List Char}
    (hbefore : ∀ other ∈ before, ∀ value, ¬ Defines other key value)
    (hline : Defines line key value) (after : List (List Char)) :
    valueIn? key (before ++ line :: after) =
      if (stripValue value).isEmpty then none else some (stripValue value) := by
  rw [valueIn?_append hbefore, valueIn?, definition?_eq_some_iff.mpr hline]
  dsimp only
  rw [if_pos rfl]

/-! ## Layouts -/

/-- Blanks within a line. -/
structure Gap where
  chars : List Char
  blank : ∀ c ∈ chars, isBlank c = true
  inLine : '\n' ∉ chars

/-- A gap of one blank. -/
def Gap.single (c : Char) (h : (isBlank c && c != '\n') = true) : Gap where
  chars := [c]
  blank := List.forall_mem_singleton.mpr (Bool.and_eq_true_iff.mp h).1
  inLine := by
    rw [List.mem_singleton]
    exact Ne.symm (bne_iff_ne.mp (Bool.and_eq_true_iff.mp h).2)

/-- What a value is put between. -/
inductive Quoting where
  | bare
  | single
  | double

/-- The mark on either side of the value. -/
def Quoting.mark : Quoting → List Char
  | .bare => []
  | .single => ['\'']
  | .double => ['"']

/-- How a definition is laid out in a line. -/
structure Layout where
  marked : Bool
  quoting : Quoting
  indent : Gap
  beforeName : Gap
  afterName : Gap
  beforeValue : Gap
  afterValue : Gap

namespace Layout

variable (layout : Layout)

/-- A value with its quotes. -/
def quoted (value : List Char) : List Char :=
  layout.quoting.mark ++ value ++ layout.quoting.mark

/-- What stands in front of the equals sign, apart from the blanks and the word in front. -/
def front (key : List Char) : List Char :=
  layout.beforeName.chars ++ key ++ layout.afterName.chars

/-- What stands behind the equals sign, apart from the blanks at the end. -/
def back (value : List Char) : List Char :=
  layout.beforeValue.chars ++ layout.quoted value

/-- The line in which a value is defined for a key. -/
def line (key value : List Char) : List Char :=
  layout.indent.chars ++ (if layout.marked then exportWord else []) ++
    (layout.front key ++ '=' :: layout.back value) ++ layout.afterValue.chars

end Layout

/-- A name that can be looked up: it has no blanks around it, and it cannot be taken for a comment,
for the word in front of a definition or for a definition. -/
structure IsKey (key : List Char) : Prop where
  nonempty : key ≠ []
  stripped : IsStripped isBlank key
  ne_export : key ≠ "export".toList
  not_marked : ¬ exportWord <+: key
  not_comment : key.head? ≠ some '#'
  no_equals : '=' ∉ key
  inLine : '\n' ∉ key

/-- A value that can be written down: it neither begins nor ends with a blank or a quote. -/
structure IsValue (value : List Char) : Prop where
  nonempty : value ≠ []
  stripped : IsStripped (fun c => isBlank c || isQuote c) value
  inLine : '\n' ∉ value

/-- A value that cannot be stripped of blanks and quotes cannot be stripped of blanks. -/
lemma IsValue.stripped_blank {value : List Char} (h : IsValue value) : IsStripped isBlank value where
  head := fun c hc => (Bool.or_eq_false_iff.mp (h.stripped.head c hc)).1
  last := fun c hc => (Bool.or_eq_false_iff.mp (h.stripped.last c hc)).1

/-- A value that cannot be stripped of blanks and quotes cannot be stripped of quotes. -/
lemma IsValue.stripped_quote {value : List Char} (h : IsValue value) : IsStripped isQuote value where
  head := fun c hc => (Bool.or_eq_false_iff.mp (h.stripped.head c hc)).2
  last := fun c hc => (Bool.or_eq_false_iff.mp (h.stripped.last c hc)).2

/-- A word in front of a definition cannot be found where a key ends and a blank or the equals sign
follows. -/
lemma IsKey.not_marked_append {key rest : List Char} (h : IsKey key)
    (hnext : ∀ c ∈ rest.head?, isBlank c = true ∨ c = '=') : ¬ exportWord <+: key ++ rest := by
  rintro ⟨tail, htail⟩
  rcases List.append_eq_append_iff.mp htail with ⟨more, hkey, -⟩ | ⟨more, hword, hrest⟩
  · exact h.not_marked ⟨more, hkey.symm⟩
  · cases more with
    | nil => exact h.not_marked ⟨[], by rw [List.append_nil, hword, List.append_nil]⟩
    | cons c more =>
      -- the only blank of the word is its last character, and what is in front of it is no key
      have hc : isBlank c = true ∨ c = '=' := hnext c (by rw [hrest]; rfl)
      have hplace : exportWord[key.length]? = some c := by rw [hword]; simp
      have htake : exportWord.take key.length = key := by rw [hword, List.take_left]
      have hlength : key.length < 7 := by
        have heq := congrArg List.length hword
        simp only [List.length_append, List.length_cons] at heq
        have : exportWord.length = 7 := by decide
        omega
      interval_cases hn : key.length
      case «6» => exact h.ne_export htake.symm
      all_goals
        cases hplace
        revert hc
        decide

/-- There is no equals sign in a gap. -/
lemma Gap.no_equals (gap : Gap) : '=' ∉ gap.chars := by
  intro hmem
  exact absurd (gap.blank _ hmem) (by decide)

section Layouts

variable (layout : Layout) {key value : List Char}

/-- The marks around a value are quotes. -/
lemma Quoting.isQuote_of_mem_mark {quoting : Quoting} : ∀ c ∈ quoting.mark, isQuote c = true := by
  cases quoting with
  | bare => exact List.forall_mem_nil _
  | single => exact List.forall_mem_singleton.mpr rfl
  | double => exact List.forall_mem_singleton.mpr rfl

namespace Layout

/-- A value with its quotes has no blanks around it. -/
lemma stripped_quoted (h : IsValue value) : IsStripped isBlank (layout.quoted value) := by
  unfold quoted
  cases layout.quoting with
  | bare => simpa [Quoting.mark] using h.stripped_blank
  | single =>
    exact Text.isStripped_of_ends (a := '\'') (b := '\'') rfl (by decide) List.getLast?_concat
      (by decide)
  | double =>
    exact Text.isStripped_of_ends (a := '"') (b := '"') rfl (by decide) List.getLast?_concat
      (by decide)

/-- A value with its quotes is not empty. -/
lemma quoted_ne_nil (h : IsValue value) : layout.quoted value ≠ [] := by
  unfold quoted
  exact List.append_ne_nil_of_left_ne_nil (List.append_ne_nil_of_right_ne_nil _ h.nonempty) _

/-- What stands behind the equals sign comes to the value. -/
lemma stripValue_back (h : IsValue value) : stripValue (layout.back value) = value := by
  have hgap : trimChars (layout.back value) = layout.quoted value := by
    rw [← List.append_nil (layout.back value)]
    exact Text.stripWhile_append (layout.stripped_quoted h) layout.beforeValue.blank
      (List.forall_mem_nil _)
  have hquotes : Text.stripWhile isQuote (layout.quoted value) = value :=
    Text.stripWhile_append h.stripped_quote Quoting.isQuote_of_mem_mark Quoting.isQuote_of_mem_mark
  have hblanks : trimChars value = value := by
    have hstrip : trimChars (value ++ []) = value :=
      Text.stripWhile_append h.stripped_blank (List.forall_mem_nil _) (List.forall_mem_nil _)
    rwa [List.append_nil] at hstrip
  unfold stripValue
  rw [hgap, hquotes, hblanks]

/-- In the line of a definition the key is defined with what stands behind the equals sign. -/
lemma defines (hkey : IsKey key) (hvalue : IsValue value) :
    Defines (layout.line key value) key (layout.back value) := by
  have hnamed : trimChars (layout.front key) = key :=
    Text.stripWhile_append hkey.stripped layout.beforeName.blank layout.afterName.blank
  have hlast := (layout.stripped_quoted hvalue).last
  have hquoted := layout.quoted_ne_nil hvalue
  cases hmarked : layout.marked with
  | true =>
    have hstripped : IsStripped isBlank
        (exportWord ++ (layout.front key ++ '=' :: layout.back value)) := by
      have hbody : exportWord ++ (layout.front key ++ '=' :: layout.back value) =
          exportWord ++ (layout.front key ++ '=' :: layout.beforeValue.chars) ++
            layout.quoted value := by
        simp [back]
      rw [hbody]
      have hword : IsStripped isBlank "export".toList :=
        Text.isStripped_of_ends (a := 'e') (b := 't') (by decide) (by decide) (by decide) (by decide)
      exact Text.isStripped_append (by decide) hquoted hword.head hlast _
    refine .marked (layout.front key) ?_ ?_ hnamed
    · have htrim := Text.stripWhile_append hstripped layout.indent.blank layout.afterValue.blank
      unfold line
      rwa [hmarked, if_pos rfl, List.append_assoc layout.indent.chars]
    · unfold front
      simp [Gap.no_equals, hkey.no_equals]
  | false =>
    have hstripped : IsStripped isBlank
        (key ++ layout.afterName.chars ++ '=' :: layout.back value) := by
      have hbody : key ++ layout.afterName.chars ++ '=' :: layout.back value =
          key ++ (layout.afterName.chars ++ '=' :: layout.beforeValue.chars) ++
            layout.quoted value := by
        simp [back]
      rw [hbody]
      exact Text.isStripped_append hkey.nonempty hquoted hkey.stripped.head hlast _
    have htrim : trimChars (layout.line key value) =
        key ++ layout.afterName.chars ++ '=' :: layout.back value := by
      have hfront : ∀ c ∈ layout.indent.chars ++ layout.beforeName.chars, isBlank c = true :=
        List.forall_mem_append.mpr ⟨layout.indent.blank, layout.beforeName.blank⟩
      have hline : layout.line key value = layout.indent.chars ++ layout.beforeName.chars ++
          (key ++ layout.afterName.chars ++ '=' :: layout.back value) ++
            layout.afterValue.chars := by
        simp [line, front, hmarked]
      rw [hline]
      exact Text.stripWhile_append hstripped hfront layout.afterValue.blank
    refine .plain (key ++ layout.afterName.chars) htrim ?_ ?_ ?_ ?_
    · rw [htrim, List.append_assoc, List.head?_append_of_ne_nil _ hkey.nonempty]
      exact hkey.not_comment
    · rw [htrim, List.append_assoc]
      refine hkey.not_marked_append fun c hc => ?_
      cases hgap : layout.afterName.chars with
      | nil =>
        rw [hgap] at hc
        exact .inr (Option.some.inj hc).symm
      | cons d gap =>
        rw [hgap] at hc
        obtain rfl : d = c := Option.some.inj hc
        exact .inl (layout.afterName.blank _ (by rw [hgap]; exact List.mem_cons_self))
    · simp [Gap.no_equals, hkey.no_equals]
    · exact Text.stripWhile_append hkey.stripped (List.forall_mem_nil _) layout.afterName.blank

/-- A definition is laid out in one line. -/
lemma inLine (hkey : IsKey key) (hvalue : IsValue value) : '\n' ∉ layout.line key value := by
  have hmark : '\n' ∉ layout.quoting.mark := fun hmem =>
    absurd (Quoting.isQuote_of_mem_mark _ hmem) (by decide)
  have hword : '\n' ∉ exportWord := by decide
  unfold line front back quoted
  split <;> simp [Gap.inLine, hkey.inLine, hvalue.inLine, hmark, hword]

end Layout

end Layouts

/-! ## Files -/

/-- Of a file the first line that defines a key counts. Let none of the lines in front define it.
If the next line is a layout of a definition of the key, then its value is found, whatever follows.
If it is another definition of the key of whose value nothing is left without blanks and quotes,
then none is found, whatever follows. If it is the last one and does not define the key either, none
is found. -/
theorem first_definition_counts {key : String} {before : List (List Char)}
    (hbefore : ∀ line ∈ before, '\n' ∉ line ∧ ∀ value, ¬ Defines line key.toList value) :
    (∀ (layout : Layout) (value : String) (rest : List Char), IsKey key.toList →
      IsValue value.toList → Text.IsLineEnd rest →
        value? (String.ofList (Text.endLines before ++ (layout.line key.toList value.toList ++ rest)))
          key = some value) ∧
    (∀ line value rest : List Char, '\n' ∉ line → Defines line key.toList value →
      stripValue value = [] → Text.IsLineEnd rest →
        value? (String.ofList (Text.endLines before ++ (line ++ rest))) key = none) ∧
    (∀ line : List Char, '\n' ∉ line → (∀ value, ¬ Defines line key.toList value) →
      value? (String.ofList (Text.endLines before ++ line)) key = none) := by
  have hother : ∀ line ∈ before, ∀ value, ¬ Defines line key.toList value :=
    fun line hline => (hbefore line hline).2
  have hlines : ∀ text : List Char,
      value? (String.ofList (Text.endLines before ++ text)) key =
        (valueIn? key.toList (before ++ Text.lines text)).map String.ofList := by
    intro text
    unfold value?
    rw [String.toList_ofList,
      Text.lines_endLines_append fun line hline => (hbefore line hline).1]
  refine ⟨fun layout value rest hkey hvalue hrest => ?_,
    fun line value rest hline hdefines hempty hrest => ?_, fun line hline hdefines => ?_⟩
  · obtain ⟨after, hafter⟩ := Text.exists_lines_eq_cons (layout.inLine hkey hvalue) hrest
    have hnonempty : value.toList.isEmpty = false := by simpa using hvalue.nonempty
    rw [hlines, hafter, valueIn?_of_defines hother (layout.defines hkey hvalue),
      layout.stripValue_back hvalue, hnonempty]
    simp
  · obtain ⟨after, hafter⟩ := Text.exists_lines_eq_cons hline hrest
    rw [hlines, hafter, valueIn?_of_defines hother hdefines, hempty]
    rfl
  · have hundefined : ∀ other ∈ [line], ∀ value, ¬ Defines other key.toList value :=
      List.forall_mem_singleton.mpr hdefines
    have hnone := valueIn?_append hundefined []
    rw [List.append_nil] at hnone
    rw [hlines, Text.lines_eq_singleton hline, valueIn?_append hother, hnone]
    rfl

/-- In a file with a comment and another key in front, an exported URL between double quotes is
found, and a later definition of the key is not looked at. -/
theorem exported_url_is_found :
    let layout : Layout :=
      { marked := true
        quoting := .double
        indent := .single ' ' (by decide)
        beforeName := .single '\t' (by decide)
        afterName := .single ' ' (by decide)
        beforeValue := .single ' ' (by decide)
        afterValue := .single '\r' (by decide) }
    value? (String.ofList (Text.endLines ["# DATABASE_URL=".toList, "OTHER=1\r".toList] ++
      (layout.line "DATABASE_URL".toList "postgres://a:b=c@db".toList ++
        "\nDATABASE_URL=later".toList))) "DATABASE_URL" = some "postgres://a:b=c@db" := by
  intro layout
  have hbefore : ∀ line ∈ ["# DATABASE_URL=".toList, "OTHER=1\r".toList],
      '\n' ∉ line ∧ ∀ value, ¬ Defines line "DATABASE_URL".toList value := by
    have hcomment : definition? "# DATABASE_URL=".toList = none := by decide
    have hother : definition? "OTHER=1\r".toList = some ("OTHER".toList, ['1']) := by decide
    refine List.forall_mem_cons.mpr ⟨⟨by decide, fun value hdefines => ?_⟩,
      List.forall_mem_singleton.mpr ⟨by decide, fun value hdefines => ?_⟩⟩
    · rw [definition?_eq_some_iff.mpr hdefines] at hcomment
      cases hcomment
    · rw [definition?_eq_some_iff.mpr hdefines] at hother
      exact absurd (Prod.mk.inj (Option.some.inj hother)).1 (by decide)
  have hkey : IsKey "DATABASE_URL".toList :=
    { nonempty := by decide
      stripped := Text.isStripped_of_ends (a := 'D') (b := 'L') (by decide) (by decide) (by decide)
        (by decide)
      ne_export := by decide
      not_marked := by decide
      not_comment := by decide
      no_equals := by decide
      inLine := by decide }
  have hvalue : IsValue "postgres://a:b=c@db".toList :=
    { nonempty := by decide
      stripped := Text.isStripped_of_ends (a := 'p') (b := 'b') (by decide) (by decide) (by decide)
        (by decide)
      inLine := by decide }
  exact (first_definition_counts hbefore).1 layout _ _ hkey hvalue (.inr ⟨_, rfl⟩)

end Secret

end Shipyard
