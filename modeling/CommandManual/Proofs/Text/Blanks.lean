import CommandManual.Proofs.Text.Core

/-!
Blank characters and the solid ones between them. Words are found between blanks, trimming
takes blanks away at the ends of a text, and a block of text that is laid against the left
edge loses and gains nothing else.
-/

namespace CommandManual.Text

/-! ### Words -/

theorem words_cons_of_blank {c : Char} (h : isBlank c = true) (r : Text) :
    words (c :: r) = words r := by
  simp [words, splitWhere, h]

theorem exists_words_cons_eq {c : Char} (h : isBlank c = false) (r : Text) :
    ∃ others, words (c :: r) = (c :: r.takeWhile fun c => !isBlank c) :: others := by
  obtain ⟨pieces, split⟩ := exists_splitWhere_eq isBlank (c :: r)
  refine ⟨pieces.filter fun w => !w.isEmpty, ?_⟩
  rw [words, split]
  simp [h]

theorem words_append_cons {c : Char} (h : isBlank c = true) (s t : Text) :
    words (s ++ c :: t) = words s ++ words t := by
  rw [words, splitWhere_eq_splitOnP, List.splitOnP_append_cons s t h, List.filter_append,
    ← splitWhere_eq_splitOnP, ← splitWhere_eq_splitOnP]
  rfl

/-- The first word of a text: blanks may stand before it, and what comes after it, if
anything does, starts with a blank. -/
structure FirstWord (t word : Text) : Prop where
  nonempty : word ≠ []
  solid : ∀ c ∈ word, isBlank c = false
  parts : ∃ before after, t = before ++ word ++ after ∧ (∀ c ∈ before, isBlank c = true) ∧
    ∀ c, after.head? = some c → isBlank c = true

theorem words_eq_nil_iff {t : Text} : words t = [] ↔ ∀ c ∈ t, isBlank c = true := by
  induction t with
  | nil => simp [words]
  | cons c r ih =>
      cases h : isBlank c with
      | true => simp [words_cons_of_blank h, ih, h]
      | false =>
          obtain ⟨others, found⟩ := exists_words_cons_eq h r
          simp [found, h]

theorem words_append_blanks (s : Text) {t : Text} (blank : ∀ c ∈ t, isBlank c = true) :
    words (s ++ t) = words s := by
  cases t with
  | nil => rw [List.append_nil]
  | cons c r =>
      obtain ⟨first, later⟩ := List.forall_mem_cons.mp blank
      rw [words_append_cons first, words_eq_nil_iff.mpr later, List.append_nil]

theorem firstWord_of_words {t word : Text} {others : List Text} (h : words t = word :: others) :
    FirstWord t word := by
  induction t with
  | nil => cases h
  | cons c r ih =>
      cases blank : isBlank c with
      | true =>
          rw [words_cons_of_blank blank] at h
          obtain ⟨nonempty, solid, before, after, rfl, blanks, ends⟩ := ih h
          exact ⟨nonempty, solid, c :: before, after, rfl, by simpa [blank] using blanks, ends⟩
      | false =>
          obtain ⟨others', found⟩ := exists_words_cons_eq blank r
          obtain ⟨rfl, -⟩ := List.cons.inj (h.symm.trans found)
          refine ⟨List.cons_ne_nil _ _, ?_, [], r.dropWhile (fun c => !isBlank c), ?_, by simp, ?_⟩
          · intro d hd
            rcases List.mem_cons.mp hd with rfl | hd
            · exact blank
            · simpa using List.mem_takeWhile_imp hd
          · simp [List.takeWhile_append_dropWhile]
          · intro d hd
            simpa [hd] using List.head?_dropWhile_not (fun c => !isBlank c) r

/-! ### Trimming -/

structure SolidEnds (t : Text) : Prop where
  head : ∃ c, t.head? = some c ∧ isBlank c = false
  last : ∃ c, t.getLast? = some c ∧ isBlank c = false

/-- Trimming a text takes blanks away at its ends. -/
theorem exists_trim_eq (t : Text) :
    ∃ lead trail, t = lead ++ trim t ++ trail ∧ (∀ c ∈ lead, isBlank c = true) ∧
      ∀ c ∈ trail, isBlank c = true :=
  (core_trim t).parts

theorem solidEnds_trim {t : Text} (h : trim t ≠ []) : SolidEnds (trim t) := by
  constructor
  · have first := List.head?_eq_some_head h
    exact ⟨_, first, (core_trim t).first _ first⟩
  · have final := List.getLast?_eq_some_getLast h
    exact ⟨_, final, (core_trim t).last _ final⟩

theorem SolidEnds.core {lead t trail : Text} (ends : SolidEnds t)
    (leading : ∀ c ∈ lead, isBlank c = true) (trailing : ∀ c ∈ trail, isBlank c = true) :
    Core isBlank (lead ++ t ++ trail) t := by
  obtain ⟨c, first, solidFirst⟩ := ends.head
  obtain ⟨d, final, solidFinal⟩ := ends.last
  refine ⟨⟨lead, trail, rfl, leading, trailing⟩, ?_, ?_⟩
  · simpa [first] using solidFirst
  · simpa [final] using solidFinal

/-- Trimming takes away all that stands around a text with solid ends, if it is blank. -/
theorem SolidEnds.trim_between {lead t trail : Text} (ends : SolidEnds t)
    (leading : ∀ c ∈ lead, isBlank c = true) (trailing : ∀ c ∈ trail, isBlank c = true) :
    trim (lead ++ t ++ trail) = t :=
  (core_trim _).unique (ends.core leading trailing)

theorem SolidEnds.trim_eq {t : Text} (h : SolidEnds t) : trim t = t := by
  have around : trim ([] ++ t ++ []) = t := h.trim_between (by simp) (by simp)
  simpa using around

@[simp] theorem trim_trim (t : Text) : trim (trim t) = trim t := by
  by_cases none : trim t = []
  · rw [none]
    rfl
  · exact (solidEnds_trim none).trim_eq

theorem length_trim_le (t : Text) : (trim t).length ≤ t.length := by
  obtain ⟨lead, trail, parts, -, -⟩ := exists_trim_eq t
  have total := congrArg List.length parts
  rw [List.length_append, List.length_append] at total
  omega

/-! ### Solid characters -/

def solid (t : Text) : Text := t.filter fun c => !isBlank c

@[simp] theorem solid_nil : solid [] = [] := rfl

@[simp] theorem solid_append (s t : Text) : solid (s ++ t) = solid s ++ solid t :=
  List.filter_append s t

theorem solid_cons (c : Char) (r : Text) :
    solid (c :: r) = if isBlank c then solid r else c :: solid r := by
  cases h : isBlank c <;> simp [solid, h]

theorem solid_eq_nil_iff {t : Text} : solid t = [] ↔ ∀ c ∈ t, isBlank c = true := by
  simp [solid]

theorem flatten_words (t : Text) : (words t).flatten = solid t := by
  rw [words, List.flatten_filter_not_isEmpty]
  induction t with
  | nil => rfl
  | cons c r ih =>
      obtain ⟨pieces, split⟩ := exists_splitWhere_eq isBlank r
      rw [split] at ih
      rw [solid_cons, ← ih]
      cases h : isBlank c <;> simp [splitWhere, h, split]

theorem all_isBlank_eq (t : Text) : t.all isBlank = (solid t).isEmpty := by
  rw [Bool.eq_iff_iff, List.all_eq_true, List.isEmpty_iff, solid_eq_nil_iff]

@[simp] theorem solid_trim (t : Text) : solid (trim t) = solid t := by
  obtain ⟨lead, trail, parts, leading, trailing⟩ := exists_trim_eq t
  calc
    solid (trim t) = solid lead ++ solid (trim t) ++ solid trail := by
      rw [solid_eq_nil_iff.mpr leading, solid_eq_nil_iff.mpr trailing, List.nil_append,
        List.append_nil]
    _ = solid (lead ++ trim t ++ trail) := by rw [solid_append, solid_append]
    _ = solid t := by rw [← parts]

theorem trim_eq_nil_iff {t : Text} : trim t = [] ↔ solid t = [] := by
  rw [(core_trim t).eq_nil_iff, solid_eq_nil_iff]

theorem solid_unlines (ls : List Text) : solid (unlines ls) = ls.flatMap solid := by
  cases ls with
  | nil => rfl
  | cons l ls =>
      have later : solid (ls.flatMap ('\n' :: ·)) = ls.flatMap solid := by
        rw [solid, List.filter_flatMap]
        rfl
      rw [unlines_cons, solid_append, later, List.flatMap_cons]

theorem words_append_lines (s : Text) (ls : List Text) :
    words (s ++ ls.flatMap ('\n' :: ·)) = words s ++ ls.flatMap words := by
  have feed : isBlank '\n' = true := rfl
  induction ls generalizing s with
  | nil => simp
  | cons l ls ih =>
      rw [List.flatMap_cons, List.cons_append, words_append_cons feed, ih l, List.flatMap_cons]

theorem flatMap_words_lines (t : Text) : (lines t).flatMap words = words t := by
  rw [lines_eq_firstLine_cons t, List.flatMap_cons, ← words_append_lines, ← unlines_cons,
    ← lines_eq_firstLine_cons, unlines_lines]

theorem flatMap_solid_lines (t : Text) : (lines t).flatMap solid = solid t := by
  rw [← solid_unlines, unlines_lines]

/-! ### Blocks -/

theorem solid_expandTabsFrom (column : Nat) (t : Text) :
    solid (expandTabsFrom column t) = solid t := by
  have tab : isBlank '\t' = true := by decide
  have space : isBlank ' ' = true := by decide
  fun_induction expandTabsFrom column t with
  | case1 => rfl
  | case2 column r width ih =>
      rw [solid_append, ih, solid_eq_nil_iff.mpr (by simp [space])]
      simp [solid, tab]
  | case3 column c r _ _ ih => rw [solid_cons, ih, ← solid_cons]
  | case4 column c r _ _ ih => rw [solid_cons, ih, ← solid_cons]

theorem solid_trimStart (t : Text) : solid (trimStart t) = solid t := by
  have lead : solid (t.takeWhile isBlank) = [] :=
    solid_eq_nil_iff.mpr fun c hc => List.mem_takeWhile_imp hc
  calc
    solid (trimStart t) = solid (t.takeWhile isBlank) ++ solid (trimStart t) := by rw [lead]; rfl
    _ = solid t := by rw [← solid_append, trimStart, List.takeWhile_append_dropWhile]

/-- What is left between the empty lines at both ends. -/
theorem dropEmptyEnds_eq_append (ls : List Text) :
    ∃ before after, ls = before ++ dropEmptyEnds ls ++ after ∧ (∀ l ∈ before, l = []) ∧
      ∀ l ∈ after, l = [] := by
  obtain ⟨before, after, parts, leading, trailing⟩ := (core_dropEmptyEnds ls).parts
  exact ⟨before, after, parts, fun l hl => List.isEmpty_iff.mp (leading l hl),
    fun l hl => List.isEmpty_iff.mp (trailing l hl)⟩

theorem flatMap_solid_dropEmptyEnds (ls : List Text) :
    (dropEmptyEnds ls).flatMap solid = ls.flatMap solid := by
  have empty {ms : List Text} (h : ∀ m ∈ ms, m = []) : ms.flatMap solid = [] := by
    refine List.flatMap_eq_nil_iff.mpr fun m hm => ?_
    rw [h m hm]
    rfl
  obtain ⟨before, after, parts, leading, trailing⟩ := dropEmptyEnds_eq_append ls
  conv_rhs => rw [parts]
  rw [List.flatMap_append, List.flatMap_append, empty leading, empty trailing, List.nil_append,
    List.append_nil]

/-- A line loses nothing but blanks, if it does not lose more than its indentation. -/
theorem solid_drop {line : Text} {n : Nat} (h : ∀ indent, indent? line = some indent → n ≤ indent) :
    solid (line.drop n) = solid line := by
  have dropped : solid (line.take n) = [] := by
    rw [solid_eq_nil_iff]
    intro c hc
    cases blank : line.all isBlank with
    | true => exact List.all_eq_true.mp blank c (List.mem_of_mem_take hc)
    | false =>
        -- What is dropped are the first of the blanks that the line starts with.
        have within : n ≤ (line.takeWhile isBlank).length := h _ (by simp [indent?, blank])
        have first : line.take n <+: line.takeWhile isBlank :=
          List.prefix_of_prefix_length_le (List.take_prefix n line)
            (List.takeWhile_prefix isBlank) ((List.length_take_le n line).trans within)
        exact List.mem_takeWhile_imp (first.subset hc)
  calc
    solid (line.drop n) = solid (line.take n) ++ solid (line.drop n) := by rw [dropped]; rfl
    _ = solid line := by rw [← solid_append, List.take_append_drop]

theorem margin?_le {ls : List Text} {line : Text} {indent : Nat} (hmem : line ∈ ls)
    (h : indent? line = some indent) : (margin? ls).getD 0 ≤ indent := by
  have listed : indent ∈ ls.filterMap indent? := List.mem_filterMap.mpr ⟨line, hmem, h⟩
  cases least : margin? ls with
  | none => exact Nat.zero_le _
  | some margin => exact (List.min?_eq_some_iff.mp least).2 indent listed

/-- Laying a block against the left edge keeps every character that is not blank. -/
theorem solid_dedent (t : Text) : solid (dedent t) = solid t := by
  rw [← solid_expandTabsFrom 0 t, ← flatMap_solid_lines (expandTabsFrom 0 t)]
  unfold dedent
  split
  · rename_i none
    exact absurd none (lines_ne_nil _)
  · rename_i first others split
    have each (line : Text) (hmem : line ∈ others) :
        solid (line.drop ((margin? others).getD 0)) = solid line :=
      solid_drop fun _ => margin?_le hmem
    rw [solid_unlines, flatMap_solid_dropEmptyEnds, show expandTabsFrom 0 t = expandTabs t from rfl,
      split, List.flatMap_cons, List.flatMap_cons, solid_trimStart, List.flatMap_map,
      List.flatMap_congr each]

theorem all_isBlank_dedent (t : Text) : (dedent t).all isBlank = t.all isBlank := by
  rw [all_isBlank_eq, all_isBlank_eq, solid_dedent]

end CommandManual.Text
