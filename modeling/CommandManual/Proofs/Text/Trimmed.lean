import CommandManual.Proofs.Text.Blanks

/-!
Texts of trimmed lines. Trimming such a text as a whole takes away the empty lines at its ends
and cuts into no line: the first and the last line that are left start and end with a character
that is no blank.
-/

namespace CommandManual.Text

/-! ### Lines at the ends -/

theorem unlines_append_of_ne_nil (before : List Text) {ls : List Text} (nonempty : ls ≠ []) :
    unlines (before ++ ls) = before.flatMap (· ++ ['\n']) ++ unlines ls := by
  induction before with
  | nil => rfl
  | cons l before ih =>
      obtain ⟨m, ms, more⟩ := List.exists_cons_of_ne_nil
        (List.append_ne_nil_of_right_ne_nil before nonempty)
      have joined : unlines (l :: (m :: ms)) = l ++ ['\n'] ++ unlines (m :: ms) := rfl
      rw [List.cons_append, List.flatMap_cons, List.append_assoc, ← ih, more, joined]

theorem unlines_append_left {ls : List Text} (nonempty : ls ≠ []) (after : List Text) :
    unlines (ls ++ after) = unlines ls ++ after.flatMap ('\n' :: ·) := by
  obtain ⟨l, others, rfl⟩ := List.exists_cons_of_ne_nil nonempty
  rw [List.cons_append, unlines_cons, unlines_cons, List.flatMap_append, List.append_assoc]

/-- Lines with solid lines at both ends make up a text with solid ends. -/
theorem solidEnds_unlines {ls : List Text} (nonempty : ls ≠ [])
    (first : SolidEnds (ls.head nonempty)) (final : SolidEnds (ls.getLast nonempty)) :
    SolidEnds (unlines ls) := by
  constructor
  · obtain ⟨l, others, rfl⟩ := List.exists_cons_of_ne_nil nonempty
    obtain ⟨c, start, solid⟩ := first.head
    rw [List.head_cons] at start
    refine ⟨c, ?_, solid⟩
    rw [unlines_cons, List.head?_append, start, Option.some_or]
  · obtain ⟨c, stop, solid⟩ := final.last
    refine ⟨c, ?_, solid⟩
    rw [← List.dropLast_append_getLast nonempty, unlines_append_of_ne_nil _ (by simp)]
    have last : (unlines [ls.getLast nonempty]).getLast? = some c := stop
    rw [List.getLast?_append, last, Option.some_or]

theorem head_dropEmptyEnds_ne_nil {ls : List Text} (h : dropEmptyEnds ls ≠ []) :
    (dropEmptyEnds ls).head h ≠ [] := by
  have first := (core_dropEmptyEnds ls).first _ (List.head?_eq_some_head h)
  rwa [List.isEmpty_eq_false_iff] at first

theorem getLast_dropEmptyEnds_ne_nil {ls : List Text} (h : dropEmptyEnds ls ≠ []) :
    (dropEmptyEnds ls).getLast h ≠ [] := by
  have final := (core_dropEmptyEnds ls).last _ (List.getLast?_eq_some_getLast h)
  rwa [List.isEmpty_eq_false_iff] at final

/-! ### Trimmed lines -/

theorem solidEnds_of_trim_eq {t : Text} (trimmed : trim t = t) (nonempty : t ≠ []) :
    SolidEnds t := by
  rw [← trimmed] at nonempty ⊢
  exact solidEnds_trim nonempty

theorem isBlank_of_mem_empty_lines {ls : List Text} (empty : ∀ l ∈ ls, l = []) :
    (∀ c ∈ ls.flatMap (· ++ ['\n']), isBlank c = true) ∧
      ∀ c ∈ ls.flatMap ('\n' :: ·), isBlank c = true := by
  have newline : isBlank '\n' = true := by decide
  constructor <;> intro c hc
  all_goals
    obtain ⟨l, hl, hmem⟩ := List.mem_flatMap.mp hc
    rw [empty l hl] at hmem
    obtain rfl := List.mem_singleton.mp hmem
    exact newline

/-- Trimming a text of trimmed lines drops the empty lines at both ends. -/
theorem trim_unlines {ls : List Text} (trimmed : ∀ l ∈ ls, trim l = l) :
    trim (unlines ls) = unlines (dropEmptyEnds ls) := by
  obtain ⟨before, after, parts, leading, trailing⟩ := dropEmptyEnds_eq_append ls
  by_cases none : dropEmptyEnds ls = []
  · have empty : ls.flatMap solid = [] := by
      rw [← flatMap_solid_dropEmptyEnds, none]
      rfl
    have blank : trim (unlines ls) = [] := by rw [trim_eq_nil_iff, solid_unlines, empty]
    rw [blank, none]
    rfl
  · have kept (l : Text) (h : l ∈ dropEmptyEnds ls) : trim l = l :=
      trimmed l ((core_dropEmptyEnds ls).subset h)
    have ends : SolidEnds (unlines (dropEmptyEnds ls)) := by
      apply solidEnds_unlines none
      · exact solidEnds_of_trim_eq (kept _ (List.head_mem none)) (head_dropEmptyEnds_ne_nil none)
      · exact solidEnds_of_trim_eq (kept _ (List.getLast_mem none))
          (getLast_dropEmptyEnds_ne_nil none)
    have whole : unlines ls = before.flatMap (· ++ ['\n']) ++ unlines (dropEmptyEnds ls) ++
        after.flatMap ('\n' :: ·) := by
      have later : dropEmptyEnds ls ++ after ≠ [] := List.append_ne_nil_of_left_ne_nil none _
      conv_lhs => rw [parts, List.append_assoc]
      rw [unlines_append_of_ne_nil before later, unlines_append_left none, List.append_assoc]
    rw [whole, ends.trim_between (isBlank_of_mem_empty_lines leading).1
      (isBlank_of_mem_empty_lines trailing).2]

theorem newline_not_mem_trim {t : Text} (single : '\n' ∉ t) : '\n' ∉ trim t :=
  fun newline => single ((core_trim t).subset newline)

end CommandManual.Text
