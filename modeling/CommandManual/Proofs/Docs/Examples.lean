import CommandManual.Docs.Docblock
import CommandManual.Proofs.Text.Occurrences
import CommandManual.Proofs.Text.Trimmed

/-!
The examples of a long description. They start after the first examples marker, and what stands
around that marker makes up the rest of the description. Cleaning takes blanks away at the ends
of their lines and blank lines at the ends of the whole, and nothing else.
-/

namespace CommandManual.Docblock

/-! ### Where the examples start -/

theorem unbordered_examplesMarker : Text.Unbordered examplesMarker := by decide

theorem firstCut_splitSections {body : Text} (marked : examplesMarker <:+: body) :
    Text.FirstCut examplesMarker body (splitSections body).1 (splitSections body).2 := by
  obtain ⟨parts, cut⟩ := Option.ne_none_iff_exists'.mp (Text.cut?_ne_none_of_isInfix marked)
  rw [splitSections, cut, Option.getD_some]
  exact Text.firstCut_of_cut? cut

theorem splitSections_of_unmarked {body : Text} (unmarked : ¬ examplesMarker <:+: body) :
    splitSections body = (body, []) := by
  rw [splitSections, Text.cut?_eq_none_iff.mpr unmarked, Option.getD_none]

/-- A description is cut at its first examples marker and nothing of it is lost: the options,
the marker and the examples make it up, and a marker neither starts before the end of the
options nor runs across it. The other markers are those in the examples. A description without
a marker has options only. -/
theorem sections_cut_at_first_marker (body : Text) :
    (examplesMarker <:+: body →
      ∃ options examples, splitSections body = (options, examples) ∧
        options ++ examplesMarker ++ examples = body ∧
        (∀ i < options.length, ¬ Text.OccursAt examplesMarker body i) ∧
        ¬ examplesMarker <:+: options ∧
        ¬ Text.Crosses examplesMarker [options, examplesMarker ++ examples] ∧
        ∀ i, Text.OccursAt examplesMarker body i ↔ i = options.length ∨
          ∃ j, Text.OccursAt examplesMarker examples j ∧
            i = options.length + examplesMarker.length + j) ∧
    (¬ examplesMarker <:+: body → splitSections body = (body, [])) := by
  refine ⟨fun marked => ?_, splitSections_of_unmarked⟩
  have cut := firstCut_splitSections marked
  refine ⟨_, _, rfl, cut.parts.symm, ?_, cut.not_isInfix (by decide), cut.not_crosses,
    fun i => cut.occursAt_iff unbordered_examplesMarker⟩
  intro i before occurs
  exact Nat.not_le.mpr before (cut.length_le_of_occursAt occurs)

/-- A description with parts of markers before the first one, and two markers after it. -/
def crowdedBody : Text :=
  "## EXAMPLE\n### ## EXAMPLES\n$ a\n## EXAMPLES## EXAMPLES".toList

theorem crowded_body_cut_at_first_marker :
    examplesMarker <:+: crowdedBody ∧
      splitSections crowdedBody =
        ("## EXAMPLE\n### ".toList, "\n$ a\n## EXAMPLES## EXAMPLES".toList) ∧
      (∀ i < 15, ¬ Text.OccursAt examplesMarker crowdedBody i) ∧
      Text.OccursAt examplesMarker crowdedBody 31 ∧
      splitSections "## EXAMPLE S".toList = ("## EXAMPLE S".toList, []) := by
  have marked : examplesMarker <:+: crowdedBody :=
    Text.contains_eq_true_iff.mp (by decide +kernel)
  have unmarked : ¬ examplesMarker <:+: "## EXAMPLE S".toList :=
    Text.cut?_eq_none_iff.mp (by decide +kernel)
  have parts : splitSections crowdedBody =
      ("## EXAMPLE\n### ".toList, "\n$ a\n## EXAMPLES## EXAMPLES".toList) := by decide +kernel
  obtain ⟨options, examples, cut, -, first, -, -, others⟩ :=
    (sections_cut_at_first_marker crowdedBody).1 marked
  obtain ⟨rfl, rfl⟩ := Prod.mk.inj (parts.symm.trans cut)
  have second : Text.OccursAt examplesMarker "\n$ a\n## EXAMPLES## EXAMPLES".toList 5 := by
    decide +kernel
  exact ⟨marked, parts, first, (others 31).mpr (.inr ⟨5, second, by decide +kernel⟩),
    (sections_cut_at_first_marker _).2 unmarked⟩

/-! ### Cleaned examples -/

theorem cleanExamples_eq (t : Text) :
    cleanExamples t = Text.unlines (Text.dropEmptyEnds ((Text.lines t).map Text.trim)) := by
  apply Text.trim_unlines
  intro l hl
  obtain ⟨m, -, rfl⟩ := List.mem_map.mp hl
  exact Text.trim_trim m

section Kept

variable {t : Text} {kept : List Text}
  (core : Text.Core (List.all · Text.isBlank) (Text.lines t) kept)

include core

theorem cleanExamples_eq_unlines : cleanExamples t = Text.unlines (kept.map Text.trim) := by
  rw [cleanExamples_eq, Text.dropEmptyEnds_map_trim core]

/-- The lines of cleaned examples are the trimmed lines between the blank ones at both ends. -/
theorem lines_cleanExamples (written : kept ≠ []) :
    Text.lines (cleanExamples t) = kept.map Text.trim := by
  rw [cleanExamples_eq_unlines core]
  refine Text.lines_unlines (by simpa using written) fun l hl => ?_
  obtain ⟨m, hm, rfl⟩ := List.mem_map.mp hl
  exact Text.newline_not_mem_trim (Text.newline_not_mem_of_mem_lines (core.subset hm))

end Kept

theorem exists_core_lines (t : Text) :
    ∃ kept, Text.Core (List.all · Text.isBlank) (Text.lines t) kept :=
  ⟨_, Text.core_rdropWhile_dropWhile _ _⟩

theorem trim_of_mem_lines_cleanExamples {t l : Text} (h : l ∈ Text.lines (cleanExamples t)) :
    Text.trim l = l := by
  obtain ⟨kept, core⟩ := exists_core_lines t
  by_cases none : kept = []
  · -- Without such lines the cleaned text is empty, and an empty text has one line.
    rw [cleanExamples_eq_unlines core, none] at h
    rw [List.mem_singleton.mp h]
    rfl
  · rw [lines_cleanExamples core none] at h
    obtain ⟨m, -, rfl⟩ := List.mem_map.mp h
    exact Text.trim_trim m

/-- Examples stay as they are when they are cleaned exactly if they are trimmed, as a whole and
line by line. -/
theorem cleanExamples_eq_self_iff {t : Text} :
    cleanExamples t = t ↔ Text.trim t = t ∧ ∀ l ∈ Text.lines t, Text.trim l = l := by
  constructor
  · intro same
    refine ⟨?_, fun l hl => ?_⟩
    · rw [← same]
      exact Text.trim_trim _
    · rw [← same] at hl
      exact trim_of_mem_lines_cleanExamples hl
  · rintro ⟨trimmed, each⟩
    rw [cleanExamples, List.map_congr_left each, List.map_id', Text.unlines_lines, trimmed]

theorem cleanExamples_eq_nil_iff {t : Text} :
    cleanExamples t = [] ↔ ∀ l ∈ Text.lines t, l.all Text.isBlank = true := by
  rw [cleanExamples, Text.trim_eq_nil_iff, Text.solid_unlines, List.flatMap_map,
    List.flatMap_eq_nil_iff]
  refine forall₂_congr fun l _ => ?_
  rw [Text.solid_trim, Text.all_isBlank_eq, List.isEmpty_iff]

/-- Cleaning only trims. If some line of a text is not blank, the lines of the cleaned text are
the lines between the blank ones at both ends, each without the blanks around it; blank lines
between them are kept as empty ones. Otherwise, and only then, nothing is left. Cleaning a text
that was cleaned changes nothing. -/
theorem examples_only_trimmed (x : Text) :
    ((∃ l ∈ Text.lines x, l.all Text.isBlank = false) →
      ∃ kept, Text.Core (List.all · Text.isBlank) (Text.lines x) kept ∧
        Text.lines (cleanExamples x) = kept.map Text.trim ∧
        ∀ l ∈ kept, Text.Core Text.isBlank l (Text.trim l)) ∧
    (cleanExamples x = [] ↔ ∀ l ∈ Text.lines x, l.all Text.isBlank = true) ∧
    cleanExamples (cleanExamples x) = cleanExamples x := by
  refine ⟨?_, cleanExamples_eq_nil_iff, ?_⟩
  · rintro ⟨l, hl, solidLine⟩
    obtain ⟨kept, core⟩ := exists_core_lines x
    have written : kept ≠ [] := by
      rw [ne_eq, core.eq_nil_iff]
      intro blank
      simp [blank l hl] at solidLine
    exact ⟨kept, core, lines_cleanExamples core written, fun m _ => Text.core_trim m⟩
  · exact cleanExamples_eq_self_iff.mpr
      ⟨Text.trim_trim _, fun _ => trim_of_mem_lines_cleanExamples⟩

/-- Examples with blanks that look like line breaks, around lines and within one. -/
def spacedExamples : Text :=
  "\u2028\n \t\n  # First.\x0b\n\u3000\n\x85$ wp a\u2028b\x1c\n\x0c".toList

theorem spaced_examples_only_trimmed :
    (∃ l ∈ Text.lines spacedExamples, l.all Text.isBlank = false) ∧
      Text.lines (cleanExamples spacedExamples) =
        ["# First.".toList, [], "$ wp a\u2028b".toList] ∧
      cleanExamples "\u2028\n\x0c\n".toList = [] ∧
      cleanExamples (cleanExamples spacedExamples) = cleanExamples spacedExamples := by
  have written : ∃ l ∈ Text.lines spacedExamples, l.all Text.isBlank = false := by
    decide +kernel
  obtain ⟨between, -, again⟩ := examples_only_trimmed spacedExamples
  obtain ⟨kept, core, lines, -⟩ := between written
  rw [core.eq_rdropWhile_dropWhile] at lines
  refine ⟨written, lines.trans (by decide +kernel), ?_, again⟩
  exact (examples_only_trimmed _).2.1.mpr (by decide +kernel)

end CommandManual.Docblock
