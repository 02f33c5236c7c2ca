import CommandManual.Proofs.Text.Lines
import CommandManual.Text.Indent
import Mathlib.Data.List.TakeWhile

/-!
What is left of a list when the members at its ends that satisfy a condition are taken away:
the text between the blanks around it, or the lines between the empty lines around them. A list
has one such part, and changing the members before or after it is taken comes to the same.
-/

namespace CommandManual.Text

/-! ### Cores -/

section Cores

variable {α β : Type} {p : α → Bool} {whole core : List α}

/-- The part of a list between the members at its ends that satisfy a condition. It starts and
ends with a member that does not, unless it is empty. -/
structure Core (p : α → Bool) (whole core : List α) : Prop where
  parts : ∃ before after, whole = before ++ core ++ after ∧ (∀ a ∈ before, p a = true) ∧
    ∀ a ∈ after, p a = true
  first : ∀ a, core.head? = some a → p a = false
  last : ∀ a, core.getLast? = some a → p a = false

theorem core_rdropWhile_dropWhile (p : α → Bool) (whole : List α) :
    Core p whole ((whole.dropWhile p).rdropWhile p) := by
  refine ⟨⟨whole.takeWhile p, (whole.dropWhile p).rtakeWhile p, ?_, ?_, ?_⟩, ?_, ?_⟩
  · rw [List.append_assoc, List.rdropWhile_append_rtakeWhile, List.takeWhile_append_dropWhile]
  · exact fun a ha => List.mem_takeWhile_imp ha
  · exact fun a ha => List.mem_rtakeWhile_imp ha
  · -- What is left after dropping at the end starts as it did before.
    intro a first
    obtain ⟨dropped, start⟩ := List.rdropWhile_prefix p (whole.dropWhile p)
    have same : (whole.dropWhile p).head? = some a := by
      rw [← start, List.head?_append, first, Option.some_or]
    simpa [same] using List.head?_dropWhile_not p whole
  · intro a final
    have nonempty := List.ne_nil_of_mem (List.mem_of_getLast? final)
    rw [List.getLast?_eq_some_getLast nonempty, Option.some.injEq] at final
    simpa [final] using List.rdropWhile_last_not p (whole.dropWhile p) nonempty

theorem dropWhile_append_of_stop {before rest : List α} (passed : ∀ a ∈ before, p a = true)
    (stop : ∀ a, rest.head? = some a → p a = false) : (before ++ rest).dropWhile p = rest := by
  rw [List.dropWhile_append_of_pos passed]
  cases rest with
  | nil => rfl
  | cons a rest => exact List.dropWhile_cons_of_neg (by simp [stop a rfl])

namespace Core

theorem subset (h : Core p whole core) : core ⊆ whole := by
  obtain ⟨before, after, rfl, -, -⟩ := h.parts
  exact fun a ha => List.mem_append_left _ (List.mem_append_right _ ha)

theorem eq_nil_iff (h : Core p whole core) : core = [] ↔ ∀ a ∈ whole, p a = true := by
  obtain ⟨before, after, rfl, leading, trailing⟩ := h.parts
  constructor
  · rintro rfl a ha
    rw [List.append_nil, List.mem_append] at ha
    exact ha.elim (leading a) (trailing a)
  · intro all
    by_contra nonempty
    obtain ⟨a, r, rfl⟩ := List.exists_cons_of_ne_nil nonempty
    have passed := all a (by simp)
    simp [h.first a rfl] at passed

theorem eq_rdropWhile_dropWhile (h : Core p whole core) :
    core = (whole.dropWhile p).rdropWhile p := by
  obtain ⟨before, after, split, leading, trailing⟩ := h.parts
  by_cases empty : core = []
  · have nothing : whole.dropWhile p = [] := List.dropWhile_eq_nil_iff.mpr (h.eq_nil_iff.mp empty)
    rw [nothing, empty, List.rdropWhile_nil]
  · have start : whole.dropWhile p = core ++ after := by
      rw [split, List.append_assoc]
      refine dropWhile_append_of_stop leading fun a first => h.first a ?_
      rwa [List.head?_append_of_ne_nil _ empty] at first
    have final : (core ++ after).rdropWhile p = core := by
      rw [List.rdropWhile, List.reverse_append, dropWhile_append_of_stop, List.reverse_reverse]
      · exact fun a ha => trailing a (List.mem_reverse.mp ha)
      · exact fun a first => h.last a (by rwa [List.head?_reverse] at first)
    rw [start, final]

theorem unique {core' : List α} (h : Core p whole core) (h' : Core p whole core') :
    core = core' := by
  rw [h.eq_rdropWhile_dropWhile, h'.eq_rdropWhile_dropWhile]

theorem map {q : β → Bool} {f : α → β} (same : ∀ a, q (f a) = p a) (h : Core p whole core) :
    Core q (whole.map f) (core.map f) := by
  obtain ⟨before, after, rfl, leading, trailing⟩ := h.parts
  refine ⟨⟨before.map f, after.map f, by simp, ?_, ?_⟩, ?_, ?_⟩
  · simpa [same] using leading
  · simpa [same] using trailing
  · intro b first
    rw [List.head?_map] at first
    obtain ⟨a, found, rfl⟩ := Option.map_eq_some_iff.mp first
    rw [same, h.first a found]
  · intro b final
    rw [List.getLast?_map] at final
    obtain ⟨a, found, rfl⟩ := Option.map_eq_some_iff.mp final
    rw [same, h.last a found]

end Core

end Cores

/-! ### Texts and lines -/

theorem core_trim (t : Text) : Core isBlank t (trim t) := by
  rw [trim, trimEnd, dropEndWhile_eq_rdropWhile]
  exact core_rdropWhile_dropWhile isBlank t

theorem core_dropEmptyEnds (ls : List Text) : Core List.isEmpty ls (dropEmptyEnds ls) :=
  core_rdropWhile_dropWhile List.isEmpty ls

theorem isEmpty_trim (t : Text) : (trim t).isEmpty = t.all isBlank := by
  rw [Bool.eq_iff_iff, List.isEmpty_iff, List.all_eq_true, (core_trim t).eq_nil_iff]

/-- The lines between blank lines, once they are trimmed, are the trimmed lines between empty
ones. -/
theorem dropEmptyEnds_map_trim {ls kept : List Text} (h : Core (List.all · isBlank) ls kept) :
    dropEmptyEnds (ls.map trim) = kept.map trim :=
  (core_dropEmptyEnds (ls.map trim)).unique (h.map isEmpty_trim)

end CommandManual.Text
