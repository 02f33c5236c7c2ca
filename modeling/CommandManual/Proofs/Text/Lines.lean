import CommandManual.Text.Basic
import Mathlib.Data.List.DropRight

/-!
The lines of a text. Splitting, joining and trimming at the end are those of the list
library. Reading the lines of a text and writing them one after the other undo each other,
and a line feed parts the lines before it from the lines after it.
-/

namespace CommandManual.Text

/-! ### Splitting and joining -/

theorem splitWhere_eq_splitOnP (p : Char → Bool) (t : Text) :
    splitWhere p t = t.splitOnP p := by
  induction t with
  | nil => simp
  | cons c r ih =>
      rw [splitWhere, List.splitOnP_cons_eq_if_modifyHead, ih]
      cases h : r.splitOnP p with
      | nil => exact absurd h (List.splitOnP_ne_nil p r)
      | cons piece pieces => rfl

theorem joinWith_eq_intercalate (sep : Text) (ts : List Text) :
    joinWith sep ts = sep.intercalate ts := by
  fun_induction joinWith sep ts with
  | case1 => rfl
  | case2 t => exact List.intercalate_singleton.symm
  | case3 t ts rest ih => rw [ih, List.intercalate_cons_of_ne_nil rest]

theorem dropEndWhile_eq_rdropWhile (p : Char → Bool) (t : Text) :
    dropEndWhile p t = t.rdropWhile p := by
  induction t with
  | nil => rfl
  | cons c r ih =>
      rw [dropEndWhile, ih, List.rdropWhile, List.rdropWhile, List.reverse_cons,
        List.dropWhile_append]
      cases h : r.reverse.dropWhile p with
      | nil => cases hc : p c <;> simp [hc]
      | cons d kept => simp

/-- What cannot be taken at all takes nothing further when it comes last. -/
theorem takeWhile_append_of_stop {α : Type} {p : α → Bool} {s t : List α}
    (stop : t.takeWhile p = []) : (s ++ t).takeWhile p = s.takeWhile p := by
  rw [List.takeWhile_append, stop, List.append_nil]
  split
  · rename_i whole
    exact ((List.takeWhile_prefix p).eq_of_length whole).symm
  · rfl

/-- The first piece of a split reaches up to the first character that is split at. -/
theorem exists_splitWhere_eq (p : Char → Bool) (t : Text) :
    ∃ pieces, splitWhere p t = t.takeWhile (fun c => !p c) :: pieces := by
  induction t with
  | nil => exact ⟨[], rfl⟩
  | cons c r ih =>
      obtain ⟨pieces, later⟩ := ih
      cases h : p c with
      | true => exact ⟨splitWhere p r, by simp [splitWhere, h]⟩
      | false => exact ⟨pieces, by simp [splitWhere, h, later]⟩

theorem not_of_mem_splitWhere {p : Char → Bool} {t piece : Text} (h : piece ∈ splitWhere p t) :
    ∀ c ∈ piece, p c = false := by
  induction t generalizing piece with
  | nil => simp_all
  | cons c r ih =>
      cases hc : p c with
      | true =>
          rw [splitWhere, if_pos hc, List.mem_cons] at h
          rcases h with rfl | later
          · simp
          · exact ih later
      | false =>
          obtain ⟨pieces, split⟩ := exists_splitWhere_eq p r
          rw [split] at ih
          rw [splitWhere, if_neg (by simp [hc]), split, List.mem_cons] at h
          rcases h with rfl | later
          · exact List.forall_mem_cons.mpr ⟨hc, ih List.mem_cons_self⟩
          · exact ih (List.mem_cons_of_mem _ later)

theorem splitWhere_eq_singleton {p : Char → Bool} {t : Text} (h : ∀ c ∈ t, p c = false) :
    splitWhere p t = [t] := by
  rw [splitWhere_eq_splitOnP, List.splitOnP_eq_singleton h]

/-! ### Lines -/

theorem lines_eq_splitOn (t : Text) : lines t = t.splitOn '\n' := by
  rw [lines, splitWhere_eq_splitOnP, List.splitOn_eq_splitOnP]

@[simp] theorem lines_ne_nil (t : Text) : lines t ≠ [] := splitWhere_ne_nil _ t

@[simp] theorem unlines_lines (t : Text) : unlines (lines t) = t := by
  rw [unlines, joinWith_eq_intercalate, lines_eq_splitOn, List.intercalate_splitOn]

theorem lines_unlines {ls : List Text} (nonempty : ls ≠ []) (single : ∀ l ∈ ls, '\n' ∉ l) :
    lines (unlines ls) = ls := by
  rw [lines_eq_splitOn, unlines, joinWith_eq_intercalate,
    List.splitOn_intercalate '\n' single nonempty]

/-- A line feed ends a line wherever it stands. -/
theorem lines_append_newline (s t : Text) : lines (s ++ '\n' :: t) = lines s ++ lines t := by
  simp only [lines, splitWhere_eq_splitOnP]
  exact List.splitOnP_append_cons s t rfl

theorem lines_eq_singleton {t : Text} (single : '\n' ∉ t) : lines t = [t] := by
  refine splitWhere_eq_singleton fun c hc => beq_false_of_ne ?_
  rintro rfl
  exact single hc

theorem unlines_cons (l : Text) (ls : List Text) :
    unlines (l :: ls) = l ++ ls.flatMap ('\n' :: ·) := by
  induction ls generalizing l with
  | nil => simp [unlines, joinWith]
  | cons m ms ih =>
      have joined : unlines (l :: m :: ms) = l ++ ['\n'] ++ unlines (m :: ms) := rfl
      rw [joined, ih, List.flatMap_cons]
      simp

theorem newline_not_mem_of_mem_lines {t l : Text} (h : l ∈ lines t) : '\n' ∉ l := by
  intro newline
  simpa using not_of_mem_splitWhere h '\n' newline

/-- The lines of a text are its first line and those that follow it. -/
theorem lines_eq_firstLine_cons (t : Text) : lines t = firstLine t :: (lines t).tail := by
  obtain ⟨pieces, split⟩ := exists_splitWhere_eq (· == '\n') t
  rw [lines, split]
  rfl

/-- What stands before the first line of a text on the same line belongs to that line. -/
theorem lines_append_of_single {s : Text} (single : '\n' ∉ s) (t : Text) :
    lines (s ++ t) = (s ++ firstLine t) :: (lines t).tail := by
  have singles : ∀ l ∈ firstLine t :: (lines t).tail, '\n' ∉ l := by
    rw [← lines_eq_firstLine_cons]
    exact fun l => newline_not_mem_of_mem_lines
  obtain ⟨first, later⟩ := List.forall_mem_cons.mp singles
  have joined : s ++ t = unlines ((s ++ firstLine t) :: (lines t).tail) := by
    rw [unlines_cons, List.append_assoc, ← unlines_cons, ← lines_eq_firstLine_cons, unlines_lines]
  rw [joined]
  refine lines_unlines (List.cons_ne_nil _ _) (List.forall_mem_cons.mpr ⟨?_, later⟩)
  rw [List.mem_append, not_or]
  exact ⟨single, first⟩

end CommandManual.Text
