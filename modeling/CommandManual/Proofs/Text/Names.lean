import CommandManual.Text.Basic
import Mathlib.Data.List.Sort
import Mathlib.Data.String.Basic

/-!
Names in increasing order. Sorting them is insertion sort by code points.
-/

namespace CommandManual.Text

theorem insertName_eq_orderedInsert (name : String) (names : List String) :
    insertName name names = names.orderedInsert (· ≤ ·) name := by
  induction names with
  | nil => rfl
  | cons other rest ih => rw [insertName, List.orderedInsert_cons, ih]

theorem sortNames_eq_insertionSort (names : List String) :
    sortNames names = names.insertionSort (· ≤ ·) := by
  induction names with
  | nil => rfl
  | cons name rest ih =>
      rw [List.insertionSort_cons, ← ih, ← insertName_eq_orderedInsert]
      rfl

theorem sortNames_perm (names : List String) : (sortNames names).Perm names := by
  rw [sortNames_eq_insertionSort]
  exact List.perm_insertionSort _ names

@[simp] theorem mem_sortNames {name : String} {names : List String} :
    name ∈ sortNames names ↔ name ∈ names :=
  (sortNames_perm names).mem_iff

theorem pairwise_le_sortNames (names : List String) : (sortNames names).Pairwise (· ≤ ·) := by
  rw [sortNames_eq_insertionSort]
  exact List.pairwise_insertionSort _ names

/-- Names that differ from each other come out strictly increasing. -/
theorem pairwise_lt_sortNames {names : List String} (distinct : names.Nodup) :
    (sortNames names).Pairwise (· < ·) := by
  have differ : (sortNames names).Pairwise (· ≠ ·) := (sortNames_perm names).nodup_iff.mpr distinct
  exact ((pairwise_le_sortNames names).and differ).imp fun ⟨le, ne⟩ => lt_of_le_of_ne le ne

/-- Sorting forgets the order that the names were in. -/
theorem sortNames_eq_of_perm {names names' : List String} (perm : names.Perm names') :
    sortNames names = sortNames names' :=
  ((sortNames_perm names).trans (perm.trans (sortNames_perm names').symm)).eq_of_pairwise'
    (pairwise_le_sortNames names) (pairwise_le_sortNames names')

/-- Names in increasing order are parted by a name. -/
theorem filter_lt_append {names : List String} (sorted : names.Pairwise (· ≤ ·))
    (bound : String) :
    names.filter (· < bound) ++ names.filter (¬ · < bound) = names := by
  induction names with
  | nil => rfl
  | cons first rest ih =>
      obtain ⟨least, sorted⟩ := List.pairwise_cons.mp sorted
      by_cases h : first < bound
      · simp only [List.filter_cons, h, not_true, decide_true, decide_false, if_true,
          Bool.false_eq_true, if_false, List.cons_append, ih sorted]
      · have later : ∀ other ∈ first :: rest, ¬ other < bound := by
          intro other hmem below
          rcases List.mem_cons.mp hmem with rfl | hmem
          · exact h below
          · exact h (lt_of_le_of_lt (least other hmem) below)
        rw [List.filter_eq_nil_iff.mpr fun other hmem => by
            simpa only [decide_eq_true_eq] using later other hmem,
          List.filter_eq_self.mpr fun other hmem => decide_eq_true (later other hmem),
          List.nil_append]

end CommandManual.Text
