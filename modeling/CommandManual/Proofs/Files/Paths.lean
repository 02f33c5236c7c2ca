import CommandManual.Path
import CommandManual.Proofs.Text.Lines

/-!
Paths as they are spelled. A slash parts the names before it from those after it and names
nothing itself, so slashes at the end of a text do not count. The root of a path is decided by
the slashes at its start alone.
-/

namespace CommandManual.Path

theorem partsOf_append_slash (s t : Text) :
    partsOf (s ++ '/' :: t) = partsOf s ++ partsOf t := by
  rw [partsOf, Text.splitWhere_eq_splitOnP, List.splitOnP_append_cons s t rfl, List.filter_append,
    ← Text.splitWhere_eq_splitOnP, ← Text.splitWhere_eq_splitOnP]
  rfl

theorem partsOf_of_slashes {t : Text} (slashes : ∀ c ∈ t, c = '/') : partsOf t = [] := by
  induction t with
  | nil => rfl
  | cons c r ih =>
      obtain ⟨rfl, later⟩ := List.forall_mem_cons.mp slashes
      have split := partsOf_append_slash [] r
      rw [List.nil_append, ih later] at split
      exact split

def withoutEndSlashes (t : Text) : Text := Text.dropEndWhile (· == '/') t

theorem exists_withoutEndSlashes_eq (t : Text) :
    ∃ slashes, t = withoutEndSlashes t ++ slashes ∧ ∀ c ∈ slashes, c = '/' := by
  refine ⟨t.rtakeWhile (· == '/'), ?_, fun c hc => by simpa using List.mem_rtakeWhile_imp hc⟩
  rw [withoutEndSlashes, Text.dropEndWhile_eq_rdropWhile, List.rdropWhile_append_rtakeWhile]

theorem partsOf_withoutEndSlashes (t : Text) : partsOf (withoutEndSlashes t) = partsOf t := by
  obtain ⟨slashes, split, all⟩ := exists_withoutEndSlashes_eq t
  cases slashes with
  | nil =>
      rw [List.append_nil] at split
      rw [← split]
  | cons c r =>
      obtain ⟨rfl, later⟩ := List.forall_mem_cons.mp all
      conv_rhs => rw [split]
      rw [partsOf_append_slash, partsOf_of_slashes later, List.append_nil]

theorem withoutEndSlashes_eq_nil_iff {t : Text} :
    withoutEndSlashes t = [] ↔ ∀ c ∈ t, c = '/' := by
  rw [withoutEndSlashes, Text.dropEndWhile_eq_rdropWhile, List.rdropWhile_eq_nil_iff]
  exact forall₂_congr fun c _ => beq_iff_eq

/-! ### Roots -/

theorem takeWhile_append_of_exists {α : Type} {p : α → Bool} {s : List α} (t : List α)
    (h : ∃ a ∈ s, p a = false) : (s ++ t).takeWhile p = s.takeWhile p := by
  rw [List.takeWhile_append, if_neg]
  intro whole
  obtain ⟨a, ha, fails⟩ := h
  have same := (List.takeWhile_prefix p).eq_of_length whole
  rw [← same] at ha
  have holds := List.mem_takeWhile_imp ha
  simp [fails] at holds

/-- What comes after a character other than a slash has no part in the root. -/
theorem rootOf_append {s : Text} (t : Text) (named : ∃ c ∈ s, c ≠ '/') :
    rootOf (s ++ t) = rootOf s := by
  obtain ⟨c, hc, other⟩ := named
  rw [rootOf, takeWhile_append_of_exists t ⟨c, hc, by simpa using other⟩, rootOf]

end CommandManual.Path
