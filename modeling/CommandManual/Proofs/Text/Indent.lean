import CommandManual.Proofs.Text.Blanks

/-!
Blocks of text that are indented deeper. When the lines after the first are all pushed to the
right, their margin grows by as much, and the block that is laid against the left edge stays
the same. Only a block whose later lines are all blank has no margin: it keeps these lines as
they are, except for empty ones at the end.
-/

namespace CommandManual.Text

def indented (width : Nat) (t : Text) : Text :=
  t.flatMap fun c => if c = '\n' then '\n' :: List.replicate width ' ' else [c]

theorem indented_of_single {l : Text} (width : Nat) (single : '\n' ∉ l) : indented width l = l := by
  have each : ∀ c ∈ l, (if c = '\n' then '\n' :: List.replicate width ' ' else [c]) = [c] := by
    intro c hc
    rw [if_neg]
    rintro rfl
    exact single hc
  rw [indented, List.flatMap_congr each, List.flatMap_singleton']

theorem lines_indented (width : Nat) (t : Text) :
    lines (indented width t) =
      firstLine t :: (lines t).tail.map (List.replicate width ' ' ++ ·) := by
  have single : ∀ l ∈ firstLine t :: (lines t).tail, '\n' ∉ l := by
    rw [← lines_eq_firstLine_cons]
    exact fun l => newline_not_mem_of_mem_lines
  obtain ⟨first, later⟩ := List.forall_mem_cons.mp single
  have pushed : indented width t =
      unlines (firstLine t :: (lines t).tail.map (List.replicate width ' ' ++ ·)) := by
    conv_lhs => rw [← unlines_lines t, lines_eq_firstLine_cons, unlines_cons]
    rw [indented, List.flatMap_append, ← indented, indented_of_single width first, unlines_cons,
      List.flatMap_assoc, List.flatMap_map]
    congr 1
    refine List.flatMap_congr fun l hl => ?_
    have same := indented_of_single width (later l hl)
    rw [indented] at same
    simp [same]
  rw [pushed]
  refine lines_unlines (List.cons_ne_nil _ _) (List.forall_mem_cons.mpr ⟨first, ?_⟩)
  intro l hl
  obtain ⟨m, hm, rfl⟩ := List.mem_map.mp hl
  simp [later m hm]

theorem expandTabsFrom_of_tabless (column : Nat) {t : Text} (tabless : '\t' ∉ t) :
    expandTabsFrom column t = t := by
  fun_induction expandTabsFrom column t with
  | case1 => rfl
  | case2 => simp at tabless
  | case3 column c r _ _ ih => rw [ih fun tab => tabless (List.mem_cons_of_mem _ tab)]
  | case4 column c r _ _ ih => rw [ih fun tab => tabless (List.mem_cons_of_mem _ tab)]

theorem tab_not_mem_indented {t : Text} (width : Nat) (tabless : '\t' ∉ t) :
    '\t' ∉ indented width t := by
  rw [indented, List.mem_flatMap]
  rintro ⟨c, hc, tab⟩
  split at tab
  · simp at tab
  · rw [List.mem_singleton.mp tab] at tabless
    exact tabless hc

/-! ### Margins -/

theorem isBlank_of_mem_replicate {width : Nat} :
    ∀ c ∈ List.replicate width ' ', isBlank c = true := by
  intro c hc
  rw [List.eq_of_mem_replicate hc]
  decide

theorem indent?_indented (width : Nat) (l : Text) :
    indent? (List.replicate width ' ' ++ l) = (indent? l).map (width + ·) := by
  have blanks : (List.replicate width ' ').all isBlank = true :=
    List.all_eq_true.mpr isBlank_of_mem_replicate
  rw [indent?, indent?, List.all_append, blanks, Bool.true_and]
  split
  · rfl
  · rw [List.takeWhile_append_of_pos isBlank_of_mem_replicate, List.length_append,
      List.length_replicate]
    rfl

theorem min?_map_add (width : Nat) (ns : List Nat) :
    (ns.map (width + ·)).min? = ns.min?.map (width + ·) := by
  cases least : ns.min? with
  | none => simp [List.min?_eq_none_iff.mp least]
  | some n =>
      obtain ⟨hmem, lower⟩ := List.min?_eq_some_iff.mp least
      refine List.min?_eq_some_iff.mpr ⟨List.mem_map_of_mem hmem, fun m hm => ?_⟩
      obtain ⟨k, hk, rfl⟩ := List.mem_map.mp hm
      exact Nat.add_le_add_left (lower k hk) width

theorem margin?_indented (width : Nat) (ls : List Text) :
    margin? (ls.map (List.replicate width ' ' ++ ·)) = (margin? ls).map (width + ·) := by
  have indents : (ls.map (List.replicate width ' ' ++ ·)).filterMap indent? =
      (ls.filterMap indent?).map (width + ·) := by
    rw [List.filterMap_map, List.map_filterMap]
    exact congrArg (List.filterMap · ls) (funext fun l => indent?_indented width l)
  rw [margin?, indents, min?_map_add, margin?]

theorem margin?_eq_none_iff {ls : List Text} :
    margin? ls = none ↔ ∀ l ∈ ls, solid l = [] := by
  rw [margin?, List.min?_eq_none_iff, List.filterMap_eq_nil_iff]
  refine forall₂_congr fun l _ => ?_
  rw [indent?, all_isBlank_eq]
  cases h : solid l <;> simp

/-! ### Blocks against the left edge -/

/-- The lines of a block that is laid against the left edge, empty ones included. -/
def leftLines (first : Text) (others : List Text) : List Text :=
  trimStart first :: others.map (List.drop ((margin? others).getD 0))

theorem dedent_eq {t first : Text} {others : List Text} (tabless : '\t' ∉ t)
    (split : lines t = first :: others) :
    dedent t = unlines (dropEmptyEnds (leftLines first others)) := by
  rw [dedent, expandTabs, expandTabsFrom_of_tabless 0 tabless, split]
  rfl

theorem leftLines_indented {others : List Text} {margin : Nat} (width : Nat) (first : Text)
    (h : margin? others = some margin) :
    leftLines first (others.map (List.replicate width ' ' ++ ·)) = leftLines first others := by
  rw [leftLines, leftLines, margin?_indented, h, List.map_map]
  congr 1
  refine List.map_congr_left fun l _ => ?_
  have dropped : (List.replicate width ' ' ++ l).drop
      ((List.replicate width ' ').length + margin) = l.drop margin :=
    List.drop_length_add_append margin
  rwa [List.length_replicate] at dropped

/-- A block with a line that is not blank after the first does not depend on how far these
lines are pushed to the right. -/
theorem dedent_indented {t : Text} {margin : Nat} (width : Nat) (tabless : '\t' ∉ t)
    (h : margin? (lines t).tail = some margin) : dedent (indented width t) = dedent t := by
  rw [dedent_eq (tab_not_mem_indented width tabless) (lines_indented width t),
    dedent_eq tabless (lines_eq_firstLine_cons t), leftLines_indented width _ h]

theorem exists_dropEmptyEnds_cons {first : Text} (nonempty : first ≠ []) (others : List Text) :
    ∃ kept, dropEmptyEnds (first :: others) = first :: kept ∧ kept <+: others := by
  have start : (first :: others).dropWhile List.isEmpty = first :: others :=
    List.dropWhile_cons_of_neg (by simpa using nonempty)
  have kept : dropEmptyEnds (first :: others) <+: first :: others := by
    rw [dropEmptyEnds, start]
    exact List.rdropWhile_prefix List.isEmpty _
  cases ends : dropEmptyEnds (first :: others) with
  | nil =>
      rw [dropEmptyEnds, start, ← List.rdropWhile, List.rdropWhile_eq_nil_iff] at ends
      exact absurd (List.isEmpty_iff.mp (ends first List.mem_cons_self)) nonempty
  | cons l kept' =>
      rw [ends, List.cons_prefix_cons] at kept
      exact ⟨kept', by rw [kept.1], kept.2⟩

/-- A block with no text after its first line is that line and blank lines. -/
theorem exists_dedent_eq_of_blank_others {t first : Text} {others : List Text}
    (tabless : '\t' ∉ t) (split : lines t = first :: others) (solidFirst : solid first ≠ [])
    (blank : ∀ l ∈ others, solid l = []) :
    ∃ kept, dedent t = unlines (trimStart first :: kept) ∧ ∀ l ∈ kept, l ∈ others := by
  have start : trimStart first ≠ [] := by
    intro none
    rw [← solid_trimStart, none] at solidFirst
    exact solidFirst rfl
  obtain ⟨kept, ends, within⟩ := exists_dropEmptyEnds_cons start others
  refine ⟨kept, ?_, fun l hl => within.subset hl⟩
  have same : others.map (List.drop 0) = others := List.map_id others
  rw [dedent_eq tabless split, leftLines, margin?_eq_none_iff.mpr blank, Option.getD_none, same,
    ends]

end CommandManual.Text
