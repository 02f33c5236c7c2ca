import CommandManual.Proofs.Text.Search

/-!
The pieces of a text between the occurrences of a mark. Erasing the mark puts the pieces
together, and what was a mark before is gone; but the end of one piece and the start of another
may make up a mark that was not there before. That is the only way in which one is left.
-/

namespace CommandManual.Text

/-! ### Pieces -/

/-- The pieces of a text between the occurrences of a mark, which are found from left to right
and do not overlap. -/
inductive Pieces (mark : Text) : Text → List Text → Prop
  | last {t : Text} : ¬ mark <:+: t → Pieces mark t [t]
  | cons {t before after : Text} {pieces : List Text} : FirstCut mark t before after →
      Pieces mark after pieces → Pieces mark t (before :: pieces)

theorem FirstCut.not_isInfix {mark t before after : Text} (nonempty : mark ≠ [])
    (h : FirstCut mark t before after) : ¬ mark <:+: before := by
  rintro ⟨pre, post, split⟩
  have earlier := h.first pre (post ++ mark ++ after) (by rw [h.parts, ← split]; simp)
  have positive := List.length_pos_iff.mpr nonempty
  rw [← split, List.length_append, List.length_append] at earlier
  omega

theorem FirstCut.unique {mark t before before' after after' : Text}
    (h : FirstCut mark t before after) (h' : FirstCut mark t before' after') :
    before = before' ∧ after = after' := by
  have length : before.length = before'.length :=
    Nat.le_antisymm (h.first before' after' h'.parts) (h'.first before after h.parts)
  have same := h.parts.symm.trans h'.parts
  rw [List.append_assoc, List.append_assoc] at same
  obtain ⟨rfl, later⟩ := List.append_inj same length
  exact ⟨rfl, List.append_cancel_left later⟩

namespace Pieces

variable {mark t : Text} {pieces : List Text}

theorem not_isInfix (nonempty : mark ≠ []) (h : Pieces mark t pieces) :
    ∀ p ∈ pieces, ¬ mark <:+: p := by
  induction h with
  | last free => exact List.forall_mem_singleton.mpr free
  | cons cut _ ih => exact List.forall_mem_cons.mpr ⟨cut.not_isInfix nonempty, ih⟩

theorem isInfix_of_mem (h : Pieces mark t pieces) : ∀ p ∈ pieces, p <:+: t := by
  induction h with
  | last => exact List.forall_mem_singleton.mpr List.infix_rfl
  | @cons t before after pieces cut _ ih =>
      rw [cut.parts]
      refine List.forall_mem_cons.mpr ⟨⟨[], mark ++ after, by simp⟩, fun p hp => ?_⟩
      exact (ih p hp).trans (List.suffix_append (before ++ mark) after).isInfix

theorem unique {pieces' : List Text} (h : Pieces mark t pieces) (h' : Pieces mark t pieces') :
    pieces = pieces' := by
  induction h generalizing pieces' with
  | last free =>
      cases h' with
      | last => rfl
      | cons cut' => exact absurd cut'.isInfix free
  | cons cut _ ih =>
      cases h' with
      | last free' => exact absurd cut.isInfix free'
      | cons cut' later' =>
          obtain ⟨rfl, rfl⟩ := cut.unique cut'
          rw [ih later']

end Pieces

theorem exists_pieces {mark : Text} (nonempty : mark ≠ []) (t : Text) :
    ∃ pieces, Pieces mark t pieces := by
  cases found : cut? mark t with
  | none => exact ⟨[t], .last (cut?_eq_none_iff.mp found)⟩
  | some parts =>
      have cut : FirstCut mark t parts.1 parts.2 := firstCut_of_cut? found
      have shorter : parts.2.length < t.length := by
        have positive := List.length_pos_iff.mpr nonempty
        have total := congrArg List.length cut.parts
        rw [List.length_append, List.length_append] at total
        omega
      obtain ⟨pieces, later⟩ := exists_pieces nonempty parts.2
      exact ⟨parts.1 :: pieces, .cons cut later⟩
  termination_by t.length

/-! ### Erasing -/

theorem eraseAll_of_not_isInfix {mark t : Text} (free : ¬ mark <:+: t) : eraseAll mark t = t := by
  induction t with
  | nil => rfl
  | cons c r ih =>
      rw [List.infix_cons_iff, not_or] at free
      obtain ⟨start, later⟩ := free
      rw [eraseAll_cons start, ih later]

/-- The text before the first occurrence of a mark stays as it is. -/
theorem FirstCut.eraseAll_eq {mark t before after : Text} (nonempty : mark ≠ [])
    (h : FirstCut mark t before after) : eraseAll mark t = before ++ eraseAll mark after := by
  obtain ⟨rfl, first⟩ := h
  induction before with
  | nil => exact eraseAll_append nonempty after
  | cons c before ih =>
      have start : ¬ mark <+: c :: (before ++ mark ++ after) := by
        rintro ⟨post, split⟩
        exact absurd (first [] post split.symm) (Nat.not_succ_le_zero _)
      have later : ∀ pre post, before ++ mark ++ after = pre ++ mark ++ post →
          before.length ≤ pre.length := fun pre post split =>
        Nat.le_of_succ_le_succ (first (c :: pre) post (congrArg (c :: ·) split))
      calc
        eraseAll mark (c :: (before ++ mark ++ after)) =
            c :: eraseAll mark (before ++ mark ++ after) := eraseAll_cons start
        _ = c :: (before ++ eraseAll mark after) := by rw [ih later]

theorem Pieces.eraseAll_eq {mark t : Text} {pieces : List Text} (nonempty : mark ≠ [])
    (h : Pieces mark t pieces) : eraseAll mark t = pieces.flatten := by
  induction h with
  | last free => simp [eraseAll_of_not_isInfix free]
  | cons cut _ ih => rw [cut.eraseAll_eq nonempty, ih, List.flatten_cons]

theorem Erased.length_le {mark t kept : Text} (h : Erased mark t kept) :
    kept.length ≤ t.length := by
  induction h with
  | nil => exact Nat.le_refl _
  | occurrence _ ih => exact ih.trans (by simp)
  | character _ _ ih => exact Nat.succ_le_succ ih

theorem length_eraseAll_lt {mark t : Text} (nonempty : mark ≠ []) (within : mark <:+: t) :
    (eraseAll mark t).length < t.length := by
  cases found : cut? mark t with
  | none => exact absurd within (cut?_eq_none_iff.mp found)
  | some parts =>
      have cut : FirstCut mark t parts.1 parts.2 := firstCut_of_cut? found
      have positive := List.length_pos_iff.mpr nonempty
      have total := congrArg List.length cut.parts
      have kept := (erased_eraseAll nonempty parts.2).length_le
      rw [List.length_append, List.length_append] at total
      rw [cut.eraseAll_eq nonempty, List.length_append]
      omega

/-! ### Seams -/

/-- A mark runs across a seam between two of some pieces: it starts before the seam and ends
after it. -/
def Crosses (mark : Text) (pieces : List Text) : Prop :=
  ∃ left right start rest, pieces = left ++ right ∧ mark = start ++ rest ∧ start ≠ [] ∧
    rest ≠ [] ∧ start <:+ left.flatten ∧ rest <+: right.flatten

theorem Crosses.isInfix {mark : Text} {pieces : List Text} (h : Crosses mark pieces) :
    mark <:+: pieces.flatten := by
  obtain ⟨left, right, start, rest, rfl, parts, -, -, before, after⟩ := h
  rw [List.flatten_append, List.infix_append_iff]
  exact .inr (.inr ⟨start, rest, parts, before, after⟩)

theorem Crosses.cons {mark : Text} {pieces : List Text} (h : Crosses mark pieces) (p : Text) :
    Crosses mark (p :: pieces) := by
  obtain ⟨left, right, start, rest, rfl, parts, some, some', before, after⟩ := h
  refine ⟨p :: left, right, start, rest, rfl, parts, some, some', ?_, after⟩
  rw [List.flatten_cons]
  exact List.suffix_append_of_suffix before

/-- A mark that no piece holds is in the pieces put together only across a seam. -/
theorem isInfix_flatten_iff_crosses {mark : Text} {pieces : List Text} (nonempty : mark ≠ [])
    (free : ∀ p ∈ pieces, ¬ mark <:+: p) : mark <:+: pieces.flatten ↔ Crosses mark pieces := by
  refine ⟨fun within => ?_, Crosses.isInfix⟩
  induction pieces with
  | nil => exact absurd (List.infix_nil.mp within) nonempty
  | cons p pieces ih =>
      obtain ⟨freeFirst, free⟩ := List.forall_mem_cons.mp free
      rw [List.flatten_cons, List.infix_append_iff] at within
      rcases within with first | later | ⟨start, rest, parts, before, after⟩
      · exact absurd first freeFirst
      · exact (ih free later).cons p
      · by_cases noStart : start = []
        · rw [noStart, List.nil_append] at parts
          exact (ih free (parts ▸ after.isInfix)).cons p
        · by_cases noRest : rest = []
          · rw [noRest, List.append_nil] at parts
            exact absurd (parts ▸ before.isInfix) freeFirst
          · exact ⟨[p], pieces, start, rest, rfl, parts, noStart, noRest,
              by rwa [List.flatten_singleton], after⟩

/-! ### Lines -/

theorem isInfix_append_flatMap_iff {mark : Text} (nonempty : mark ≠ []) (single : '\n' ∉ mark)
    (l : Text) (ls : List Text) :
    mark <:+: l ++ ls.flatMap ('\n' :: ·) ↔ ∃ m ∈ l :: ls, mark <:+: m := by
  induction ls generalizing l with
  | nil => simp
  | cons m ms ih =>
      have start (t : Text) : ¬ mark <+: '\n' :: t := by
        obtain ⟨c, r, rfl⟩ := List.exists_cons_of_ne_nil nonempty
        intro start
        obtain ⟨rfl, -⟩ := List.cons_prefix_cons.mp start
        exact single List.mem_cons_self
      rw [List.flatMap_cons, List.infix_append_iff, List.cons_append, List.infix_cons_iff, ih,
        List.exists_mem_cons_iff _ l]
      constructor
      · rintro (first | (atStart | later) | ⟨front, rest, rfl, before, after⟩)
        · exact .inl first
        · exact absurd atStart (start _)
        · exact .inr later
        · -- The mark would go on after a line feed.
          cases rest with
          | nil => exact .inl (by simpa using before.isInfix)
          | cons c rest =>
              obtain ⟨rfl, -⟩ := List.cons_prefix_cons.mp after
              exact absurd (List.mem_append_right _ List.mem_cons_self) single
      · rintro (first | later)
        · exact .inl first
        · exact .inr (.inl (.inr later))

/-- A mark on one line is in a text exactly if it is in one of its lines. -/
theorem isInfix_iff_exists_line {mark : Text} (nonempty : mark ≠ []) (single : '\n' ∉ mark)
    (t : Text) : mark <:+: t ↔ ∃ l ∈ lines t, mark <:+: l := by
  conv_lhs => rw [← unlines_lines t, lines_eq_firstLine_cons, unlines_cons]
  rw [isInfix_append_flatMap_iff nonempty single, ← lines_eq_firstLine_cons]

theorem contains_eq_true_iff {mark t : Text} : contains mark t = true ↔ mark <:+: t := by
  rw [contains, Option.isSome_iff_ne_none, ne_eq, cut?_eq_none_iff, not_not]

def linesWith (mark t : Text) : List Text := (lines t).filter (contains mark)

theorem linesWith_eq_nil_iff {mark : Text} (nonempty : mark ≠ []) (single : '\n' ∉ mark)
    (t : Text) : linesWith mark t = [] ↔ ¬ mark <:+: t := by
  rw [isInfix_iff_exists_line nonempty single, linesWith, List.filter_eq_nil_iff]
  simp only [contains_eq_true_iff, not_exists, not_and]

/-- All pieces but the last are empty or end a line, so that marks between them start lines or
come right after one another. -/
def EndLines (pieces : List Text) : Prop :=
  ∀ p ∈ pieces.dropLast, p.getLast?.getD '\n' = '\n'

instance (pieces : List Text) : Decidable (EndLines pieces) :=
  inferInstanceAs (Decidable (∀ p ∈ pieces.dropLast, p.getLast?.getD '\n' = '\n'))

/-- A mark on one line does not run across a seam at the start of a line. -/
theorem not_crosses_of_endLines {mark : Text} {pieces : List Text} (single : '\n' ∉ mark)
    (h : EndLines pieces) : ¬ Crosses mark pieces := by
  rintro ⟨left, right, start, rest, rfl, rfl, someStart, someRest, before, after⟩
  have later : right ≠ [] := by
    rintro rfl
    exact someRest (List.prefix_nil.mp after)
  have last : left.flatten.getLast? = some (start.getLast someStart) := by
    obtain ⟨pre, split⟩ := before
    rw [← split, List.getLast?_append, List.getLast?_eq_some_getLast someStart, Option.some_or]
  -- The part of the mark before the seam ends as the last piece there that is not empty does.
  rw [List.getLast?_flatten] at last
  obtain ⟨p, hp, final⟩ := List.exists_of_findSome?_eq_some last
  have listed : p ∈ (left ++ right).dropLast := by
    rw [List.dropLast_append_of_ne_nil later]
    exact List.mem_append_left _ (List.mem_reverse.mp hp)
  have newline := h p listed
  rw [final, Option.getD_some] at newline
  exact single (newline ▸ List.mem_append_left _ (List.getLast_mem someStart))

end CommandManual.Text
