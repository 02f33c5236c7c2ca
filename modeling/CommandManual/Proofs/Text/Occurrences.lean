import CommandManual.Proofs.Text.Seams

/-!
The positions at which a mark stands in a text. A mark of which no end is a start of it cannot
overlap itself. The occurrences of such a mark are then those that are found one after the
other: the first one, and those in the text after it.
-/

namespace CommandManual.Text

def OccursAt (mark t : Text) (i : Nat) : Prop :=
  ∃ pre post, t = pre ++ mark ++ post ∧ pre.length = i

theorem occursAt_iff_isPrefix_drop {mark t : Text} {i : Nat} :
    OccursAt mark t i ↔ i ≤ t.length ∧ mark <+: t.drop i := by
  constructor
  · rintro ⟨pre, post, rfl, rfl⟩
    refine ⟨by simp, post, ?_⟩
    rw [List.append_assoc, List.drop_left]
  · rintro ⟨within, post, rest⟩
    refine ⟨t.take i, post, ?_, List.length_take_of_le within⟩
    rw [List.append_assoc, rest, List.take_append_drop]

instance (mark t : Text) (i : Nat) : Decidable (OccursAt mark t i) :=
  decidable_of_iff _ occursAt_iff_isPrefix_drop.symm

def Unbordered (mark : Text) : Prop :=
  ∀ k < mark.length, mark.drop k <+: mark → k = 0

instance (mark : Text) : Decidable (Unbordered mark) :=
  inferInstanceAs (Decidable (∀ k < mark.length, mark.drop k <+: mark → k = 0))

/-- An unbordered mark after the start of another one is beyond its end. -/
theorem Unbordered.exists_append_eq {mark pre post after : Text} (unbordered : Unbordered mark)
    (split : mark ++ after = pre ++ mark ++ post) (later : pre ≠ []) :
    ∃ between, pre = mark ++ between ∧ after = between ++ mark ++ post := by
  rw [List.append_assoc, List.append_eq_append_iff] at split
  rcases split with ⟨between, rfl, rest⟩ | ⟨final, parts, rest⟩
  · exact ⟨between, rfl, by rw [rest, List.append_assoc]⟩
  · -- The part of the first mark from where the other starts would be a start of the mark.
    by_cases whole : final = []
    · subst whole
      rw [List.append_nil] at parts
      exact ⟨[], by simp [parts], by simpa using rest.symm⟩
    · have within : pre.length < mark.length := by
        have some := List.length_pos_iff.mpr whole
        rw [parts, List.length_append]
        omega
      have start : mark.drop pre.length <+: mark := by
        have shorter : final.length ≤ mark.length := by simp [parts]
        have dropped : mark.drop pre.length = final := by rw [parts, List.drop_left]
        rw [dropped]
        exact List.prefix_of_prefix_length_le ⟨after, rest.symm⟩ (List.prefix_append _ _) shorter
      exact absurd (List.length_eq_zero_iff.mp (unbordered _ within start)) later

namespace FirstCut

variable {mark t before after : Text}

theorem occursAt (cut : FirstCut mark t before after) : OccursAt mark t before.length :=
  ⟨before, after, cut.parts, rfl⟩

theorem length_le_of_occursAt (cut : FirstCut mark t before after) {i : Nat}
    (occurs : OccursAt mark t i) : before.length ≤ i := by
  obtain ⟨pre, post, split, rfl⟩ := occurs
  exact cut.first pre post split

/-- No occurrence starts before the end of the text before the first one and goes on after it. -/
theorem not_crosses (cut : FirstCut mark t before after) :
    ¬ Crosses mark [before, mark ++ after] := by
  rintro ⟨left, right, start, rest, split, rfl, someStart, someRest, ⟨pre, front⟩, ⟨post, back⟩⟩
  have whole : t = pre ++ (start ++ rest) ++ post := by
    have pieces := congrArg List.flatten split
    rw [List.flatten_append, ← front, ← back] at pieces
    simpa [cut.parts] using pieces
  have late := cut.first pre post whole
  -- Only the seam between the two pieces has something before it and something after it.
  rcases left with _ | ⟨first, _ | ⟨second, others⟩⟩
  · exact someStart (List.append_eq_nil_iff.mp front).2
  · obtain ⟨rfl, -⟩ := List.cons.inj split
    have positive := List.length_pos_iff.mpr someStart
    rw [List.flatten_singleton] at front
    rw [← front, List.length_append] at late
    omega
  · obtain ⟨-, last⟩ := List.cons.inj split
    obtain ⟨-, nothing⟩ := List.cons.inj last
    rw [(List.append_eq_nil_iff.mp nothing.symm).2] at back
    exact someRest (List.append_eq_nil_iff.mp back).1

/-- The occurrences of an unbordered mark are the first one and those after it. -/
theorem occursAt_iff (unbordered : Unbordered mark) (cut : FirstCut mark t before after)
    {i : Nat} :
    OccursAt mark t i ↔ i = before.length ∨
      ∃ j, OccursAt mark after j ∧ i = before.length + mark.length + j := by
  constructor
  · rintro ⟨pre, post, split, rfl⟩
    have shorter := cut.first pre post split
    rw [cut.parts, List.append_assoc, List.append_assoc] at split
    obtain ⟨inside, rfl⟩ : before <+: pre :=
      List.prefix_of_prefix_length_le ⟨_, split⟩ (List.prefix_append _ _) shorter
    rw [List.append_assoc, List.append_right_inj, ← List.append_assoc] at split
    by_cases here : inside = []
    · exact .inl (by simp [here])
    · obtain ⟨between, rfl, rest⟩ := unbordered.exists_append_eq split here
      exact .inr ⟨between.length, ⟨between, post, rest, rfl⟩, by simp [Nat.add_assoc]⟩
  · rintro (rfl | ⟨j, ⟨pre, post, rfl, rfl⟩, rfl⟩)
    · exact cut.occursAt
    · exact ⟨before ++ mark ++ pre, post, by simp [cut.parts], by simp [Nat.add_assoc]⟩

end FirstCut

end CommandManual.Text
