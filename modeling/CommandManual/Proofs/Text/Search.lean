import CommandManual.Proofs.Text.Blanks
import CommandManual.Text.Search

/-!
What finding a mark in a text means. A cut is at the first occurrence, and erasing goes from
left to right. A mark that neither starts nor ends with a blank is found in the same places
when blanks are put around a text.
-/

namespace CommandManual.Text

/-! ### The first occurrence -/

structure FirstCut (mark t before after : Text) : Prop where
  parts : t = before ++ mark ++ after
  first : ∀ pre post, t = pre ++ mark ++ post → before.length ≤ pre.length

theorem FirstCut.isInfix {mark t before after : Text} (h : FirstCut mark t before after) :
    mark <:+: t :=
  ⟨before, after, h.parts.symm⟩

theorem cut?_of_after? {mark t rest : Text} (h : after? mark t = some rest) :
    cut? mark t = some ([], rest) := by
  cases t <;> simp [cut?, h]

theorem cut?_cons_of_after? {mark r : Text} {c : Char} (h : after? mark (c :: r) = none) :
    cut? mark (c :: r) = (cut? mark r).map fun parts => (c :: parts.1, parts.2) := by
  simp [cut?, h]

theorem after?_eq_none_iff {mark t : Text} : after? mark t = none ↔ ¬ mark <+: t := by
  rw [Option.eq_none_iff_forall_not_mem]
  constructor
  · rintro none ⟨rest, rfl⟩
    exact none rest (after?_eq_some_iff.mpr rfl)
  · rintro start rest found
    exact start ⟨rest, (after?_eq_some_iff.mp found).symm⟩

theorem firstCut_of_cut? {mark t before after : Text} (h : cut? mark t = some (before, after)) :
    FirstCut mark t before after := by
  induction t generalizing before with
  | nil =>
      obtain ⟨rest, found, same⟩ := Option.map_eq_some_iff.mp h
      obtain ⟨rfl, rfl⟩ := Prod.mk.inj same
      exact ⟨after?_eq_some_iff.mp found, fun _ _ _ => Nat.zero_le _⟩
  | cons c r ih =>
      cases start : after? mark (c :: r) with
      | some rest =>
          rw [cut?_of_after? start] at h
          obtain ⟨rfl, rfl⟩ := Prod.mk.inj (Option.some.inj h)
          exact ⟨after?_eq_some_iff.mp start, fun _ _ _ => Nat.zero_le _⟩
      | none =>
          rw [cut?_cons_of_after? start] at h
          obtain ⟨⟨before', after'⟩, found, same⟩ := Option.map_eq_some_iff.mp h
          obtain ⟨rfl, rfl⟩ := Prod.mk.inj same
          obtain ⟨parts, first⟩ := ih found
          refine ⟨by rw [parts]; rfl, fun pre post split => ?_⟩
          cases pre with
          | nil => exact absurd ⟨post, split.symm⟩ (after?_eq_none_iff.mp start)
          | cons d pre => exact Nat.succ_le_succ (first pre post (List.cons.inj split).2)

theorem cut?_ne_none_of_isInfix {mark t : Text} (h : mark <:+: t) : cut? mark t ≠ none := by
  induction t with
  | nil =>
      rw [List.infix_nil.mp h]
      simp [cut?]
  | cons c r ih =>
      cases start : after? mark (c :: r) with
      | some rest => simp [cut?_of_after? start]
      | none =>
          have later : mark <:+: r :=
            (List.infix_cons_iff.mp h).resolve_left (after?_eq_none_iff.mp start)
          rw [cut?_cons_of_after? start, ne_eq, Option.map_eq_none_iff]
          exact ih later

theorem cut?_eq_none_iff {mark t : Text} : cut? mark t = none ↔ ¬ mark <:+: t := by
  constructor
  · exact fun none within => cut?_ne_none_of_isInfix within none
  · intro outside
    rw [Option.eq_none_iff_forall_ne_some]
    rintro ⟨before, after⟩ found
    exact outside (firstCut_of_cut? found).isInfix

/-! ### Erasing -/

/-- What is left of a text when the occurrences of a mark are taken out from left to right,
none of them overlapping the one before. -/
inductive Erased (mark : Text) : Text → Text → Prop
  | nil : Erased mark [] []
  | occurrence {t kept : Text} : Erased mark t kept → Erased mark (mark ++ t) kept
  | character {c : Char} {t kept : Text} : ¬ mark <+: c :: t → Erased mark t kept →
      Erased mark (c :: t) (c :: kept)

theorem startsWith_eq_true_iff {mark t : Text} : startsWith mark t = true ↔ mark <+: t := by
  rw [startsWith, Option.isSome_iff_ne_none, ne_eq, after?_eq_none_iff, not_not]

/-- The characters still to be skipped are dropped. -/
theorem eraseFrom_eq_eraseAll_drop (mark : Text) (skip : Nat) (t : Text) :
    eraseFrom mark skip t = eraseAll mark (t.drop skip) := by
  induction t generalizing skip with
  | nil => cases skip <;> rfl
  | cons c r ih =>
      cases skip with
      | zero => rfl
      | succ skip => exact ih skip

theorem eraseAll_append {mark : Text} (nonempty : mark ≠ []) (t : Text) :
    eraseAll mark (mark ++ t) = eraseAll mark t := by
  obtain ⟨m, ms, rfl⟩ := List.exists_cons_of_ne_nil nonempty
  have start : startsWith (m :: ms) (m :: (ms ++ t)) = true :=
    startsWith_eq_true_iff.mpr (List.prefix_append _ _)
  rw [List.cons_append, eraseAll, eraseFrom, if_pos start, eraseFrom_eq_eraseAll_drop]
  simp

theorem eraseAll_cons {mark t : Text} {c : Char} (h : ¬ mark <+: c :: t) :
    eraseAll mark (c :: t) = c :: eraseAll mark t := by
  rw [eraseAll, eraseFrom, if_neg (by rwa [startsWith_eq_true_iff])]
  rfl

theorem erased_eraseAll {mark : Text} (nonempty : mark ≠ []) (t : Text) :
    Erased mark t (eraseAll mark t) := by
  cases t with
  | nil => exact .nil
  | cons c r =>
      by_cases start : mark <+: c :: r
      · obtain ⟨rest, split⟩ := start
        have shorter : rest.length < (c :: r).length := by
          have positive := List.length_pos_iff.mpr nonempty
          rw [← split, List.length_append]
          omega
        rw [← split, eraseAll_append nonempty]
        exact .occurrence (erased_eraseAll nonempty rest)
      · rw [eraseAll_cons start]
        exact .character start (erased_eraseAll nonempty r)
  termination_by t.length
  decreasing_by
    · exact shorter
    · exact Nat.lt_succ_self _

/-! ### Blanks around a text -/

/-- An occurrence of a mark with solid ends starts after the blanks before a text. -/
theorem SolidEnds.after_lead {mark lead t pre post : Text} (ends : SolidEnds mark)
    (leading : ∀ c ∈ lead, isBlank c = true) (h : lead ++ t = pre ++ mark ++ post) :
    ∃ pre', pre = lead ++ pre' ∧ t = pre' ++ mark ++ post := by
  obtain ⟨m, first, solidFirst⟩ := ends.head
  obtain ⟨ms, rfl⟩ := List.head?_eq_some_iff.mp first
  rw [List.append_assoc, List.append_eq_append_iff] at h
  rcases h with ⟨pre', rfl, split⟩ | ⟨inside, split, same⟩
  · exact ⟨pre', rfl, by rw [split, List.append_assoc]⟩
  · cases inside with
    | nil => exact ⟨[], by simp [split], by simpa using same.symm⟩
    | cons c inside =>
        obtain ⟨rfl, -⟩ := List.cons.inj same
        have blank := leading m (by simp [split])
        simp [solidFirst] at blank

/-- An occurrence of a mark with solid ends is over before the blanks after a text. -/
theorem SolidEnds.before_trail {mark t trail pre post : Text} (ends : SolidEnds mark)
    (trailing : ∀ c ∈ trail, isBlank c = true) (h : t ++ trail = pre ++ mark ++ post) :
    ∃ post', post = post' ++ trail ∧ t = pre ++ mark ++ post' := by
  obtain ⟨m, final, solidFinal⟩ := ends.last
  rcases List.append_eq_append_iff.mp h with ⟨inside, split, rfl⟩ | ⟨post', rfl, rfl⟩
  · cases last : inside.getLast? with
    | none =>
        rw [List.getLast?_eq_none_iff] at last
        subst last
        exact ⟨[], by simp, by simpa using split.symm⟩
    | some c =>
        -- The last character of the mark would be one of the blanks.
        have same : (pre ++ mark).getLast? = (t ++ inside).getLast? := by rw [split]
        rw [List.getLast?_append, List.getLast?_append, final, last, Option.some_or,
          Option.some_or, Option.some.injEq] at same
        have blank := trailing c (List.mem_append_left _ (List.mem_of_getLast? last))
        simp [← same, solidFinal] at blank
  · exact ⟨post', rfl, rfl⟩

theorem SolidEnds.not_isPrefix_cons {mark t : Text} {c : Char} (ends : SolidEnds mark)
    (blank : isBlank c = true) : ¬ mark <+: c :: t := by
  obtain ⟨m, first, solidFirst⟩ := ends.head
  obtain ⟨ms, rfl⟩ := List.head?_eq_some_iff.mp first
  intro start
  rw [(List.cons_prefix_cons.mp start).1] at solidFirst
  simp [solidFirst] at blank

theorem SolidEnds.erased_append_left {mark lead t kept : Text} (ends : SolidEnds mark)
    (leading : ∀ c ∈ lead, isBlank c = true) (h : Erased mark t kept) :
    Erased mark (lead ++ t) (lead ++ kept) := by
  induction lead with
  | nil => exact h
  | cons c lead ih =>
      obtain ⟨blank, leading⟩ := List.forall_mem_cons.mp leading
      exact .character (ends.not_isPrefix_cons blank) (ih leading)

theorem SolidEnds.erased_append_right {mark t trail kept : Text} (ends : SolidEnds mark)
    (trailing : ∀ c ∈ trail, isBlank c = true) (h : Erased mark t kept) :
    Erased mark (t ++ trail) (kept ++ trail) := by
  induction h with
  | nil => simpa using ends.erased_append_left trailing .nil
  | @occurrence t kept _ ih =>
      rw [List.append_assoc]
      exact .occurrence ih
  | @character c t kept other _ ih =>
      refine .character ?_ ih
      rintro ⟨post, split⟩
      have whole : (c :: t) ++ trail = [] ++ mark ++ post := split.symm
      obtain ⟨post', -, inner⟩ := ends.before_trail trailing whole
      exact other ⟨post', inner.symm⟩

section Surrounded

variable {mark lead trail : Text} (ends : SolidEnds mark)
  (leading : ∀ c ∈ lead, isBlank c = true) (trailing : ∀ c ∈ trail, isBlank c = true)

include ends leading trailing

theorem SolidEnds.firstCut {t before after : Text} (h : FirstCut mark t before after) :
    FirstCut mark (lead ++ t ++ trail) (lead ++ before) (after ++ trail) := by
  constructor
  · simp [h.parts]
  · intro pre post whole
    obtain ⟨post', -, led⟩ := ends.before_trail trailing whole
    obtain ⟨pre', rfl, inner⟩ := ends.after_lead leading led
    simpa using h.first pre' post' inner

theorem SolidEnds.isInfix_iff {t : Text} : mark <:+: lead ++ t ++ trail ↔ mark <:+: t := by
  constructor
  · rintro ⟨pre, post, whole⟩
    obtain ⟨post', -, led⟩ := ends.before_trail trailing whole.symm
    obtain ⟨pre', -, inner⟩ := ends.after_lead leading led
    exact ⟨pre', post', inner.symm⟩
  · exact fun within => within.trans ⟨lead, trail, rfl⟩

end Surrounded

end CommandManual.Text
