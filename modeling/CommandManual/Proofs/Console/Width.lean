import CommandManual.Console.Styled

/-!
Bounds on the width of a text. A text that is cut to a width does not exceed it, whatever
joiners and selectors its characters are followed by, and blanks fill exactly the room that
they are given.
-/

namespace CommandManual.Console

theorem widthFrom_cons (last : Option Char) (skip : Bool) (c : Char) (r : Text) :
    widthFrom last skip (c :: r) =
      if skip then widthFrom last false r
      else if c = joiner then widthFrom last true r
      else if c = emojiSelector then
        (if last.any (inRange widenedRanges) then 1 else 0) + widthFrom none false r
      else charWidth c + widthFrom (if charWidth c = 0 then last else some c) false r := by
  cases last <;> simp [widthFrom]

/-- Text after another one adds no more than it ever takes. -/
theorem widthFrom_append_le {t : Text} {bound : Nat}
    (h : ∀ last skip, widthFrom last skip t ≤ bound) (s : Text) (last : Option Char)
    (skip : Bool) : widthFrom last skip (s ++ t) ≤ widthFrom last skip s + bound := by
  induction s generalizing last skip with
  | nil => exact Nat.le_trans (h last skip) (Nat.le_add_left _ _)
  | cons c r ih =>
      rw [List.cons_append, widthFrom_cons, widthFrom_cons]
      split
      · exact ih last false
      split
      · exact ih last true
      split
      · rw [Nat.add_assoc]
        exact Nat.add_le_add_left (ih none false) _
      · rw [Nat.add_assoc]
        exact Nat.add_le_add_left (ih _ false) _

theorem widthFrom_blanks (last : Option Char) (n : Nat) :
    widthFrom last false (blanks n) = n := by
  have own : charWidth ' ' = 1 := rfl
  induction n generalizing last with
  | zero => rfl
  | succ n ih =>
      have later : widthFrom last false (' ' :: blanks n) =
          charWidth ' ' + widthFrom (some ' ') false (blanks n) := rfl
      rw [blanks, List.replicate_succ, ← blanks, later, ih, own, Nat.add_comm]

theorem width_blanks (n : Nat) : width (blanks n) = n := widthFrom_blanks none n

theorem widthFrom_blanks_le (last : Option Char) (skip : Bool) (n : Nat) :
    widthFrom last skip (blanks n) ≤ n := by
  cases skip with
  | false => exact Nat.le_of_eq (widthFrom_blanks last n)
  | true =>
      cases n with
      | zero => exact Nat.le_refl _
      | succ n =>
          show widthFrom last false (blanks n) ≤ _
          rw [widthFrom_blanks]
          exact Nat.le_succ n

theorem width_append_blanks_le (t : Text) (n : Nat) : width (t ++ blanks n) ≤ width t + n :=
  widthFrom_append_le (fun last skip => widthFrom_blanks_le last skip n) t none false

theorem widthFrom_singleton_le {c : Char} (narrow : charWidth c ≤ 1) (last : Option Char)
    (skip : Bool) : widthFrom last skip [c] ≤ 1 := by
  rw [widthFrom_cons]
  simp only [widthFrom]
  repeat' split
  all_goals omega

/-- A selector may widen the character before it, so a text takes most room after one. -/
theorem widthFrom_none_le (last : Option Char) (skip : Bool) (t : Text) :
    widthFrom none skip t ≤ widthFrom last skip t := by
  induction t generalizing last skip with
  | nil => exact Nat.le_refl _
  | cons c r ih =>
      rw [widthFrom_cons, widthFrom_cons]
      split
      · exact ih last false
      split
      · exact ih last true
      split
      · exact Nat.add_le_add_right (Nat.zero_le _) _
      · refine Nat.add_le_add_left ?_ _
        split
        · exact ih last false
        · exact Nat.le_refl _

theorem widthFrom_le_append (last : Option Char) (skip : Bool) (s t : Text) :
    widthFrom last skip s ≤ widthFrom last skip (s ++ t) := by
  induction s generalizing last skip with
  | nil => exact Nat.zero_le _
  | cons c r ih =>
      rw [List.cons_append, widthFrom_cons, widthFrom_cons]
      split
      · exact ih last false
      split
      · exact ih last true
      split
      · exact Nat.add_le_add_left (ih none false) _
      · exact Nat.add_le_add_left (ih _ false) _

/-- Text after a blank is not joined to anything, so alone it takes no more room. -/
theorem width_le_of_blank {c : Char} (blank : Text.isBlank c = true) (s t : Text)
    (last : Option Char)
    (skip : Bool) : width t ≤ widthFrom last skip (s ++ c :: t) := by
  have unjoined : c ≠ joiner := fun same => by rw [same] at blank; cases blank
  have unselected : c ≠ emojiSelector := fun same => by rw [same] at blank; cases blank
  induction s generalizing last skip with
  | nil =>
      rw [List.nil_append, widthFrom_cons, if_neg unjoined, if_neg unselected]
      split
      · exact widthFrom_none_le last false t
      · exact Nat.le_trans (widthFrom_none_le _ false t) (Nat.le_add_left _ _)
  | cons d r ih =>
      rw [List.cons_append, widthFrom_cons]
      split
      · exact ih last false
      split
      · exact ih last true
      split
      · exact Nat.le_trans (ih none false) (Nat.le_add_left _ _)
      · exact Nat.le_trans (ih _ false) (Nat.le_add_left _ _)

/-! ### Glyphs -/

/-- After a glyph that has been read up to some state, more text takes the room of the glyph
and what it takes from there. -/
def ReadTo (before : Option Char) (g : Glyph) (last : Option Char) (joined : Bool) : Prop :=
  ∀ t, widthFrom before false (g.text ++ t) = g.room + widthFrom last joined t

section ReadTo

variable {before last : Option Char} {g : Glyph} {c : Char}

theorem ReadTo.start (solid : ¬Glyph.isMark c) (wide : charWidth c ≠ 0) :
    ReadTo before ⟨[c], charWidth c⟩ (some c) false := by
  intro t
  rw [Glyph.isMark, Bool.or_eq_true, decide_eq_true_eq, decide_eq_true_eq, not_or] at solid
  rw [List.singleton_append, widthFrom_cons, if_neg Bool.false_ne_true, if_neg solid.1,
    if_neg solid.2, if_neg wide]

theorem ReadTo.step {last' : Option Char} {joined joined' : Bool}
    (read : ReadTo before g last joined) (more : Nat)
    (h : ∀ t, widthFrom last joined (c :: t) = more + widthFrom last' joined' t) :
    ReadTo before { g.add c with room := g.room + more } last' joined' := by
  intro t
  show widthFrom before false ((g.text ++ [c]) ++ t) = g.room + more + _
  rw [List.append_assoc, List.singleton_append, read, h, Nat.add_assoc]

/-- Glyphs that fit into some room do not exceed it, side by side. -/
theorem ReadTo.widthFrom_takeGlyphs_le {joined : Bool} (read : ReadTo before g last joined)
    (room : Nat) (t : Text) :
    widthFrom before false (takeGlyphs room (Glyph.split last joined g t)) ≤ room := by
  have blank (before : Option Char) {room : Nat} (some : room ≠ 0) :
      widthFrom before false [' '] ≤ room :=
    Nat.le_trans (widthFrom_singleton_le (c := ' ') (Nat.le_refl 1) before false)
      (Nat.one_le_iff_ne_zero.mpr some)
  induction t generalizing before last joined g room with
  | nil =>
      have whole := read []
      rw [List.append_nil] at whole
      rw [Glyph.split, takeGlyphs]
      split
      · exact Nat.zero_le _
      · rename_i some
        split
        · rename_i fits
          rw [takeGlyphs, List.append_nil, whole]
          exact fits
        · exact blank before some
  | cons c r ih =>
      rw [Glyph.split]
      split
      · -- The four ways in which a character joins the glyph before it.
        rename_i joined
        subst joined
        exact ih (read.step 0 fun t => by rw [widthFrom_cons, if_pos rfl, Nat.zero_add])
          room
      rename_i apart
      rw [Bool.not_eq_true] at apart
      subst apart
      split
      · rename_i join
        exact ih (read.step 0 fun t => by
          rw [widthFrom_cons, if_neg Bool.false_ne_true, if_pos join, Nat.zero_add]) room
      rename_i unjoined
      split
      · rename_i select
        exact ih (read.step _ fun t => by
          rw [widthFrom_cons, if_neg Bool.false_ne_true, if_neg unjoined, if_pos select]) room
      rename_i unselected
      split
      · rename_i none
        exact ih (read.step 0 fun t => by
          rw [widthFrom_cons, if_neg Bool.false_ne_true, if_neg unjoined, if_neg unselected,
            if_pos none, none]) room
      · -- The glyph ends here. If it fits, the next one starts in the room that is left.
        rename_i wide
        have whole := read (takeGlyphs (room - g.room) (Glyph.split (some c) false
          ⟨[c], charWidth c⟩ r))
        rw [takeGlyphs]
        split
        · exact Nat.zero_le _
        · rename_i some
          split
          · rename_i fits
            have later := ih (ReadTo.start (by simp [Glyph.isMark, unjoined, unselected])
              wide : ReadTo last _ _ _) (room - g.room)
            rw [whole]
            omega
          · exact blank before some

end ReadTo

/-- A joiner at the front would join the character after it to nothing. -/
theorem width_takeGlyphs_le (room : Nat) {t : Text} (unjoined : t.head? ≠ some joiner) :
    width (takeGlyphs room (glyphs t)) ≤ room := by
  cases t with
  | nil => exact Nat.zero_le _
  | cons c r =>
      have apart : c ≠ joiner := fun same => unjoined (by rw [same]; rfl)
      rw [glyphs]
      split
      · rename_i narrow
        refine ReadTo.widthFrom_takeGlyphs_le (fun t => ?_) room r
        rw [List.singleton_append, widthFrom_cons, if_neg Bool.false_ne_true, if_neg apart]
        split
        · rfl
        · rename_i unselected
          have zero : charWidth c = 0 := by simpa [Glyph.isMark, apart, unselected] using narrow
          rw [zero, if_pos rfl]
      · rename_i wide
        rw [Bool.or_eq_true, not_or, decide_eq_true_eq] at wide
        exact (ReadTo.start wide.1 wide.2).widthFrom_takeGlyphs_le room r

end CommandManual.Console
