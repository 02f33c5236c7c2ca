import CommandManual.Console.Table
import CommandManual.Proofs.Console.Reading
import CommandManual.Proofs.Console.Width
import CommandManual.Proofs.Console.Wrapping

/-!
What a column shows of a cell. A cell whose broken lines are no wider than the column keeps all
of its words. A line that is wider is cut, which its last character shows; and nothing that is
done to a cell adds a bracket or a backslash to it.
-/

namespace CommandManual.Console

open Text

def heldBy (column : Column) (total : Nat) (cell : Styled) : List Text :=
  (cellLines column total cell).flatMap words

def Fits (column : Column) (total : Nat) (cell : Styled) : Prop :=
  if total ≤ 2 then words cell.text = []
  else ∀ line ∈ brokenLines (total - 2) column.overflow cell, width line.text ≤ total - 2

instance (column : Column) (total : Nat) (cell : Styled) : Decidable (Fits column total cell) :=
  inferInstanceAs (Decidable (if total ≤ 2 then words cell.text = []
    else ∀ line ∈ brokenLines (total - 2) column.overflow cell, width line.text ≤ total - 2))

theorem Column.overflow_ne_fold (column : Column) : column.overflow ≠ .fold := by
  rw [Column.overflow]
  split <;> exact Overflow.noConfusion

/-! ### Lines that are filled or cut -/

theorem text_replace (t : Styled) (text : Text) : (t.replace text).text = text := by
  rw [Styled.replace]
  split <;> rfl

section Shorten

variable {limit : Nat} {overflow : Overflow} {line : Styled}

theorem text_shorten_of_le (fits : width line.text ≤ limit) :
    (shorten limit overflow line).text = line.text ++ blanks (limit - width line.text) := by
  unfold shorten
  exact congrArg Styled.text (if_neg (Nat.not_lt.mpr fits))

theorem text_shorten_of_lt (unfolded : overflow ≠ .fold) (wide : limit < width line.text) :
    (shorten limit overflow line).text = fitTo (limit - 1) line.text ++ [ellipsis] := by
  unfold shorten
  refine (congrArg Styled.text (if_pos wide)).trans ?_
  cases overflow with
  | fold => exact absurd rfl unfolded
  | ellipsis => exact text_replace ..
  | oneLine => exact text_replace ..

theorem text_shorten_fold (wide : limit < width line.text) :
    (shorten limit .fold line).text = fitTo limit line.text :=
  (congrArg Styled.text (if_pos wide)).trans (text_replace ..)

theorem words_shorten_of_le (fits : width line.text ≤ limit) :
    words (shorten limit overflow line).text = words line.text := by
  rw [text_shorten_of_le fits, words_append_blanks _ isBlank_of_mem_blanks]

theorem width_shorten_le (unfolded : overflow ≠ .fold) (room : 0 < limit)
    (unjoined : line.text.head? ≠ some joiner) :
    width (shorten limit overflow line).text ≤ limit := by
  rcases Nat.lt_or_ge limit (width line.text) with wide | fits
  · have narrow : charWidth ellipsis ≤ 1 := by decide +kernel
    have taken := width_takeGlyphs_le (limit - 1) unjoined
    have last := widthFrom_append_le (widthFrom_singleton_le narrow)
      (takeGlyphs (limit - 1) (glyphs line.text)) none false
    rw [text_shorten_of_lt unfolded wide, fitTo, if_neg (by omega)]
    have := last.trans (Nat.add_le_add_right taken 1)
    rw [width]
    omega
  · rw [text_shorten_of_le fits]
    have := width_append_blanks_le line.text (limit - width line.text)
    omega

end Shorten

/-! ### Styles -/

section Flat

variable {s : Styled}

theorem spans_slice (flat : s.spans = []) (start stop : Nat) : (s.slice start stop).spans = [] := by
  rw [Styled.slice, flat]
  rfl

theorem spans_of_mem_lines (flat : s.spans = []) : ∀ line ∈ s.lines, line.spans = [] := by
  intro line within
  unfold Styled.lines at within
  split at within
  · rwa [List.mem_singleton.mp within]
  · obtain ⟨⟨start, stop⟩, -, rfl⟩ := List.mem_map.mp within
    exact spans_slice flat start stop

theorem spans_of_mem_cutAt (flat : s.spans = []) (positions : List Nat) :
    ∀ part ∈ s.cutAt positions, part.spans = [] := by
  have cut (start : Nat) : ∀ part ∈ s.slicesFrom start positions, part.spans = [] := by
    induction positions generalizing start with
    | nil =>
        intro part within
        rw [List.mem_singleton.mp within]
        exact spans_slice flat _ _
    | cons n rest ih => exact List.forall_mem_cons.mpr ⟨spans_slice flat _ _, ih n⟩
  rw [Styled.cutAt]
  split
  · exact List.forall_mem_singleton.mpr flat
  · exact cut 0

theorem spans_spreadParts (column : Nat) {parts : List Styled}
    (flat : ∀ part ∈ parts, part.spans = []) :
    ∀ part ∈ Styled.spreadParts column parts, part.spans = [] := by
  induction parts generalizing column with
  | nil => exact flat
  | cons part rest ih =>
      obtain ⟨first, later⟩ := List.forall_mem_cons.mp flat
      rw [Styled.spreadParts]
      split
      · refine List.forall_mem_cons.mpr ⟨?_, ih _ later⟩
        show List.map _ part.spans = []
        rw [first]
        rfl
      · exact List.forall_mem_cons.mpr ⟨first, ih _ later⟩

theorem spans_join {parts : List Styled} (flat : ∀ part ∈ parts, part.spans = []) :
    (Styled.join parts).spans = [] := by
  have added (before : Styled) (first : before.spans = []) :
      (parts.foldl Styled.append before).spans = [] := by
    induction parts generalizing before with
    | nil => exact first
    | cons part rest ih =>
        obtain ⟨here, later⟩ := List.forall_mem_cons.mp flat
        refine ih later _ ?_
        rw [Styled.append, first, here]
        rfl
  exact added _ rfl

theorem spans_spreadTabs (flat : s.spans = []) : s.spreadTabs.spans = [] := by
  unfold Styled.spreadTabs
  split
  · exact flat
  · exact spans_join (spans_spreadParts 0 (spans_of_mem_cutAt flat _))

theorem spans_take (flat : s.spans = []) (n : Nat) : (s.take n).spans = [] := by
  rw [Styled.take, flat]
  rfl

theorem spans_dropExcess (flat : s.spans = []) (limit : Nat) :
    (dropExcess limit s).spans = [] := by
  unfold dropExcess
  dsimp only
  split
  · exact spans_take flat _
  · exact flat

theorem spans_of_mem_brokenLines (flat : s.spans = []) (limit : Nat) (overflow : Overflow) :
    ∀ line ∈ brokenLines limit overflow s, line.spans = [] := by
  have broken (fold : Bool) {line : Styled} (flat : line.spans = []) :
      ∀ part ∈ breakLine limit fold line, part.spans = [] := by
    intro part within
    obtain ⟨cut, hcut, rfl⟩ := List.mem_map.mp within
    exact spans_dropExcess (spans_of_mem_cutAt flat _ cut hcut) limit
  intro line within
  obtain ⟨whole, hwhole, within⟩ := List.mem_flatMap.mp within
  have spread := spans_spreadTabs (spans_of_mem_lines flat whole hwhole)
  cases overflow with
  | fold => exact broken true spread line within
  | ellipsis => exact broken false spread line within
  | oneLine => rwa [List.mem_singleton.mp within]

theorem spans_replace (flat : s.spans = []) (text : Text) : (s.replace text).spans = [] := by
  rw [Styled.replace]
  split
  · exact spans_take flat _
  · exact flat

theorem spans_shorten (flat : s.spans = []) (limit : Nat) (overflow : Overflow) :
    (shorten limit overflow s).spans = [] := by
  unfold shorten
  dsimp only
  split
  · split <;> exact spans_replace flat _
  · exact flat

theorem segments_of_flat (flat : s.spans = []) : s.segments = [s.text] := by
  rw [Styled.segments, flat]
  rfl

end Flat

/-! ### Cells without styles -/

theorem segmentsWidth_append (a b : List Text) :
    segmentsWidth (a ++ b) = segmentsWidth a + segmentsWidth b := by
  induction a with
  | nil => exact (Nat.zero_add _).symm
  | cons s r ih =>
      have := ih
      simp only [segmentsWidth, List.cons_append, List.map_cons, List.foldr_cons] at this ⊢
      omega

theorem segmentsWidth_singleton (s : Text) : segmentsWidth [s] = width s := rfl

theorem fitSegments_of_le {total : Nat} {l : List Text} (fits : segmentsWidth l ≤ total) :
    segmentsWidth (fitSegments total l) = total ∧
      ∃ n, (fitSegments total l).flatten = l.flatten ++ blanks n := by
  unfold fitSegments
  dsimp only
  split
  · rw [segmentsWidth_append, segmentsWidth_singleton, width_blanks, List.flatten_append,
      List.flatten_singleton]
    exact ⟨by omega, _, rfl⟩
  · rw [if_pos (by omega)]
    exact ⟨by omega, 0, (List.append_nil _).symm⟩

/-- Text that fits between the blanks at both edges keeps its words. -/
theorem words_edged {total : Nat} {t : Text} (wide : 2 < total) (fits : width t ≤ total - 2) :
    words (fitSegments total ([' '] :: fitSegments (total - 2) [t] ++ [[' ']])).flatten =
      words t := by
  have blank : isBlank ' ' = true := rfl
  obtain ⟨inner, n, filled⟩ := fitSegments_of_le (l := [t]) fits
  have whole : segmentsWidth ([' '] :: fitSegments (total - 2) [t] ++ [[' ']]) = total := by
    rw [← List.singleton_append, List.append_assoc, segmentsWidth_append, segmentsWidth_append,
      inner, segmentsWidth_singleton]
    show 1 + (total - 2 + 1) = total
    omega
  obtain ⟨-, m, edged⟩ := fitSegments_of_le whole.le
  -- What is filled in on the inside, the edge, and what is filled in after it.
  have trailing : ∀ c ∈ blanks n ++ ([' '] ++ blanks m), isBlank c = true := by
    intro c hc
    rw [List.mem_append, List.mem_append, List.mem_singleton] at hc
    rcases hc with hc | rfl | hc
    · exact isBlank_of_mem_blanks c hc
    · exact blank
    · exact isBlank_of_mem_blanks c hc
  rw [edged, List.cons_append, List.flatten_cons, List.flatten_append, filled,
    List.flatten_singleton, List.flatten_singleton, List.singleton_append, List.cons_append,
    words_cons_of_blank blank, List.append_assoc, List.append_assoc, words_append_blanks _ trailing]

section Flat

variable {column : Column} {total : Nat} {cell : Styled}

theorem heldBy_eq_wordsOf (flat : cell.spans = []) (wide : 2 < total)
    (within : ∀ line ∈ wrap (total - 2) column.overflow cell, width line.text ≤ total - 2) :
    heldBy column total cell = wordsOf (wrap (total - 2) column.overflow cell) := by
  rw [heldBy, cellLines, if_neg (by omega), List.flatMap_map, wordsOf]
  refine List.flatMap_congr fun line hline => ?_
  obtain ⟨broken, hbroken, rfl⟩ := List.mem_map.mp hline
  rw [segments_of_flat (spans_shorten (spans_of_mem_brokenLines flat _ _ broken hbroken) _ _)]
  exact words_edged wide (within _ hline)

theorem heldBy_of_narrow (narrow : total ≤ 2) : heldBy column total cell = [] := by
  rw [heldBy, cellLines, if_pos narrow, List.flatMap_singleton]
  exact words_eq_nil_iff.mpr isBlank_of_mem_blanks

theorem heldBy_of_fits (flat : cell.spans = []) (fits : Fits column total cell) :
    heldBy column total cell = words cell.text := by
  rw [Fits] at fits
  split at fits
  · rw [heldBy_of_narrow (by assumption), fits]
  · have same : ∀ line ∈ brokenLines (total - 2) column.overflow cell,
        width (shorten (total - 2) column.overflow line).text ≤ total - 2 ∧
          words (shorten (total - 2) column.overflow line).text = words line.text := by
      intro line hline
      refine ⟨?_, words_shorten_of_le (fits line hline)⟩
      rw [text_shorten_of_le (fits line hline)]
      have filled := width_append_blanks_le line.text (total - 2 - width line.text)
      have := fits line hline
      omega
    rw [heldBy_eq_wordsOf flat (by omega) (List.forall_mem_map.mpr fun line h => (same line h).1),
      wrap, wordsOf, List.flatMap_map, ← wordsOf_brokenLines column.overflow_ne_fold (total - 2),
      wordsOf]
    exact List.flatMap_congr fun line h => (same line h).2

theorem exists_word_of_mem {t : Text} {c : Char} (h : c ∈ t) (solid : isBlank c = false) :
    ∃ word ∈ words t, c ∈ word := by
  rw [← List.mem_flatten, flatten_words]
  exact List.mem_filter.mpr ⟨h, by rw [solid, Bool.not_false]⟩

theorem mem_of_mem_words {t word : Text} {c : Char} (hword : word ∈ words t) (h : c ∈ word) :
    c ∈ t := by
  have within : c ∈ solid t := by
    rw [← flatten_words]
    exact List.mem_flatten.mpr ⟨word, hword, h⟩
  exact List.mem_of_mem_filter within

/-- A line that is cut ends in an ellipsis. -/
theorem fits_of_uncut (flat : cell.spans = []) (apart : joiner ∉ cell.text)
    (empty : total ≤ 2 → words cell.text = [])
    (uncut : ∀ word ∈ heldBy column total cell, ellipsis ∉ word) : Fits column total cell := by
  rw [Fits]
  split
  · exact empty (by assumption)
  · have bounded : ∀ line ∈ wrap (total - 2) column.overflow cell, width line.text ≤ total - 2 := by
      -- A joiner in front of a line would take the width of the character after it, so that
      -- a line could be too wide and not be cut.
      refine List.forall_mem_map.mpr fun line hline =>
        width_shorten_le column.overflow_ne_fold (by omega) fun front => apart ?_
      obtain ⟨word, hword, hc⟩ := exists_word_of_mem (List.mem_of_mem_head? front) (by decide)
      refine mem_of_mem_words ?_ hc
      rw [← wordsOf_brokenLines column.overflow_ne_fold (total - 2)]
      exact List.mem_flatMap.mpr ⟨line, hline, hword⟩
    intro line hline
    by_contra wide
    have last : ellipsis ∈ (shorten (total - 2) column.overflow line).text := by
      rw [text_shorten_of_lt column.overflow_ne_fold (Nat.lt_of_not_le wide)]
      exact List.mem_append_right _ List.mem_cons_self
    obtain ⟨word, hword, hc⟩ := exists_word_of_mem last (by decide)
    rw [heldBy_eq_wordsOf flat (by omega) bounded] at uncut
    exact uncut word (List.mem_flatMap.mpr ⟨_, List.mem_map_of_mem hline, hword⟩) hc

end Flat

/-! ### Brackets and backslashes -/

theorem marks_solid (t : Text) : marks (solid t) = marks t := by
  rw [marks, marks, solid, List.countP_filter]
  refine List.countP_congr fun c _ => ?_
  have bracket : isBlank '[' = false := rfl
  have slash : isBlank '\\' = false := rfl
  simp only [Bool.and_eq_true, Bool.or_eq_true, beq_iff_eq, and_iff_left_iff_imp]
  rintro (rfl | rfl)
  · rw [bracket, Bool.not_false]
  · rw [slash, Bool.not_false]

theorem marks_flatten_flatMap_words (ls : List Text) :
    marks (ls.flatMap words).flatten = marks ls.flatten := by
  induction ls with
  | nil => rfl
  | cons l rest ih =>
      rw [List.flatMap_cons, List.flatten_append, marks_append, ih, flatten_words, marks_solid,
        List.flatten_cons, marks_append]

theorem flatMap_text_split (last : Option Char) (joined : Bool) (held : Glyph) (t : Text) :
    (Glyph.split last joined held t).flatMap Glyph.text = held.text ++ t := by
  fun_induction Glyph.split last joined held t with
  | case1 => rfl
  | case2 _ held c r ih => rw [ih, Glyph.add, List.append_assoc, List.singleton_append]
  | case3 _ _ held r _ ih => rw [ih, Glyph.add, List.append_assoc, List.singleton_append]
  | case4 _ _ held r _ _ _ ih =>
      rw [ih]
      show held.text ++ [emojiSelector] ++ r = _
      rw [List.append_assoc, List.singleton_append]
  | case5 _ _ held c r _ _ _ _ ih => rw [ih, Glyph.add, List.append_assoc, List.singleton_append]
  | case6 _ _ held c r _ _ _ _ ih => rw [List.flatMap_cons, ih, List.singleton_append]

theorem flatMap_text_glyphs (t : Text) : (glyphs t).flatMap Glyph.text = t := by
  cases t with
  | nil => rfl
  | cons c r =>
      rw [glyphs]
      split <;> exact flatMap_text_split ..

/-- The first text is a front of the second one, with blanks behind it. -/
def FilledFront (s t : Text) : Prop := ∃ p n, s = p ++ blanks n ∧ p <+: t

namespace FilledFront

variable {s t : Text}

theorem refl (t : Text) : FilledFront t t :=
  ⟨t, 0, (List.append_nil t).symm, List.prefix_rfl⟩

theorem filled (t : Text) (n : Nat) : FilledFront (t ++ blanks n) t :=
  ⟨t, n, rfl, List.prefix_rfl⟩

theorem append_left (before : Text) (h : FilledFront s t) :
    FilledFront (before ++ s) (before ++ t) := by
  obtain ⟨p, n, rfl, hp⟩ := h
  exact ⟨before ++ p, n, (List.append_assoc ..).symm,
    (List.prefix_append_right_inj before).mpr hp⟩

theorem append_right (h : FilledFront s t) (later : Text) : FilledFront s (t ++ later) := by
  obtain ⟨p, n, rfl, hp⟩ := h
  exact ⟨p, n, rfl, hp.trans (List.prefix_append t later)⟩

theorem marks_le (h : FilledFront s t) : marks s ≤ marks t := by
  obtain ⟨p, n, rfl, rest, rfl⟩ := h
  rw [marks_append, marks_append, marks_blanks]
  exact Nat.le_add_right _ _

theorem sealed (h : FilledFront s t) (closed : Sealed t) : Sealed s := by
  obtain ⟨p, n, rfl, hp⟩ := h
  exact (Sealed.of_subset hp.subset closed).append (sealed_blanks n)

theorem takeGlyphs (room : Nat) (gs : List Glyph) :
    FilledFront (takeGlyphs room gs) (gs.flatMap Glyph.text) := by
  induction gs generalizing room with
  | nil => exact .refl []
  | cons g rest ih =>
      rw [Console.takeGlyphs, List.flatMap_cons]
      split
      · exact ⟨[], 0, rfl, List.nil_prefix⟩
      · split
        · exact (ih _).append_left g.text
        -- A glyph that does not fit leaves one blank.
        · exact ⟨[], 1, rfl, List.nil_prefix⟩

theorem fitTo (total : Nat) (t : Text) : FilledFront (fitTo total t) t := by
  rw [Console.fitTo]
  split
  · exact .filled t _
  · have taken := FilledFront.takeGlyphs total (glyphs t)
    rwa [flatMap_text_glyphs] at taken

theorem cutSegments (room : Nat) (l : List Text) :
    FilledFront (cutSegments room l).flatten l.flatten := by
  induction l generalizing room with
  | nil => exact .refl []
  | cons s rest ih =>
      rw [Console.cutSegments, List.flatten_cons]
      split
      · exact (ih _).append_left s
      · rw [List.flatten_singleton]
        exact (FilledFront.fitTo room s).append_right rest.flatten

theorem fitSegments (total : Nat) (l : List Text) :
    FilledFront (fitSegments total l).flatten l.flatten := by
  unfold Console.fitSegments
  dsimp only
  split
  · rw [List.flatten_append, List.flatten_singleton]
    exact .filled l.flatten _
  · split
    · exact .refl l.flatten
    · exact .cutSegments total l

/-- What is left of a line in a column: its front, and an ellipsis where it was cut. -/
theorem shorten (limit : Nat) (overflow : Overflow) (line : Styled) :
    FilledFront (shorten limit overflow line).text line.text ∨
      ∃ s, (Console.shorten limit overflow line).text = s ++ [ellipsis] ∧
        FilledFront s line.text := by
  rcases Nat.lt_or_ge limit (width line.text) with wide | fits
  · by_cases folded : overflow = .fold
    · rw [folded, text_shorten_fold wide]
      exact .inl (.fitTo ..)
    · exact .inr ⟨_, text_shorten_of_lt folded wide, .fitTo ..⟩
  · rw [text_shorten_of_le fits]
    exact .inl (.filled ..)

end FilledFront

theorem marks_shorten_le (limit : Nat) (overflow : Overflow) (line : Styled) :
    marks (shorten limit overflow line).text ≤ marks line.text := by
  rcases FilledFront.shorten limit overflow line with front | ⟨s, cut, front⟩
  · exact front.marks_le
  · have last : marks [ellipsis] = 0 := rfl
    rw [cut, marks_append, last]
    exact front.marks_le

theorem flatten_piecesFrom (start : Nat) (t : Text) (positions : List Nat) :
    (Styled.piecesFrom start t positions).flatten = t := by
  induction positions generalizing start t with
  | nil =>
      rw [Styled.piecesFrom]
      split
      · rename_i empty
        exact (List.isEmpty_iff.mp empty).symm
      · exact List.flatten_singleton
  | cons n rest ih =>
      rw [Styled.piecesFrom]
      split
      · exact ih start t
      · rw [List.flatten_cons, ih, List.take_append_drop]

theorem flatten_segments (s : Styled) : s.segments.flatten = s.text := by
  rw [Styled.segments]
  split
  · exact List.flatten_singleton
  · exact flatten_piecesFrom ..

theorem marks_heldBy_le (column : Column) (total : Nat) (cell : Styled) :
    marks (heldBy column total cell).flatten ≤ marks cell.text := by
  have blank : marks [' '] = 0 := rfl
  have edged (l : Styled) :
      marks (fitSegments total ([' '] :: fitSegments (total - 2) l.segments ++ [[' ']])).flatten ≤
        marks l.text := by
    refine (FilledFront.fitSegments ..).marks_le.trans ?_
    rw [List.cons_append, List.flatten_cons, List.flatten_append, List.flatten_singleton,
      marks_append, marks_append, blank, Nat.zero_add, Nat.add_zero, ← flatten_segments l]
    exact (FilledFront.fitSegments ..).marks_le
  rw [heldBy, marks_flatten_flatMap_words, cellLines]
  split
  · rw [List.flatten_singleton, marks_blanks]
    exact Nat.zero_le _
  · -- Breaking a text moves nothing but blanks, which are no marks.
    have kept : marks ((brokenLines (total - 2) column.overflow cell).map Styled.text).flatten =
        marks cell.text := by
      rw [← marks_flatten_flatMap_words, List.flatMap_map]
      show marks (wordsOf _).flatten = _
      rw [wordsOf_brokenLines column.overflow_ne_fold, flatten_words, marks_solid]
    rw [← kept, wrap, List.map_map]
    generalize brokenLines (total - 2) column.overflow cell = lines
    induction lines with
    | nil => exact Nat.le_refl _
    | cons line rest ih =>
        rw [List.map_cons, List.flatten_cons, marks_append, List.map_cons, List.flatten_cons,
          marks_append]
        exact Nat.add_le_add ((edged _).trans (marks_shorten_le ..)) ih

/-! ### Lines of their own -/

theorem sealed_shorten {line : Styled} (closed : Sealed line.text) (limit : Nat)
    (overflow : Overflow) : Sealed (shorten limit overflow line).text := by
  rcases FilledFront.shorten limit overflow line with front | ⟨s, cut, front⟩
  · exact front.sealed closed
  · rw [cut]
    exact (front.sealed closed).append (List.forall_mem_singleton.mpr (by decide))

theorem sealed_of_mem_cellLines {column : Column} {total : Nat} {cell : Styled} {line : Text}
    (h : line ∈ cellLines column total cell) : Sealed line := by
  have blank : Sealed [' '] := List.forall_mem_singleton.mpr (by decide)
  rw [cellLines] at h
  split at h
  · rw [List.mem_singleton.mp h]
    exact sealed_blanks total
  · obtain ⟨shortened, hshortened, rfl⟩ := List.mem_map.mp h
    obtain ⟨broken, hbroken, rfl⟩ := List.mem_map.mp hshortened
    refine (FilledFront.fitSegments ..).sealed ?_
    rw [List.cons_append, List.flatten_cons, List.flatten_append, List.flatten_singleton]
    refine blank.append (((FilledFront.fitSegments ..).sealed ?_).append blank)
    rw [flatten_segments]
    exact sealed_shorten (sealed_of_mem_brokenLines hbroken) _ _

/-! ### Cells that are read -/

/-- A text in which nothing makes up for what is taken from it: it has no emoji code, no
ellipsis of its own, and no joiner that hides the width of a character. -/
structure Ordinary (t : Text) : Prop where
  codeless : Codeless t
  whole : ellipsis ∉ t
  apart : joiner ∉ t

/-- A text that a column shows as it is written, up to the blanks between its words. -/
structure Kept (column : Column) (total : Nat) (t : Text) : Prop where
  unmarked : Unmarked t
  visible : words (shown t) = words t
  fits : Fits column total (Styled.ofText (shown t))

theorem Kept.heldBy_eq {column : Column} {total : Nat} {t : Text} {cell : Styled}
    (kept : Kept column total t) (read : readMarkup t = .ok cell) :
    heldBy column total cell = words t := by
  rw [readMarkup_of_unmarked kept.unmarked] at read
  obtain rfl := Except.ok.inj read
  rw [heldBy_of_fits rfl kept.fits]
  exact kept.visible

/-- What a column holds of an ordinary text is the text itself exactly if it is kept. -/
theorem heldBy_eq_words_iff {column : Column} {total : Nat} {t : Text} {cell : Styled}
    (ordinary : Ordinary t) (read : readMarkup t = .ok cell) :
    heldBy column total cell = words t ↔ Kept column total t := by
  refine ⟨fun held => ?_, fun kept => kept.heldBy_eq read⟩
  have marksKept : marks t ≤ marks cell.text := by
    have bound := marks_heldBy_le column total cell
    rwa [held, flatten_words, marks_solid] at bound
  -- Reading a tag or a doubled backslash takes a bracket or a backslash away for good.
  have unmarked := unmarked_of_marks_le ordinary.codeless read marksKept
  rw [readMarkup_of_unmarked unmarked] at read
  obtain rfl := Except.ok.inj read
  have less : (shown t).Sublist t := by
    rw [shown_of_codeless ordinary.codeless]
    exact List.filter_sublist
  have fits : Fits column total (Styled.ofText (shown t)) := by
    refine fits_of_uncut rfl (fun within => ordinary.apart (less.subset within))
      (fun narrow => ?_) ?_
    · have blank : ∀ c ∈ t, isBlank c = true := by
        rw [← words_eq_nil_iff, ← held, heldBy_of_narrow narrow]
      exact words_eq_nil_iff.mpr fun c hc => blank c (less.subset hc)
    · rw [held]
      exact fun word hword cut => ordinary.whole (mem_of_mem_words hword cut)
  refine ⟨unmarked, ?_, fits⟩
  rw [← held, heldBy_of_fits rfl fits]
  rfl

end CommandManual.Console
