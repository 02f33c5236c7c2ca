import CommandManual.Console.Wrap
import CommandManual.Proofs.Console.Width
import CommandManual.Proofs.Text.Blanks

/-!
Where lines are broken no word is lost. Texts are cut after line feeds, after tabs and after
the blanks between words, never within a word, and blanks are all that is put in or left out.
Only a line that is still too long afterwards is cut short.
-/

namespace CommandManual.Console

open Text

def wordsOf (parts : List Styled) : List Text := parts.flatMap fun part => words part.text

theorem isBlank_of_mem_blanks {n : Nat} : ∀ c ∈ blanks n, isBlank c = true := by
  intro c hc
  rw [List.eq_of_mem_replicate hc]
  rfl

/-! ### Cutting -/

def AfterBlank (t : Text) (n : Nat) : Prop :=
  ∃ s c r, t = s ++ c :: r ∧ isBlank c = true ∧ n = s.length + 1

section Cutting

variable {t : Styled} {s r : Text} {c : Char} {start : Nat} {positions : List Nat}

theorem text_slice_of_append (split : t.text = s ++ c :: r) (h : start ≤ s.length) :
    (t.slice start (s.length + 1)).text = s.drop start ++ [c] := by
  show (t.text.drop start).take (s.length + 1 - start) = s.drop start ++ [c]
  have size : s.length + 1 - start = (s.drop start ++ [c]).length := by
    rw [List.length_append, List.length_drop, List.length_singleton]
    omega
  rw [split, List.drop_append_of_le_length h, ← List.singleton_append, ← List.append_assoc, size,
    List.take_left]

theorem text_slice_length (start : Nat) :
    (t.slice start t.text.length).text = t.text.drop start := by
  show (t.text.drop start).take (t.text.length - start) = _
  rw [← List.length_drop, List.take_length]

theorem drop_of_append (split : t.text = s ++ c :: r) : t.text.drop (s.length + 1) = r := by
  rw [split, ← List.singleton_append, ← List.append_assoc]
  exact List.drop_left' (by simp)

theorem wordsOf_slicesFrom (increasing : (start :: positions).Pairwise (· < ·))
    (seams : ∀ n ∈ positions, AfterBlank t.text n) :
    wordsOf (t.slicesFrom start positions) = words (t.text.drop start) := by
  induction positions generalizing start with
  | nil =>
      rw [Styled.slicesFrom, wordsOf, List.flatMap_singleton, text_slice_length]
  | cons n rest ih =>
      obtain ⟨s, c, r, split, blank, rfl⟩ := seams n List.mem_cons_self
      have above := List.rel_of_pairwise_cons increasing List.mem_cons_self
      rw [Styled.slicesFrom, wordsOf, List.flatMap_cons, ← wordsOf,
        ih increasing.of_cons fun m hm => seams m (List.mem_cons_of_mem _ hm),
        text_slice_of_append split (by omega), drop_of_append split, split,
        List.drop_append_of_le_length (by omega), words_append_cons blank, words_append_cons blank]
      simp [words]

theorem wordsOf_cutAt (increasing : (0 :: positions).Pairwise (· < ·))
    (seams : ∀ n ∈ positions, AfterBlank t.text n) :
    wordsOf (t.cutAt positions) = words t.text := by
  rw [Styled.cutAt]
  split
  · exact List.flatMap_singleton ..
  · exact wordsOf_slicesFrom increasing seams

end Cutting

/-! ### Lines and tabs -/

theorem not_of_positionsAfter_eq_nil {p : Char → Bool} {start : Nat} {r : Text}
    (none : Styled.positionsAfter p start r = []) : ∀ c ∈ r, p c = false := by
  induction r generalizing start with
  | nil => simp
  | cons c r ih =>
      rw [Styled.positionsAfter] at none
      split at none
      · cases none
      · rename_i other
        exact List.forall_mem_cons.mpr ⟨Bool.not_eq_true _ ▸ other, ih none⟩

section Lines

variable {t : Styled} {start : Nat} {before r : Text}

theorem text_slice_passed (split : t.text = before ++ r) (h : start ≤ before.length) :
    (t.slice start before.length).text = before.drop start := by
  show (t.text.drop start).take (before.length - start) = _
  rw [split, List.drop_append_of_le_length h, ← List.length_drop, List.take_left]

/-- The lines of a text from `start` on, where `before` is passed already and has no line feed
after `start`. -/
theorem text_lines_from (start : Nat) (before r : Text) (split : t.text = before ++ r)
    (h : start ≤ before.length) (single : '\n' ∉ before.drop start) :
    (((start :: Styled.positionsAfter (· == '\n') before.length r).zip
        ((Styled.positionsAfter (· == '\n') before.length r).map (· - 1) ++ [t.text.length])).map
      fun (start, stop) => (t.slice start stop).text) = lines (t.text.drop start) := by
  induction r generalizing start before with
  | nil =>
      rw [split, List.append_nil, lines_eq_singleton single, ← List.append_nil before, ← split]
      exact congrArg (fun t => [t]) (text_slice_length start)
  | cons c r ih =>
      have moved : t.text = (before ++ [c]) ++ r := by
        rw [split, List.append_assoc, List.singleton_append]
      have size : (before ++ [c]).length = before.length + 1 := by simp
      rw [Styled.positionsAfter]
      split
      · rename_i feed
        obtain rfl := beq_iff_eq.mp feed
        have later := ih (before.length + 1) (before ++ ['\n']) moved (by omega) (by
          rw [List.drop_of_length_le (by omega)]
          exact List.not_mem_nil)
        rw [size] at later
        rw [List.map_cons, List.cons_append, List.zip_cons_cons, List.map_cons, later,
          drop_of_append split, split, List.drop_append_of_le_length h, lines_append_newline,
          lines_eq_singleton single, Nat.add_sub_cancel]
        dsimp only
        rw [text_slice_passed split h]
        rfl
      · rename_i other
        have later := ih start (before ++ [c]) moved (by omega) (by
          rw [List.drop_append_of_le_length h, List.mem_append, not_or]
          exact ⟨single, fun feed => other (beq_iff_eq.mpr (List.mem_singleton.mp feed).symm)⟩)
        rw [size] at later
        exact later

theorem text_lines (t : Styled) : t.lines.map Styled.text = lines t.text := by
  have whole := text_lines_from 0 [] t.text rfl (Nat.le_refl _) List.not_mem_nil
  rw [List.length_nil, List.drop_zero] at whole
  unfold Styled.lines
  split
  · rename_i none
    rw [none] at whole
    rw [← whole]
    exact congrArg (fun t => [t]) (text_slice_length 0).symm
  · rw [List.map_map, ← whole]
    rfl

theorem wordsOf_lines (t : Styled) : wordsOf t.lines = words t.text := by
  rw [wordsOf, ← List.flatMap_map Styled.text words, text_lines, flatMap_words_lines]

end Lines

theorem text_foldl_append (before : Styled) (parts : List Styled) :
    (parts.foldl Styled.append before).text = before.text ++ parts.flatMap Styled.text := by
  induction parts generalizing before with
  | nil => exact (List.append_nil _).symm
  | cons part rest ih =>
      rw [List.foldl_cons, ih, List.flatMap_cons, ← List.append_assoc]
      rfl

theorem text_join (parts : List Styled) : (Styled.join parts).text = parts.flatMap Styled.text :=
  text_foldl_append _ _

theorem words_blanks_append {s : Text} (blank : ∀ c ∈ s, isBlank c = true) (t : Text) :
    words (s ++ t) = words t := by
  induction s with
  | nil => rfl
  | cons c r ih =>
      obtain ⟨first, later⟩ := List.forall_mem_cons.mp blank
      rw [List.cons_append, words_cons_of_blank first, ih later]

/-- Tabs that are written as blanks part the same words. What is read of the line is `before`,
which has no tab after `start`. -/
theorem text_spreadParts {t : Styled} (column start : Nat) (before r : Text)
    (split : t.text = before ++ r) (h : start ≤ before.length) (single : '\t' ∉ before.drop start) :
    ∃ spread, (Styled.spreadParts column (t.slicesFrom start
        (Styled.positionsAfter (· == '\t') before.length r))).flatMap Styled.text = spread ∧
      words spread = words (t.text.drop start) ∧
      ∀ c ∈ spread, c = ' ' ∨ (c ≠ '\t' ∧ c ∈ t.text) := by
  have blank : isBlank ' ' = true := rfl
  have tabBlank : isBlank '\t' = true := rfl
  have front : ∀ c ∈ before.drop start, c = ' ' ∨ (c ≠ '\t' ∧ c ∈ t.text) := fun c hc =>
    .inr ⟨fun tab => single (tab ▸ hc),
      split ▸ List.mem_append_left _ (List.mem_of_mem_drop hc)⟩
  induction r generalizing column start before with
  | nil =>
      rw [List.append_nil] at split
      have part : (t.slice start t.text.length).text = before.drop start := by
        rw [text_slice_length, split]
      have last : ¬((t.slice start t.text.length).text.getLast? == some '\t') = true := by
        rw [part, beq_iff_eq]
        exact fun found => single (List.mem_of_getLast? found)
      rw [Styled.positionsAfter, Styled.slicesFrom, Styled.spreadParts, if_neg last,
        Styled.spreadParts, List.flatMap_singleton, part, split]
      exact ⟨_, rfl, rfl, split ▸ front⟩
  | cons c r ih =>
      have moved : t.text = (before ++ [c]) ++ r := by
        rw [split, List.append_assoc, List.singleton_append]
      have size : (before ++ [c]).length = before.length + 1 := by simp
      rw [Styled.positionsAfter]
      split
      · rename_i tab
        obtain rfl := beq_iff_eq.mp tab
        have none : (before ++ ['\t']).drop (before.length + 1) = [] :=
          List.drop_of_length_le (by omega)
        have part := text_slice_of_append split h
        have last : ((t.slice start (before.length + 1)).text.getLast? == some '\t') = true := by
          rw [part, List.getLast?_concat, beq_self_eq_true]
        rw [Styled.slicesFrom, Styled.spreadParts, if_pos last, List.flatMap_cons]
        generalize column + _ = column'
        generalize (if column' % 8 = 0 then 0 else 8 - column' % 8) = n
        -- The part ends with this tab, so the next one starts after it with nothing read yet.
        obtain ⟨later, found, sameWords, chars⟩ := ih (column' + n) (before.length + 1)
          (before ++ ['\t']) moved (by omega) (by rw [none]; exact List.not_mem_nil)
          (by rw [none]; exact fun _ h => absurd h List.not_mem_nil)
        rw [size] at found
        refine ⟨before.drop start ++ ' ' :: (blanks n ++ later), ?_, ?_, fun c hc => ?_⟩
        · rw [found]
          show (t.slice start (before.length + 1)).text.dropLast ++ [' '] ++ blanks n ++ later = _
          rw [part, List.dropLast_concat]
          simp
        · rw [words_append_cons blank, words_blanks_append isBlank_of_mem_blanks, sameWords,
            drop_of_append split, split, List.drop_append_of_le_length h,
            words_append_cons tabBlank]
        · rw [List.mem_append, List.mem_cons, List.mem_append] at hc
          rcases hc with hc | rfl | hc | hc
          · exact front c hc
          · exact .inl rfl
          · exact .inl (List.eq_of_mem_replicate hc)
          · exact chars c hc
      · rename_i other
        have single' : '\t' ∉ (before ++ [c]).drop start := by
          rw [List.drop_append_of_le_length h, List.mem_append, not_or]
          exact ⟨single, fun tab => other (beq_iff_eq.mpr (List.mem_singleton.mp tab).symm)⟩
        have later := ih column start (before ++ [c]) moved (by omega) single' (fun c hc =>
          .inr ⟨fun tab => single' (tab ▸ hc),
            moved ▸ List.mem_append_left _ (List.mem_of_mem_drop hc)⟩)
        rw [size] at later
        exact later

theorem text_spreadTabs (line : Styled) :
    words line.spreadTabs.text = words line.text ∧
      ∀ c ∈ line.spreadTabs.text, c = ' ' ∨ (c ≠ '\t' ∧ c ∈ line.text) := by
  obtain ⟨spread, found, same, chars⟩ := text_spreadParts 0 0 [] line.text rfl (Nat.le_refl _)
    List.not_mem_nil
  rw [List.length_nil] at found
  unfold Styled.spreadTabs
  split
  · rename_i none
    refine ⟨rfl, fun c hc => .inr ⟨fun tab => ?_, hc⟩⟩
    have other := not_of_positionsAfter_eq_nil none c hc
    rw [tab, beq_self_eq_true] at other
    cases other
  · rename_i ends some
    have cut : line.cutAt (Styled.positionsAfter (· == '\t') 0 line.text) =
        line.slicesFrom 0 (Styled.positionsAfter (· == '\t') 0 line.text) := by
      rw [Styled.cutAt, if_neg]
      rw [List.isEmpty_iff]
      exact some
    rw [cut, text_join, found]
    exact ⟨same, chars⟩

theorem words_spreadTabs (line : Styled) : words line.spreadTabs.text = words line.text :=
  (text_spreadTabs line).1

/-! ### Breaking -/

/-- The front of a text in parts that are not empty, each before another one ending in a
blank. -/
inductive Chunked : Text → List Text → Prop
  | nil (t : Text) : Chunked t []
  | cons {w r : Text} {ws : List Text} : w ≠ [] →
      (ws ≠ [] → ∃ s c, w = s ++ [c] ∧ isBlank c = true) →
      Chunked r ws → Chunked (w ++ r) (w :: ws)

/-- Passing what was taken leaves what is dropped. -/
theorem drop_length_takeWhile (p : Char → Bool) (t : Text) :
    t.drop (t.takeWhile p).length = t.dropWhile p := by
  conv => lhs; arg 2; rw [← List.takeWhile_append_dropWhile (p := p) (l := t)]
  exact List.drop_left

theorem eq_nil_of_takeWhile_eq_nil {t : Text} (blanks : t.takeWhile isBlank = [])
    (solid : (t.takeWhile fun c => !isBlank c) = []) : t = [] := by
  cases t with
  | nil => rfl
  | cons c r => cases h : isBlank c <;> simp [h] at blanks solid

theorem takeWhile_dropWhile (p : Char → Bool) (t : Text) : (t.dropWhile p).takeWhile p = [] := by
  induction t with
  | nil => rfl
  | cons c r ih => cases h : p c <;> simp [h, ih]

theorem chunked_chunks (fuel : Nat) (t : Text) : Chunked t (chunks fuel t) := by
  induction fuel generalizing t with
  | zero => exact .nil t
  | succ fuel ih =>
      rw [chunks]
      dsimp only
      split
      · exact .nil t
      · rename_i some
        rw [drop_length_takeWhile] at some ⊢
        rw [← List.drop_drop, drop_length_takeWhile, drop_length_takeWhile, drop_length_takeWhile]
        -- A chunk: blanks, a word, and the blanks after it. Without blanks after it the
        -- word ends the text, and there is no chunk to come.
        have parts : t = t.takeWhile isBlank ++
            (t.dropWhile isBlank).takeWhile (fun c => !isBlank c) ++
            (((t.dropWhile isBlank).dropWhile fun c => !isBlank c).takeWhile isBlank) ++
            (((t.dropWhile isBlank).dropWhile fun c => !isBlank c).dropWhile isBlank) := by
          rw [List.append_assoc, List.takeWhile_append_dropWhile, List.append_assoc,
            List.takeWhile_append_dropWhile, List.takeWhile_append_dropWhile]
        have stop : (((t.dropWhile isBlank).dropWhile fun c => !isBlank c).takeWhile
            fun c => !isBlank c) = [] := takeWhile_dropWhile _ _
        generalize ((t.dropWhile isBlank).dropWhile fun c => !isBlank c) = rest at *
        have whole := Chunked.cons (w := t.takeWhile isBlank ++
            (t.dropWhile isBlank).takeWhile (fun c => !isBlank c) ++ rest.takeWhile isBlank)
          ?_ ?_ (ih (rest.dropWhile isBlank))
        · rw [← parts] at whole
          exact whole
        · intro none
          rw [List.append_eq_nil_iff, List.append_eq_nil_iff] at none
          exact some (List.isEmpty_iff.mpr none.1.2)
        · intro more
          have trail : rest.takeWhile isBlank ≠ [] := by
            intro none
            rw [eq_nil_of_takeWhile_eq_nil none stop] at more
            exact more (by cases fuel <;> rfl)
          refine ⟨t.takeWhile isBlank ++ (t.dropWhile isBlank).takeWhile (fun c => !isBlank c) ++
            (rest.takeWhile isBlank).dropLast, _, ?_,
            List.mem_takeWhile_imp (List.getLast_mem trail)⟩
          rw [List.append_assoc _ _ [_], List.dropLast_append_getLast]

/-- Breaks lie between words. -/
theorem breaksFrom_between {t r : Text} {ws : List Text} (limit column : Nat) (before : Text)
    (chunked : Chunked r ws) (split : t = before ++ r)
    (seam : ws ≠ [] → before = [] ∨ ∃ s c, before = s ++ [c] ∧ isBlank c = true) :
    (breaksFrom limit false before.length column ws).Pairwise (· < ·) ∧
      ∀ n ∈ breaksFrom limit false before.length column ws,
        before.length ≤ n ∧ AfterBlank t n := by
  induction chunked generalizing before column with
  | nil => exact ⟨.nil, by simp [breaksFrom]⟩
  | @cons w r ws solid blank chunked ih =>
      have size : (before ++ w).length = before.length + w.length := List.length_append
      have longer : 0 < w.length := List.length_pos_iff.mpr solid
      have later (column : Nat) := ih column (before ++ w)
        (by rw [split, List.append_assoc]) (by
          intro more
          obtain ⟨s, c, rfl, last⟩ := blank more
          exact .inr ⟨before ++ s, c, (List.append_assoc ..).symm, last⟩)
      rw [size] at later
      -- Either no break stands before this word, or the first one does.
      have passed (column : Nat) :
          (breaksFrom limit false (before.length + w.length) column ws).Pairwise (· < ·) ∧
            ∀ n ∈ breaksFrom limit false (before.length + w.length) column ws,
              before.length ≤ n ∧ AfterBlank t n :=
        ⟨(later column).1, fun n hn => ⟨by have := ((later column).2 n hn).1; omega,
          ((later column).2 n hn).2⟩⟩
      have here (column : Nat) (inner : before.length ≠ 0) :
          (before.length :: breaksFrom limit false (before.length + w.length) column ws).Pairwise
              (· < ·) ∧
            ∀ n ∈ before.length :: breaksFrom limit false (before.length + w.length) column ws,
              before.length ≤ n ∧ AfterBlank t n := by
        refine ⟨List.pairwise_cons.mpr ⟨fun n hn => ?_, (later column).1⟩,
          List.forall_mem_cons.mpr ⟨⟨Nat.le_refl _, ?_⟩, (passed column).2⟩⟩
        · have := ((later column).2 n hn).1
          omega
        · rcases seam (List.cons_ne_nil _ _) with rfl | ⟨s, c, rfl, blank⟩
          · exact absurd rfl inner
          · exact ⟨s, c, w ++ r, by rw [split, List.append_assoc, List.singleton_append], blank,
              by simp⟩
      rw [breaksFrom]
      dsimp only
      split
      · exact passed _
      · split
        · split
          · rename_i fold
            cases fold
          · split
            · exact passed _
            · rename_i inner
              exact here _ inner
        · split
          · rename_i inner
            exact here _ (by simpa using (Bool.and_eq_true_iff.mp inner).2)
          · exact passed _

theorem exists_trimEnd_eq (t : Text) :
    ∃ trail, t = trimEnd t ++ trail ∧ ∀ c ∈ trail, isBlank c = true := by
  refine ⟨(t.reverse.takeWhile isBlank).reverse, ?_, fun c hc => ?_⟩
  · rw [trimEnd, dropEndWhile_eq_rdropWhile, List.rdropWhile, ← List.reverse_append,
      List.takeWhile_append_dropWhile, List.reverse_reverse]
  · exact List.mem_takeWhile_imp (List.mem_reverse.mp hc)

theorem words_dropExcess (limit : Nat) (line : Styled) :
    words (dropExcess limit line).text = words line.text := by
  obtain ⟨trail, parts, blank⟩ := exists_trimEnd_eq line.text
  unfold dropExcess
  dsimp only
  split
  · show words (line.text.take _) = _
    have size := congrArg List.length parts
    rw [List.length_append] at size
    generalize kept : line.text.length - min _ _ = n
    have whole : (trimEnd line.text).length ≤ n := by omega
    rw [parts, List.take_append, List.take_of_length_le whole, words_append_blanks _ blank,
      words_append_blanks _ fun c hc => blank c (List.mem_of_mem_take hc)]
  · rfl

theorem wordsOf_breakLine (limit : Nat) (line : Styled) :
    wordsOf (breakLine limit false line) = words line.text := by
  obtain ⟨increasing, between⟩ := breaksFrom_between limit 0 []
    (chunked_chunks line.text.length line.text) rfl fun _ => .inl rfl
  rw [breakLine, wordsOf, List.flatMap_map]
  simp only [words_dropExcess]
  refine wordsOf_cutAt (List.pairwise_cons.mpr ⟨fun n hn => ?_, increasing⟩)
    fun n hn => (between n hn).2
  obtain ⟨-, s, c, r, -, -, rfl⟩ := between n hn
  exact Nat.succ_pos _

/-- Where words are not folded, the broken lines of a text have its words. -/
theorem wordsOf_brokenLines {overflow : Overflow} (unfolded : overflow ≠ .fold) (limit : Nat)
    (t : Styled) : wordsOf (brokenLines limit overflow t) = words t.text := by
  rw [← wordsOf_lines, brokenLines, wordsOf, List.flatMap_assoc]
  refine List.flatMap_congr fun line _ => ?_
  rw [← words_spreadTabs line]
  cases overflow with
  | fold => exact absurd rfl unfolded
  | ellipsis => exact wordsOf_breakLine limit line.spreadTabs
  | oneLine => exact List.flatMap_singleton ..

/-! ### Lines of their own -/

def Sealed (t : Text) : Prop := ∀ c ∈ t, c ≠ '\n' ∧ c ≠ '\t'

instance (t : Text) : Decidable (Sealed t) :=
  decidable_of_iff (t.all fun c => c != '\n' && c != '\t') (by simp [Sealed])

theorem Sealed.of_subset {s t : Text} (h : s ⊆ t) (closed : Sealed t) : Sealed s :=
  fun c hc => closed c (h hc)

theorem Sealed.append {s t : Text} (hs : Sealed s) (ht : Sealed t) : Sealed (s ++ t) :=
  List.forall_mem_append.mpr ⟨hs, ht⟩

theorem sealed_blanks (n : Nat) : Sealed (blanks n) := by
  intro c hc
  rw [List.eq_of_mem_replicate hc]
  decide

theorem positionsAfter_eq_nil {p : Char → Bool} {r : Text} (h : ∀ c ∈ r, p c = false)
    (start : Nat) : Styled.positionsAfter p start r = [] := by
  induction r generalizing start with
  | nil => rfl
  | cons c r ih =>
      obtain ⟨first, later⟩ := List.forall_mem_cons.mp h
      rw [Styled.positionsAfter, if_neg (by rw [first]; exact Bool.false_ne_true), ih later]

theorem spreadTabs_of_sealed (line : Styled) (closed : Sealed line.text) :
    line.spreadTabs = line := by
  have none := positionsAfter_eq_nil (p := (· == '\t')) (r := line.text)
    (fun c hc => beq_false_of_ne (closed c hc).2) 0
  unfold Styled.spreadTabs
  rw [none]

theorem text_slice_subset (t : Styled) (start stop : Nat) : (t.slice start stop).text ⊆ t.text :=
  List.Subset.trans (List.take_subset _ _) (List.drop_subset _ _)

theorem text_subset_of_mem_cutAt {t part : Styled} {positions : List Nat}
    (h : part ∈ t.cutAt positions) : part.text ⊆ t.text := by
  have cut (start : Nat) (positions : List Nat) :
      ∀ part ∈ t.slicesFrom start positions, part.text ⊆ t.text := by
    induction positions generalizing start with
    | nil => exact List.forall_mem_singleton.mpr (text_slice_subset ..)
    | cons n rest ih => exact List.forall_mem_cons.mpr ⟨text_slice_subset .., ih n⟩
  rw [Styled.cutAt] at h
  split at h
  · rw [List.mem_singleton.mp h]
    exact List.Subset.refl _
  · exact cut 0 positions part h

theorem text_dropExcess_subset (limit : Nat) (line : Styled) :
    (dropExcess limit line).text ⊆ line.text := by
  unfold dropExcess
  dsimp only
  split
  · exact List.take_subset _ _
  · exact List.Subset.refl _

theorem sealed_of_mem_brokenLines {limit : Nat} {overflow : Overflow} {t part : Styled}
    (h : part ∈ brokenLines limit overflow t) : Sealed part.text := by
  obtain ⟨line, hline, h⟩ := List.mem_flatMap.mp h
  have single : '\n' ∉ line.text := by
    refine newline_not_mem_of_mem_lines (t := t.text) ?_
    rw [← text_lines]
    exact List.mem_map_of_mem hline
  have spread : Sealed line.spreadTabs.text := by
    intro c hc
    rcases (text_spreadTabs line).2 c hc with rfl | ⟨untabbed, within⟩
    · decide
    · exact ⟨fun feed => single (feed ▸ within), untabbed⟩
  have broken {fold : Bool} (h : part ∈ breakLine limit fold line.spreadTabs) :
      Sealed part.text := by
    obtain ⟨cut, hcut, rfl⟩ := List.mem_map.mp h
    exact spread.of_subset
      (List.Subset.trans (text_dropExcess_subset limit cut) (text_subset_of_mem_cutAt hcut))
  cases overflow with
  | fold => exact broken h
  | ellipsis => exact broken h
  | oneLine => exact List.mem_singleton.mp h ▸ spread

/-! ### Widths of parts -/

theorem width_take_le (n : Nat) (t : Text) : width (t.take n) ≤ width t := by
  have whole := widthFrom_le_append none false (t.take n) (t.drop n)
  rwa [List.take_append_drop] at whole

theorem width_le_of_mem_cutAt {t part : Styled} {positions : List Nat}
    (seams : ∀ n ∈ positions, AfterBlank t.text n) (h : part ∈ t.cutAt positions) :
    width part.text ≤ width t.text := by
  have cut (start : Nat) (positions : List Nat) (seams : ∀ n ∈ positions, AfterBlank t.text n)
      (first : width (t.text.drop start) ≤ width t.text) :
      ∀ part ∈ t.slicesFrom start positions, width part.text ≤ width t.text := by
    induction positions generalizing start with
    | nil => exact List.forall_mem_singleton.mpr ((width_take_le _ _).trans first)
    | cons n rest ih =>
        obtain ⟨here, later⟩ := List.forall_mem_cons.mp seams
        refine List.forall_mem_cons.mpr ⟨(width_take_le _ _).trans first, ih n later ?_⟩
        obtain ⟨s, c, r, split, blank, rfl⟩ := here
        rw [drop_of_append split, split]
        exact width_le_of_blank blank s r none false
  rw [Styled.cutAt] at h
  split at h
  · rw [List.mem_singleton.mp h]
  · exact cut 0 positions seams (Nat.le_refl _) part h

theorem width_dropExcess_le (limit : Nat) (line : Styled) :
    width (dropExcess limit line).text ≤ width line.text := by
  unfold dropExcess
  dsimp only
  split
  · exact width_take_le _ _
  · exact Nat.le_refl _

/-- The broken lines of a text without line feeds and tabs are no wider than the text. -/
theorem width_le_of_mem_brokenLines {limit : Nat} {overflow : Overflow} {t part : Styled}
    (unfolded : overflow ≠ .fold) (closed : Sealed t.text)
    (h : part ∈ brokenLines limit overflow t) : width part.text ≤ width t.text := by
  have one : t.lines = [t] := by
    unfold Styled.lines
    rw [positionsAfter_eq_nil fun c hc => beq_false_of_ne (closed c hc).1]
  rw [brokenLines, one, List.flatMap_singleton, spreadTabs_of_sealed t closed] at h
  cases overflow with
  | fold => exact absurd rfl unfolded
  | oneLine => rw [List.mem_singleton.mp h]
  | ellipsis =>
      obtain ⟨cut, hcut, rfl⟩ := List.mem_map.mp h
      refine (width_dropExcess_le limit cut).trans (width_le_of_mem_cutAt (fun n hn => ?_) hcut)
      exact ((breaksFrom_between _ _ [] (chunked_chunks _ _) rfl fun _ => .inl rfl).2 n hn).2

end CommandManual.Console
