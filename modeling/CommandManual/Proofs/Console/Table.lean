import CommandManual.Proofs.Console.Cells

/-!
Where the cells of a table stand. Every row of a table is a block of lines of its own, in which
the cells stand side by side between bars, and read downwards a column of the block has the
words that the column holds of the cell.
-/

namespace CommandManual.Console

open Text

/-- Lines in which texts stand side by side between bars; read downwards, the columns have
given words. -/
def RowShows (block : List Text) (texts : List (List Text)) : Prop :=
  ∃ parts : List (List Text), parts.map (·.flatMap words) = texts ∧
    (∀ column ∈ parts, column.length = block.length) ∧ block ≠ [] ∧
      block = (List.range block.length).map fun n =>
        bar :: joinWith [bar] (parts.map fun column => column.getD n []) ++ [bar]

def RowsShow (lines : List Text) (rows : List (List (List Text))) : Prop :=
  ∃ above blocks below, lines = above ++ blocks.flatten ++ [below] ∧
    List.Forall₂ RowShows blocks rows

def heldWords (columns : List Column) (widths : List Nat) (cells : List Styled) :
    List (List Text) :=
  (columns.zip (widths.zip cells)).map fun (column, total, cell) => heldBy column total cell

/-! ### Widths -/

theorem length_takeShares (total shares : Nat) (l : List (Nat × Nat × Nat)) :
    (takeShares total shares l).length = l.length := by
  induction l generalizing total shares with
  | nil => rfl
  | cons first rest ih =>
      obtain ⟨share, most, value⟩ := first
      rw [takeShares]
      split <;> rw [List.length_cons, List.length_cons, ih]

theorem length_reduceBy {shares most values : List Nat} (total : Nat)
    (sharesLength : shares.length = values.length) (mostLength : most.length = values.length) :
    (reduceBy total shares most values).length = values.length := by
  unfold reduceBy
  dsimp only
  split
  · rfl
  · simp [length_takeShares, sharesLength, mostLength]

theorem length_collapse {mayBreak : List Bool} {limit : Nat} (fuel : Nat) {widths : List Nat}
    (same : mayBreak.length = widths.length) :
    (collapse mayBreak limit fuel widths).length = widths.length := by
  induction fuel generalizing widths with
  | zero => rfl
  | succ fuel ih =>
      have reduced (shares most : List Nat) (total : Nat)
          (sharesLength : shares.length = widths.length)
          (mostLength : most.length = widths.length) :
          (collapse mayBreak limit fuel (reduceBy total shares most widths)).length =
            widths.length := by
        have kept := length_reduceBy total sharesLength mostLength
        rw [ih (same.trans kept.symm), kept]
      unfold collapse
      dsimp only
      split
      · rfl
      · split
        · rfl
        · exact reduced _ _ _ (by simp [same]) (by simp)

theorem length_columnWidths {columns : List Column} {cells : List (List Styled)} (limit : Nat)
    (same : cells.length = columns.length) :
    (columnWidths columns cells limit).length = columns.length := by
  have asked : (cells.map fun c => max 1 (columnWidth limit c)).length = columns.length := by
    rw [List.length_map, same]
  unfold columnWidths
  dsimp only
  split
  · exact asked
  · generalize (cells.map fun c => max 1 (columnWidth limit c)) = widths at asked ⊢
    have collapsed : (collapse (columns.map fun c => !c.oneLine) limit (sumOf widths + 1)
        widths).length = columns.length := by
      rw [length_collapse _ (by rw [List.length_map, asked]), asked]
    generalize collapse (columns.map fun c => !c.oneLine) limit (sumOf widths + 1) widths =
      narrowed at collapsed ⊢
    rw [List.length_map, List.length_zip, same]
    split
    · rw [collapsed, Nat.min_self]
    · rw [length_reduceBy _ (List.length_map _) rfl, collapsed, Nat.min_self]

theorem length_tableWidths (columns : List Column) (rows : List (List Styled)) (screen : Nat) :
    (tableWidths columns rows screen).length = columns.length :=
  length_columnWidths _ (by rw [transpose, List.length_map, List.length_range])

/-! ### Rows -/

theorem le_foldl_max {l : List Nat} {start n : Nat} (h : n = start ∨ n ∈ l) :
    n ≤ l.foldl max start := by
  induction l generalizing start n with
  | nil => exact (h.resolve_right List.not_mem_nil).le
  | cons first rest ih =>
      rw [List.foldl_cons]
      rcases h with rfl | h
      · exact (Nat.le_max_left n first).trans (ih (n := max n first) (.inl rfl))
      · rcases List.mem_cons.mp h with rfl | h
        · exact (Nat.le_max_right start n).trans (ih (n := max start n) (.inl rfl))
        · exact ih (.inr h)

/-- Cells with their widths, filled to a common height, side by side. -/
theorem rowShows_of_blocks {blocks : List (Nat × List Text)} {height : Nat}
    (tall : (blocks.map fun (_, b) => b.length).foldl max 1 = height) :
    RowShows
      ((List.range height).map fun n => bar :: joinWith [bar] ((blocks.map fun (w, b) =>
        b ++ List.replicate (height - b.length) (blanks w)).map fun b => b.getD n []) ++ [bar])
      (blocks.map fun (_, b) => b.flatMap words) := by
  have some : 1 ≤ height := tall ▸ le_foldl_max (.inl rfl)
  refine ⟨blocks.map fun (w, b) => b ++ List.replicate (height - b.length) (blanks w), ?_, ?_, ?_,
    ?_⟩
  · rw [List.map_map]
    refine List.map_congr_left fun (w, b) _ => ?_
    have missing : (List.replicate (height - b.length) (blanks w)).flatMap words = [] := by
      rw [List.flatMap_eq_nil_iff]
      intro line hline
      rw [List.eq_of_mem_replicate hline]
      exact words_eq_nil_iff.mpr isBlank_of_mem_blanks
    show (b ++ List.replicate _ (blanks w)).flatMap words = b.flatMap words
    rw [List.flatMap_append, missing, List.append_nil]
  · refine List.forall_mem_map.mpr fun (w, b) h => ?_
    have bound : b.length ≤ height :=
      tall ▸ le_foldl_max (.inr (List.mem_map_of_mem (f := fun (_, b) => b.length) h))
    rw [List.length_append, List.length_replicate, List.length_map, List.length_range]
    omega
  · rw [ne_eq, List.map_eq_nil_iff, List.range_eq_nil]
    omega
  · rw [List.length_map, List.length_range]

theorem rowShows_rowLines (columns : List Column) (widths : List Nat) (cells : List Styled) :
    RowShows (rowLines columns widths bar bar false cells) (heldWords columns widths cells) := by
  have texts : ((columns.zip (widths.zip cells)).map fun (c, w, t) =>
      (w, cellLines c w t)).map (fun (_, b) => b.flatMap words) =
        heldWords columns widths cells := by
    rw [List.map_map]
    rfl
  rw [← texts]
  exact rowShows_of_blocks rfl

theorem rowsShow_tableLines (title : Text) (columns : List Column) (rows : List (List Styled))
    (screen : Nat) :
    RowsShow (tableLines title columns rows screen)
      (rows.map (heldWords columns (tableWidths columns rows screen))) := by
  refine ⟨_, rows.map (rowLines columns (tableWidths columns rows screen) bar bar false), _, rfl,
    ?_⟩
  rw [List.forall₂_map_left_iff, List.forall₂_map_right_iff, List.forall₂_same]
  exact fun cells _ => rowShows_rowLines columns _ cells

/-! ### Lines of their own -/

theorem sealed_joinWith {sep : Text} {ts : List Text} (between : Sealed sep)
    (closed : ∀ t ∈ ts, Sealed t) : Sealed (joinWith sep ts) := by
  fun_induction joinWith sep ts with
  | case1 => exact fun _ h => absurd h List.not_mem_nil
  | case2 t => exact closed t List.mem_cons_self
  | case3 t ts _ ih =>
      obtain ⟨first, later⟩ := List.forall_mem_cons.mp closed
      exact (first.append between).append (ih later)

theorem sealed_frameLine {left run crossing right : Char}
    (closed : Sealed [left, run, crossing, right]) (widths : List Nat) :
    Sealed (frameLine left run crossing right widths) := by
  have each : ∀ c ∈ [left, run, crossing, right], Sealed [c] := fun c hc =>
    List.forall_mem_singleton.mpr (closed c hc)
  refine Sealed.append (s := [left] ++ _) (Sealed.append (each left (by simp)) ?_)
    (each right (by simp))
  refine sealed_joinWith (each crossing (by simp)) (List.forall_mem_map.mpr fun w _ c hc => ?_)
  rw [List.eq_of_mem_replicate hc]
  exact closed run (by simp)

/-- A cell that is filled to the height of its row. -/
theorem sealed_filled {block : List Text} (closed : ∀ line ∈ block, Sealed line) (heading : Bool)
    (missing w n : Nat) :
    Sealed ((if heading then List.replicate missing (blanks w) ++ block
      else block ++ List.replicate missing (blanks w)).getD n []) := by
  have fill : ∀ line ∈ List.replicate missing (blanks w), Sealed line := fun line hline =>
    List.eq_of_mem_replicate hline ▸ sealed_blanks w
  rw [List.getD_eq_getElem?_getD]
  cases found : (if heading then List.replicate missing (blanks w) ++ block
      else block ++ List.replicate missing (blanks w))[n]? with
  | none => exact fun _ h => absurd h List.not_mem_nil
  | some line =>
      have within := List.mem_of_getElem? found
      split at within
      · exact List.forall_mem_append.mpr ⟨fill, closed⟩ line within
      · exact List.forall_mem_append.mpr ⟨closed, fill⟩ line within

theorem sealed_rowLines {columns : List Column} {widths : List Nat} {edge divider : Char}
    (closed : Sealed [edge, divider]) (heading : Bool) {cells : List Styled} :
    ∀ line ∈ rowLines columns widths edge divider heading cells, Sealed line := by
  have each : ∀ c ∈ [edge, divider], Sealed [c] := fun c hc =>
    List.forall_mem_singleton.mpr (closed c hc)
  unfold rowLines
  refine List.forall_mem_map.mpr fun n _ => ?_
  refine Sealed.append (s := [edge] ++ _) (Sealed.append (each edge (by simp)) ?_)
    (each edge (by simp))
  refine sealed_joinWith (each divider (by simp)) (List.forall_mem_map.mpr fun lines hlines => ?_)
  obtain ⟨⟨w, b⟩, hblock, rfl⟩ := List.mem_map.mp hlines
  obtain ⟨⟨column, total, cell⟩, -, same⟩ := List.mem_map.mp hblock
  obtain ⟨rfl, rfl⟩ := Prod.mk.inj same
  exact sealed_filled (fun _ => sealed_of_mem_cellLines) heading _ _ n

theorem sealed_tableLines {title : Text} (closed : Sealed title) (columns : List Column)
    (rows : List (List Styled)) (screen : Nat) :
    ∀ line ∈ tableLines title columns rows screen, Sealed line := by
  simp only [tableLines, List.forall_mem_append, List.forall_mem_singleton, List.mem_flatMap]
  refine ⟨⟨⟨⟨⟨(sealed_blanks _).append closed, ?_⟩, ?_⟩, ?_⟩, ?_⟩, ?_⟩
  · exact sealed_frameLine (by decide) _
  · exact sealed_rowLines (by decide) true
  · exact sealed_frameLine (by decide) _
  · rintro line ⟨cells, -, hline⟩
    exact sealed_rowLines (by decide) false line hline
  · exact sealed_frameLine (by decide) _

/-! ### Tables with room -/

def Roomy (columns : List Column) (rows : List (List Styled)) (screen : Nat) : Prop :=
  sumOf ((transpose columns rows).map fun cells =>
    max 1 (columnWidth (screen - (columns.length + 1)) cells)) ≤ screen - (columns.length + 1)

structure Straight (t : Text) : Prop where
  untabbed : '\t' ∉ t
  single : ∀ c ∈ t, endsLine c = false

theorem straight_of_all {t : Text} (h : t.all (fun c => c != '\t' && !endsLine c) = true) :
    Straight t := by
  rw [List.all_eq_true] at h
  refine ⟨fun tab => ?_, fun c hc => ?_⟩
  · exact Bool.noConfusion (h _ tab)
  · simpa using (Bool.and_eq_true_iff.mp (h c hc)).2

theorem Straight.sealed {t : Text} (straight : Straight t) : Sealed t := by
  intro c hc
  refine ⟨?_, fun tab => straight.untabbed (tab ▸ hc)⟩
  rintro rfl
  exact Bool.noConfusion (straight.single _ hc)

theorem cellWidth_of_straight {t : Text} (straight : Straight t) (limit : Nat) :
    cellWidth limit t = min limit (width t + 2) := by
  unfold cellWidth
  rw [splitWhere_eq_singleton straight.single]
  simp

theorem lt_sumOf {l : List Nat} (several : 2 ≤ l.length) (positive : ∀ n ∈ l, 1 ≤ n) :
    ∀ n ∈ l, n < sumOf l := by
  have whole : ∀ l : List Nat, ∀ n ∈ l, n ≤ sumOf l := by
    intro l
    induction l with
    | nil => simp
    | cons m rest ih =>
        refine List.forall_mem_cons.mpr ⟨Nat.le_add_right _ _, fun n hn => ?_⟩
        exact (ih n hn).trans (Nat.le_add_left _ _)
  match l, several with
  | a :: b :: rest, _ =>
      have total : sumOf (a :: b :: rest) = a + (b + sumOf rest) := rfl
      have first := positive a (by simp)
      have second := positive b (by simp)
      refine List.forall_mem_cons.mpr
        ⟨by omega, List.forall_mem_cons.mpr ⟨by omega, fun n hn => ?_⟩⟩
      have := whole rest n hn
      omega

section Roomy

variable {columns : List Column} {rows : List (List Styled)} {screen : Nat}

theorem tableWidths_of_roomy (roomy : Roomy columns rows screen) :
    tableWidths columns rows screen = (transpose columns rows).map fun cells =>
      max 1 (columnWidth (screen - (columns.length + 1)) cells) := by
  unfold tableWidths columnWidths
  exact if_pos roomy

theorem width_le_of_roomy (roomy : Roomy columns rows screen) (several : 2 ≤ columns.length)
    {n : Nat} {cells : List Styled} {total : Nat}
    (column : (transpose columns rows)[n]? = some cells)
    (given : (tableWidths columns rows screen)[n]? = some total) {cell : Styled} (h : cell ∈ cells)
    (straight : Straight cell.text) : width cell.text + 2 ≤ total := by
  have size : (transpose columns rows).length = columns.length := by
    rw [transpose, List.length_map, List.length_range]
  rw [tableWidths_of_roomy roomy, List.getElem?_map, column] at given
  have own : max 1 (columnWidth (screen - (columns.length + 1)) cells) = total :=
    Option.some.inj given
  -- With another column beside it, a column is narrower than the screen, so it was not
  -- the screen that bounded what it asks for.
  have below : total < _ := lt_sumOf (by rw [List.length_map, size]; exact several)
    (List.forall_mem_map.mpr fun _ _ => Nat.le_max_left _ _) total
    (List.mem_map.mpr ⟨cells, List.mem_of_getElem? column, own⟩)
  have asked : cellWidth (screen - (columns.length + 1)) cell.text ≤
      columnWidth (screen - (columns.length + 1)) cells :=
    le_foldl_max (.inr (List.mem_map_of_mem (f := fun c => cellWidth _ c.text) h))
  rw [cellWidth_of_straight straight] at asked
  have within : total < screen - (columns.length + 1) := Nat.lt_of_lt_of_le below roomy
  omega

theorem fits_of_width_le {column : Column} {total : Nat} {cell : Styled}
    (closed : Sealed cell.text) (wide : 2 < total) (h : width cell.text + 2 ≤ total) :
    Fits column total cell := by
  rw [Fits, if_neg (by omega)]
  intro line hline
  have := width_le_of_mem_brokenLines column.overflow_ne_fold closed hline
  omega

/-- On a screen with room for all columns, texts that stay on their lines fit. -/
theorem fits_of_roomy (roomy : Roomy columns rows screen) (several : 2 ≤ columns.length)
    (headed : ∀ column ∈ columns, Straight column.heading.toList ∧ 0 < width column.heading.toList)
    {cells : List Styled} (row : cells ∈ rows) :
    ∀ part ∈ columns.zip ((tableWidths columns rows screen).zip cells), Straight part.2.2.text →
      Fits part.1 part.2.1 part.2.2 := by
  rintro ⟨column, total, cell⟩ within straight
  obtain ⟨n, found⟩ := List.getElem?_of_mem within
  obtain ⟨hcolumn, hrest⟩ := List.getElem?_zip_eq_some.mp found
  obtain ⟨htotal, hcell⟩ := List.getElem?_zip_eq_some.mp hrest
  obtain ⟨inside, -⟩ := List.getElem?_eq_some_iff.mp hcolumn
  have above : (transpose columns rows)[n]? =
      some (Styled.ofText column.heading.toList ::
        rows.map fun r => r.getD n (Styled.ofText [])) := by
    rw [transpose, List.getElem?_map, List.getElem?_range inside, Option.map_some, hcolumn]
    rfl
  obtain ⟨straightHeading, some⟩ := headed column (List.mem_of_getElem? hcolumn)
  have heading := width_le_of_roomy roomy several above htotal List.mem_cons_self straightHeading
  have here : cell ∈ Styled.ofText column.heading.toList ::
      rows.map fun r => r.getD n (Styled.ofText []) := by
    refine List.mem_cons_of_mem _ (List.mem_map.mpr ⟨cells, row, ?_⟩)
    rw [List.getD_eq_getElem?_getD, hcell, Option.getD_some]
  have some' : 0 < width (Styled.ofText column.heading.toList).text := some
  exact fits_of_width_le straight.sealed (by omega)
    (width_le_of_roomy roomy several above htotal here straight)

end Roomy

end CommandManual.Console
