import CommandManual.Proofs.Console.Table
import CommandManual.Proofs.Shell.Start

/-!
What a listing shows. The cells of its table are read as markup, so the table can be made if
all of them can be read, and one cell that cannot be read takes the whole listing down. The
table has a row for each command, and a command is shown as it is declared if its cells are
read as they are and fit into their columns.
-/

namespace CommandManual.Shell.Run

open Console

/-! ### Cells -/

def cellsOf (ds : List Descriptor) : List String := ds.flatMap fun d => cells d.row

/-- The rows of a table with one row for each command, whose cells are shown in a given way. -/
def rowsOf (shown : String → Styled) (ds : List Descriptor) : List (List Styled) :=
  ds.map fun d => (cells d.row).map shown

def tableOf (screenWidth : Nat) (shown : String → Styled) (ds : List Descriptor) : List Text :=
  tableLines "Documented Commands".toList columns (rowsOf shown ds) screenWidth

def cellAt (n : Nat) (r : Descriptor.Row) : String := (cells r)[n]?.getD ""

theorem cells_eq_map_cellAt (r : Descriptor.Row) :
    cells r = (List.range columns.length).map fun n => cellAt n r := rfl

def cellColumns (rows : List Descriptor.Row) : List (List Text) :=
  (List.range columns.length).map fun n => rows.map fun r => (cellAt n r).toList

theorem mem_cellColumns_iff {rows : List Descriptor.Row} {t : Text} :
    (∃ column ∈ cellColumns rows, t ∈ column) ↔ ∃ r ∈ rows, ∃ s ∈ cells r, s.toList = t := by
  simp only [cellColumns, cells_eq_map_cellAt, List.mem_map]
  constructor
  · rintro ⟨_, ⟨n, hn, rfl⟩, hcell⟩
    obtain ⟨r, hr, rfl⟩ := List.mem_map.mp hcell
    exact ⟨r, hr, cellAt n r, ⟨n, hn, rfl⟩, rfl⟩
  · rintro ⟨r, hr, _, ⟨n, hn, rfl⟩, rfl⟩
    exact ⟨_, ⟨n, hn, rfl⟩, List.mem_map.mpr ⟨r, hr, rfl⟩⟩

def rowsFrom (count : Nat) (shown : List (List Styled)) : List (List Styled) :=
  (List.range count).map fun n => shown.map fun column => column[n]?.getD (Styled.ofText [])

def readCells (rows : List Descriptor.Row) : Except Fault (List (List Styled)) :=
  (cellColumns rows).mapM fun column => column.mapM readMarkup

theorem listTable_eq (screenWidth : Nat) (rows : List Descriptor.Row) :
    listTable screenWidth rows = (readCells rows).map fun shown =>
      tableLines "Documented Commands".toList columns (rowsFrom rows.length shown)
        screenWidth := by
  show (readCells rows >>= fun shown => Except.ok (tableLines "Documented Commands".toList
    columns (rowsFrom rows.length shown) screenWidth)) = _
  cases readCells rows <;> rfl

theorem rowsFrom_columns (rows : List Descriptor.Row) (shown : String → Styled) :
    rowsFrom rows.length
        ((List.range columns.length).map fun n => rows.map fun r => shown (cellAt n r)) =
      rows.map fun r => (cells r).map shown := by
  apply List.ext_getElem
  · simp [rowsFrom]
  · intro n hn hrow
    have within : n < rows.length := by simpa using hrow
    simp only [rowsFrom, List.getElem_map, List.getElem_range, cells_eq_map_cellAt, List.map_map]
    refine List.map_congr_left fun k _ => ?_
    simp [within]

/-! ### Reading the cells -/

section Cells

variable {ds : List Descriptor} {screenWidth : Nat}

theorem mem_cellsOf_iff {t : Text} :
    (∃ column ∈ cellColumns (ds.map Descriptor.row), t ∈ column) ↔
      ∃ s ∈ cellsOf ds, s.toList = t := by
  rw [mem_cellColumns_iff]
  simp only [cellsOf, List.mem_flatMap]
  constructor
  · rintro ⟨_, hr, t, ht, rfl⟩
    obtain ⟨d, hd, rfl⟩ := List.mem_map.mp hr
    exact ⟨t, ⟨d, hd, ht⟩, rfl⟩
  · rintro ⟨t, ⟨d, hd, ht⟩, rfl⟩
    exact ⟨d.row, List.mem_map_of_mem hd, t, ht, rfl⟩

theorem listTable_of_read {shown : String → Styled}
    (read : ∀ t ∈ cellsOf ds, readMarkup t.toList = .ok (shown t)) :
    listTable screenWidth (ds.map Descriptor.row) = .ok (tableOf screenWidth shown ds) := by
  have columnsRead : readCells (ds.map Descriptor.row) =
      .ok ((List.range columns.length).map fun n =>
        (ds.map Descriptor.row).map fun r => shown (cellAt n r)) := by
    rw [readCells, mapM_eq_ok_iff, cellColumns, List.forall₂_map_left_iff,
      List.forall₂_map_right_iff, List.forall₂_same]
    intro n hn
    rw [mapM_eq_ok_iff, List.forall₂_map_left_iff, List.forall₂_map_right_iff, List.forall₂_same]
    intro r hr
    obtain ⟨d, hd, rfl⟩ := List.mem_map.mp hr
    apply read
    refine List.mem_flatMap.mpr ⟨d, hd, ?_⟩
    rw [cells_eq_map_cellAt]
    exact List.mem_map.mpr ⟨n, hn, rfl⟩
  rw [listTable_eq, columnsRead, except_map_ok, rowsFrom_columns, tableOf, rowsOf, List.map_map]
  rfl

/-- A listing that cannot be made has a cell that cannot be read. -/
theorem exists_cell_of_listTable {f : Fault}
    (failed : listTable screenWidth (ds.map Descriptor.row) = .error f) :
    ∃ t ∈ cellsOf ds, readMarkup t.toList = .error f := by
  rw [listTable_eq] at failed
  cases read : readCells (ds.map Descriptor.row) with
  | ok shown =>
      rw [read] at failed
      cases failed
  | error f' =>
      rw [read] at failed
      obtain rfl : f' = f := Except.error.inj failed
      obtain ⟨column, hcolumn, stopped⟩ := exists_of_mapM_eq_error read
      obtain ⟨t, ht, unread⟩ := exists_of_mapM_eq_error stopped
      obtain ⟨s, hs, rfl⟩ := mem_cellsOf_iff.mp ⟨column, hcolumn, ht⟩
      exact ⟨s, hs, unread⟩

theorem exists_listTable_iff (screenWidth : Nat) :
    (∃ lines, listTable screenWidth (ds.map Descriptor.row) = .ok lines) ↔
      ∀ t ∈ cellsOf ds, ∃ s, readMarkup t.toList = .ok s := by
  constructor
  · rintro ⟨lines, made⟩ t ht
    rw [listTable_eq] at made
    cases read : readCells (ds.map Descriptor.row) with
    | error f =>
        rw [read] at made
        cases made
    | ok shown =>
        obtain ⟨column, hcolumn, hmem⟩ := mem_cellsOf_iff.mpr ⟨t, ht, rfl⟩
        have columnRead := exists_mapM_eq_ok_iff.mp ⟨shown, read⟩ column hcolumn
        exact exists_mapM_eq_ok_iff.mp columnRead t.toList hmem
  · intro readable
    have : Nonempty Styled := ⟨Styled.ofText []⟩
    choose! shown read using readable
    exact ⟨_, listTable_of_read read⟩

end Cells

/-! ### Runs -/

/-- A run that lists commands in a table, up to where the commands are read: the settings are
loaded, the log is set up, and the commands `ds` are found. -/
structure Reads (env : Environment) (args : List String) (w : Workspace) (ds : List Descriptor)
    (w' : Workspace) : Prop where
  run : ∃ flags r settings w₁, Request.read args = .ok (.list flags r) ∧ r.format = .table ∧
    Settings.load w.tree env r.config = .ok settings ∧
    runStep (setUpLog flags settings) w = (.ok (), w₁) ∧
    (Action.readCommands (r.source.getD (Path.ofString settings.source))
      (given r.manifestName settings.manifestName)
      (settings.scanPlugins && !r.noPlugins)).outcome w₁ = (.ok ds, w')

section Runs

variable {env : Environment} {args : List String} {w w' : Workspace} {ds : List Descriptor}

theorem runStep_loadSettings_of_ok {path : Option Path} {settings : Settings}
    (loaded : Settings.load w.tree env path = .ok settings) :
    runStep (loadSettings env path) w = (.ok settings, w) := by
  have start : runStep (get : Run Workspace) w = (.ok w, w) := rfl
  rw [loadSettings, runStep_bind_of_ok start, loaded]
  rfl

theorem runStep_act {α : Type} (x : Action α) (w : Workspace) :
    runStep (act x) w = (.ok (x.outcome w).1, (x.outcome w).2) := rfl

/-- What is left of such a run is to show the table. -/
theorem Reads.runStep_perform (reads : Reads env args w ds w') :
    runStep (perform env args) w =
      runStep (showList .table (ds.map Descriptor.row)) w' := by
  obtain ⟨flags, r, settings, w₁, asked, format, loaded, logged, found⟩ := reads.run
  have listed : runStep (act (Action.readCommands (r.source.getD (Path.ofString settings.source))
      (given r.manifestName settings.manifestName)
      (settings.scanPlugins && !r.noPlugins))) w₁ = (.ok (.ok ds), w') := by
    rw [runStep_act, found]
  have explained : runStep (orExplain (.ok ds)) w' = (.ok ds, w') := rfl
  rw [perform, asked]
  show runStep (list env flags r) w = _
  rw [list, runStep_bind_of_ok (runStep_loadSettings_of_ok loaded), runStep_bind_of_ok logged,
    runStep_bind_of_ok listed, runStep_bind_of_ok explained, format]

theorem runStep_showList_table (rows : List Descriptor.Row) (w : Workspace) :
    runStep (showList .table rows) w =
      runStep (ofFault (listTable w.screenWidth rows) >>= fun lines =>
        showText (Text.unlines lines)) w := by
  have start : runStep (get : Run Workspace) w = (.ok w, w) := rfl
  rw [showList, runStep_bind_of_ok start]

theorem linesOf_unlines {lines : List Text} (some : lines ≠ [])
    (closed : ∀ line ∈ lines, Sealed line) :
    linesOf (Text.unlines lines) = String.ofList (Text.unlines lines ++ ['\n']) := by
  have same : lines.map (fun line => (Styled.ofText line).spreadTabs.text) = lines :=
    (List.map_congr_left fun line hline =>
      congrArg Styled.text (spreadTabs_of_sealed (Styled.ofText line) (closed line hline))).trans
      (List.map_id' lines)
  rw [linesOf, Text.lines_unlines some fun line hline feed => (closed line hline _ feed).1 rfl,
    same]

theorem Reads.outcome_of_table (reads : Reads env args w ds w') {lines : List Text}
    (made : listTable w'.screenWidth (ds.map Descriptor.row) = .ok lines) :
    outcome env args w =
      (.ok (.code 0), { w' with stdout := w'.stdout ++ linesOf (Text.unlines lines) }) := by
  have shown : runStep (showList .table (ds.map Descriptor.row)) w' =
      (.ok (), { w' with stdout := w'.stdout ++ linesOf (Text.unlines lines) }) := by
    rw [runStep_showList_table, made]
    rfl
  rw [outcome, ← runStep, reads.runStep_perform, shown]

theorem Reads.outcome_of_fault (reads : Reads env args w ds w') {f : Fault}
    (failed : listTable w'.screenWidth (ds.map Descriptor.row) = .error f) :
    outcome env args w = (.error f, w') := by
  have stopped : runStep (showList .table (ds.map Descriptor.row)) w' =
      (.error (.fault f), w') := by
    rw [runStep_showList_table, failed]
    rfl
  have escapes : exitOf? f = none := by
    obtain ⟨t, -, unread⟩ := exists_cell_of_listTable failed
    have other := notRaised_of_readMarkup unread
    cases f with
    | raised r => exact absurd rfl (other r)
    | _ => rfl
  rw [outcome, ← runStep, reads.runStep_perform, stopped]
  dsimp only
  rw [escapes]

theorem Reads.outcome_eq_ok_iff (reads : Reads env args w ds w') :
    (∃ w'', outcome env args w = (.ok (.code 0), w'')) ↔
      ∀ t ∈ cellsOf ds, ∃ s, readMarkup t.toList = .ok s := by
  rw [← exists_listTable_iff w'.screenWidth]
  constructor
  · rintro ⟨w'', ended⟩
    cases made : listTable w'.screenWidth (ds.map Descriptor.row) with
    | ok lines => exact ⟨lines, rfl⟩
    | error f =>
        rw [reads.outcome_of_fault made] at ended
        cases ended
  · rintro ⟨lines, made⟩
    exact ⟨_, reads.outcome_of_table made⟩

/-- What a listing prints when all of its cells are read. -/
theorem Reads.outcome_of_read (reads : Reads env args w ds w') {shown : String → Styled}
    (read : ∀ t ∈ cellsOf ds, readMarkup t.toList = .ok (shown t)) :
    outcome env args w = (.ok (.code 0),
      { w' with
        stdout := w'.stdout ++
          String.ofList (Text.unlines (tableOf w'.screenWidth shown ds) ++ ['\n']) }) := by
  have closed : ∀ line ∈ tableOf w'.screenWidth shown ds, Sealed line :=
    sealed_tableLines (by decide) columns _ _
  have some : tableOf w'.screenWidth shown ds ≠ [] :=
    List.append_ne_nil_of_right_ne_nil _ (List.cons_ne_nil _ _)
  rw [reads.outcome_of_table (listTable_of_read read), linesOf_unlines some closed]

end Runs

/-! ### Rows -/

def declaredWords (d : Descriptor) : List (List Text) :=
  (cells d.row).map fun t => Text.words t.toList

/-- All cells of a command are shown as they are written, in columns of given widths. -/
def KeptIn (widths : List Nat) (d : Descriptor) : Prop :=
  ∀ part ∈ columns.zip (widths.zip (cells d.row)), Kept part.1 part.2.1 part.2.2.toList

section Rows

variable {d : Descriptor} {widths : List Nat} {shown : String → Styled}

theorem heldWords_map (widths : List Nat) (shown : String → Styled) (d : Descriptor) :
    heldWords columns widths ((cells d.row).map shown) =
      (columns.zip (widths.zip (cells d.row))).map fun part =>
        heldBy part.1 part.2.1 (shown part.2.2) := by
  rw [heldWords, List.zip_map_right, List.zip_map_right, List.map_map]
  rfl

theorem declaredWords_eq (size : widths.length = columns.length) (d : Descriptor) :
    declaredWords d = (columns.zip (widths.zip (cells d.row))).map fun part =>
      Text.words part.2.2.toList := by
  have cellsOnly : (widths.zip (cells d.row)).map Prod.snd = cells d.row :=
    List.map_snd_zip (by rw [size]; exact Nat.le_refl 4)
  have rest : (columns.zip (widths.zip (cells d.row))).map Prod.snd = widths.zip (cells d.row) :=
    List.map_snd_zip (by rw [List.length_zip, size]; exact Nat.min_le_left _ _)
  calc
    declaredWords d = ((widths.zip (cells d.row)).map Prod.snd).map fun t =>
        Text.words t.toList := by rw [cellsOnly, declaredWords]
    _ = (((columns.zip (widths.zip (cells d.row))).map Prod.snd).map Prod.snd).map fun t =>
        Text.words t.toList := by rw [rest]
    _ = _ := by rw [List.map_map, List.map_map]; rfl

theorem heldWords_eq_declaredWords_iff (size : widths.length = columns.length) :
    heldWords columns widths ((cells d.row).map shown) = declaredWords d ↔
      ∀ part ∈ columns.zip (widths.zip (cells d.row)),
        heldBy part.1 part.2.1 (shown part.2.2) = Text.words part.2.2.toList := by
  rw [heldWords_map, declaredWords_eq size, List.map_inj_left]

theorem columns_headed : ∀ column ∈ columns,
    Straight column.heading.toList ∧ 0 < width column.heading.toList := by
  have each : ∀ column ∈ columns,
      column.heading.toList.all (fun c => c != '\t' && !endsLine c) = true ∧
        0 < width column.heading.toList := by
    decide +kernel
  exact fun column h => ⟨straight_of_all (each column h).1, (each column h).2⟩

theorem mem_cells_of_mem_zip {part : Column × Nat × String}
    (h : part ∈ columns.zip (widths.zip (cells d.row))) : part.2.2 ∈ cells d.row :=
  (List.of_mem_zip (List.of_mem_zip h).2).2

end Rows

/-- A listing ends with code 0 exactly if all of its cells can be read. It then prints one row for
each command, in order, that shows the words of its cells; they are the declared ones if the cells
are kept, and of the cells that are ordinary no others are. On a screen with room for all columns,
cells on one line without marks and without codes and hidden characters are kept. -/
theorem listing_shows_declared_iff {env : Environment} {args : List String} {w w' : Workspace}
    {ds : List Descriptor} (reads : Reads env args w ds w') :
    ((∃ w'', outcome env args w = (.ok (.code 0), w'')) ↔
      ∀ t ∈ cellsOf ds, ∃ s, readMarkup t.toList = .ok s) ∧
    ∀ shown : String → Styled, (∀ t ∈ cellsOf ds, readMarkup t.toList = .ok (shown t)) →
      ∃ lines widths,
        outcome env args w = (.ok (.code 0),
          { w' with stdout := w'.stdout ++ String.ofList (Text.unlines lines ++ ['\n']) }) ∧
        RowsShow lines (ds.map fun d => heldWords columns widths ((cells d.row).map shown)) ∧
        (∀ d ∈ ds, KeptIn widths d →
          heldWords columns widths ((cells d.row).map shown) = declaredWords d) ∧
        (∀ d ∈ ds, (∀ t ∈ cells d.row, Ordinary t.toList) →
          heldWords columns widths ((cells d.row).map shown) = declaredWords d → KeptIn widths d) ∧
        (Roomy columns (rowsOf shown ds) w'.screenWidth → ∀ d ∈ ds,
          (∀ t ∈ cells d.row, Straight t.toList ∧ Unmarked t.toList ∧
            Console.shown t.toList = t.toList) → KeptIn widths d) := by
  refine ⟨reads.outcome_eq_ok_iff, fun shown read => ?_⟩
  have size := length_tableWidths columns (rowsOf shown ds) w'.screenWidth
  have rowRead (d : Descriptor) (hd : d ∈ ds) {part : Column × Nat × String}
      (h : part ∈ columns.zip ((tableWidths columns (rowsOf shown ds) w'.screenWidth).zip
        (cells d.row))) : readMarkup part.2.2.toList = .ok (shown part.2.2) :=
    read _ (List.mem_flatMap.mpr ⟨d, hd, mem_cells_of_mem_zip h⟩)
  refine ⟨tableOf w'.screenWidth shown ds, tableWidths columns (rowsOf shown ds) w'.screenWidth,
    reads.outcome_of_read read, ?_, ?_, ?_, ?_⟩
  · have rows := rowsShow_tableLines "Documented Commands".toList columns (rowsOf shown ds)
      w'.screenWidth
    rw [rowsOf, List.map_map] at rows
    exact rows
  · intro d hd kept
    rw [heldWords_eq_declaredWords_iff size]
    exact fun part h => (kept part h).heldBy_eq (rowRead d hd h)
  · intro d hd ordinary held
    rw [heldWords_eq_declaredWords_iff size] at held
    exact fun part h => (heldBy_eq_words_iff (ordinary _ (mem_cells_of_mem_zip h))
      (rowRead d hd h)).mp (held part h)
  · -- A straight text without marks is shown as it is, and a roomy screen cuts none.
    intro roomy d hd plain part h
    obtain ⟨straight, unmarked, same⟩ := plain _ (mem_cells_of_mem_zip h)
    have readSame : shown part.2.2 = Styled.ofText part.2.2.toList := by
      rw [← same]
      exact Except.ok.inj ((rowRead d hd h).symm.trans (readMarkup_of_unmarked unmarked))
    have shownPart : (part.1, part.2.1, shown part.2.2) ∈ columns.zip
        ((tableWidths columns (rowsOf shown ds) w'.screenWidth).zip ((cells d.row).map shown)) := by
      rw [List.zip_map_right, List.zip_map_right]
      exact List.mem_map_of_mem (f := Prod.map id (Prod.map id shown)) h
    have fits := fits_of_roomy roomy (by decide) columns_headed (List.mem_map_of_mem hd) _ shownPart
    rw [readSame] at fits
    refine ⟨unmarked, by rw [same], ?_⟩
    rw [same]
    exact fits straight

def oneCommand (name : String) : Workspace where
  tree :=
    { entries := [(["composer.json"], .file (.text
        ("\x7b\"extra\": \x7b\"wp-cli-commands\": \x7b\"".toList ++ name.toList ++
          "\": \x7b\"class\": \"A\"\x7d\x7d\x7d\x7d".toList)))]
      here := [] }

def declaredIn (name : String) : List Descriptor := [{ commandName := name, className := "A" }]

theorem exists_reads_oneCommand (name : String)
    (loaded : Settings.load (oneCommand name).tree [] none = .ok {})
    (found : ((Action.readCommands (Path.ofString ".") "composer.json" true).outcome
      (runStep (setUpLog {} {}) (oneCommand name)).2).1.toOption = some (declaredIn name))
    (screen : ((Action.readCommands (Path.ofString ".") "composer.json" true).outcome
      (runStep (setUpLog {} {}) (oneCommand name)).2).2.screenWidth = 80) :
    ∃ w', Reads [] ["list"] (oneCommand name) (declaredIn name) w' ∧ w'.screenWidth = 80 := by
  rcases read : (Action.readCommands (Path.ofString ".") "composer.json" true).outcome
    (runStep (setUpLog {} {}) (oneCommand name)).2 with ⟨result, w'⟩
  rw [read] at found screen
  obtain rfl : result = .ok (declaredIn name) := eq_ok_of_toOption found
  exact ⟨w', ⟨{}, {}, {}, _, rfl, rfl, loaded, rfl, read⟩, screen⟩

theorem greet_is_listed :
    ∃ w' lines, Reads [] ["list"] (oneCommand "greet") (declaredIn "greet") w' ∧
      outcome [] ["list"] (oneCommand "greet") = (.ok (.code 0),
        { w' with stdout := w'.stdout ++ String.ofList (Text.unlines lines ++ ['\n']) }) ∧
      RowsShow lines [[["greet".toList], ["A".toList], ["-".toList], [".".toList]]] := by
  obtain ⟨w', reads, screen⟩ := exists_reads_oneCommand "greet" rfl (by decide +kernel)
    (by decide +kernel)
  have found : cellsOf (declaredIn "greet") = ["greet", "A", "-", "."] := by decide +kernel
  have each : ∀ t ∈ ["greet", "A", "-", "."],
      t.toList.all (fun c => c != '\t' && !endsLine c) = true ∧ '[' ∉ t.toList ∧
        Console.shown t.toList = t.toList := by
    decide +kernel
  have read : ∀ t ∈ cellsOf (declaredIn "greet"),
      readMarkup t.toList = .ok (Styled.ofText t.toList) := by
    rw [found]
    intro t ht
    obtain ⟨-, bracketless, same⟩ := each t ht
    rw [readMarkup_of_unmarked (unmarked_of_bracketless bracketless), same]
  obtain ⟨lines, widths, ended, rows, declared, -, kept⟩ :=
    (listing_shows_declared_iff reads).2 (fun t => Styled.ofText t.toList) read
  have roomy : Roomy columns (rowsOf (fun t => Styled.ofText t.toList) (declaredIn "greet"))
      w'.screenWidth := by
    rw [screen, Roomy]
    decide +kernel
  have own : KeptIn widths { commandName := "greet", className := "A" } := by
    refine kept roomy _ List.mem_cons_self fun t ht => ?_
    have listed : t ∈ ["greet", "A", "-", "."] := by
      rw [← found]
      exact List.mem_flatMap.mpr ⟨_, List.mem_cons_self, ht⟩
    obtain ⟨straight, bracketless, same⟩ := each t listed
    exact ⟨straight_of_all straight, unmarked_of_bracketless bracketless, same⟩
  refine ⟨w', lines, reads, ended, ?_⟩
  rw [declaredIn, List.map_singleton, declared _ List.mem_cons_self own] at rows
  exact rows

def markupDetail? : Fault → Option String
  | .markup detail => some detail
  | _ => none

/-- A command whose name is a closing tag cannot be listed, although it is read. -/
theorem closing_tag_ends_listing :
    ∃ w', Reads [] ["list"] (oneCommand "[/x]") (declaredIn "[/x]") w' ∧
      outcome [] ["list"] (oneCommand "[/x]") = (.error (.markup
        "closing tag '[/x]' at position 0 doesn't match any open tag"), w') := by
  obtain ⟨w', reads, screen⟩ := exists_reads_oneCommand "[/x]" rfl (by decide +kernel)
    (by decide +kernel)
  have told : inFault? markupDetail? (listTable 80 ((declaredIn "[/x]").map Descriptor.row)) =
      some "closing tag '[/x]' at position 0 doesn't match any open tag" := by
    decide +kernel
  obtain ⟨f, failed, detail⟩ := exists_of_inFault? told
  rw [← screen] at failed
  unfold markupDetail? at detail
  split at detail
  · rw [← Option.some.inj detail]
    exact ⟨w', reads, reads.outcome_of_fault failed⟩
  · cases detail

end CommandManual.Shell.Run
