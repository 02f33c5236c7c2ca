import CommandManual.Proofs.Settings.Fields

/-!
The layers of the settings. `Selected` says which table of which document holds them.
On top of that table lies the environment, below it the defaults, and each setting comes
from the highest layer that says something about it, whatever the layers say about other
settings.
-/

namespace CommandManual

@[simp] theorem Environment.given_nil (name : String) : Environment.given [] name = none := rfl

theorem Environment.given_cons (name text : String) (env : Environment) (other : String) :
    Environment.given ((name, text) :: env) other =
      if other = name then if text = "" then none else some text else env.given other := by
  rw [Environment.given, List.lookup_cons]
  by_cases same : other = name
  · simp [same]
  · simp [beq_false_of_ne same, same, Environment.given]

/-- An environment gives what two others give, which give no variable in common. -/
structure Environment.Joins (env first second : Environment) : Prop where
  given : ∀ name, env.given name = (first.given name).or (second.given name)
  apart : ∀ name, first.given name = none ∨ second.given name = none

theorem Environment.Joins.symm {env first second : Environment} (joins : env.Joins first second) :
    env.Joins second first where
  given name := by
    rw [joins.given]
    rcases joins.apart name with silent | silent <;> simp [silent]
  apart name := (joins.apart name).symm

namespace Settings

variable {tree : FileTree} {path : Option Path} {env : Environment}

/-! ### The table that holds the settings -/

/-- What a document says about the settings. A table that is not there counts as empty. -/
inductive Holds (fileName : String) (document : List (String × Value)) : Value → Prop
  | tool {tools : List (String × Value)}
      (tool : document.lookup "tool" = some (.table tools)) :
      Holds fileName document ((tools.lookup "manify").getD (.table []))
  | nothing (tool : document.lookup "tool" = none) (usual : fileName = defaultFile) :
      Holds fileName document (.table [])
  | whole (tool : document.lookup "tool" = none) (other : fileName ≠ defaultFile) :
      Holds fileName document (.table document)

/-- The table that a value stands for. What counts as empty stands for the empty table. -/
inductive StandsFor : Value → List (String × Value) → Prop
  | table (fields : List (String × Value)) : StandsFor (.table fields) fields
  | empty {v : Value} (isEmpty : v.isTruthy = false) : StandsFor v []

/-- The table that is read for the settings. The usual file does not have to be there. -/
inductive Selected (tree : FileTree) : Option Path → List (String × Value) → Prop
  | absent (missing : tree.isFile (filePath tree none) = .ok false) : Selected tree none []
  | held {path : Option Path} {document fields : List (String × Value)} {v : Value}
      (found : tree.isFile (filePath tree path) = .ok true)
      (read : readDocument tree (filePath tree path) = .ok document)
      (holds : Holds (filePath tree path).name document v) (stands : StandsFor v fields) :
      Selected tree path fields

theorem select_of_tool {fileName : String} {document : List (String × Value)} {v : Value}
    (tool : document.lookup "tool" = some v) :
    select fileName document = tableAt v "manify" := by
  simp [select, tool, tableAt]

theorem select_eq_ok_iff {fileName : String} {document : List (String × Value)} {v : Value} :
    select fileName document = .ok v ↔ Holds fileName document v := by
  constructor
  · intro selected
    cases tool : document.lookup "tool" with
    | some w =>
        rw [select_of_tool tool] at selected
        cases w with
        | table tools =>
            cases selected
            exact .tool tool
        | _ => cases selected
    | none =>
        by_cases usual : fileName = defaultFile
        · simp [select, tool, usual, tableAt] at selected
          cases selected
          exact .nothing tool usual
        · simp [select, tool, usual] at selected
          cases selected
          exact .whole tool usual
  · intro holds
    cases holds with
    | tool tool => rw [select_of_tool tool, tableAt]
    | nothing tool usual => simp [select, tool, usual, tableAt]
    | whole tool other => simp [select, tool, other]

theorem Holds.unique {fileName : String} {document : List (String × Value)} {v w : Value}
    (first : Holds fileName document v) (second : Holds fileName document w) : v = w :=
  Except.ok.inj ((select_eq_ok_iff.mpr first).symm.trans (select_eq_ok_iff.mpr second))

theorem StandsFor.unique {v : Value} {fields others : List (String × Value)}
    (first : StandsFor v fields) (second : StandsFor v others) : fields = others := by
  cases first with
  | table =>
      cases second with
      | table => rfl
      | empty isEmpty => simpa [Value.isTruthy] using isEmpty
  | empty isEmpty =>
      cases second with
      | table =>
          have isNil : others = [] := by simpa [Value.isTruthy] using isEmpty
          exact isNil.symm
      | empty => rfl

theorem Selected.unique {fields others : List (String × Value)}
    (first : Selected tree path fields) (second : Selected tree path others) :
    fields = others := by
  cases first with
  | absent missing =>
      cases second with
      | absent => rfl
      | held found => cases missing.symm.trans found
  | held found read holds stands =>
      cases second with
      | absent missing => cases missing.symm.trans found
      | held _ read' holds' stands' =>
          cases read.symm.trans read'
          cases holds.unique holds'
          exact stands.unique stands'

/-! ### Settings from the file alone -/

def fileSettings (tree : FileTree) (path : Option Path) : Except Fault Settings := do
  let file := filePath tree path
  let found ← (tree.isFile file).mapError Fault.access
  if !found && path.isSome then
    .error (.configuration "config" ("file not found: " ++ file.toString))
  else if found then ofFile tree file else .ok {}

theorem load_eq (tree : FileTree) (env : Environment) (path : Option Path) :
    load tree env path = fileSettings tree path >>= override env := by
  simp only [load, fileSettings]
  rcases tree.isFile (filePath tree path) with e | found
  · rfl
  · cases found <;> cases path <;> rfl

theorem exists_ofText_eq (text : String) :
    ∃ e, (ofText text : Except Fault Settings) = .error e := by
  unfold ofText
  split <;> exact ⟨_, rfl⟩

theorem exists_ofList_eq (items : List Value) :
    ∃ e, (ofList items : Except Fault Settings) = .error e := by
  unfold ofList
  dsimp only
  split
  · exact ⟨_, rfl⟩
  · split
    · exact ⟨_, rfl⟩
    · split <;> exact ⟨_, rfl⟩

theorem ofValue_eq_ok {v : Value} {s : Settings} (h : ofValue v = .ok s) :
    ∃ fields, v = .table fields ∧ ofTable fields = .ok s := by
  cases v with
  | table fields => exact ⟨fields, rfl, h⟩
  | str text =>
      obtain ⟨e, failed⟩ := exists_ofText_eq text
      cases failed.symm.trans h
  | list items =>
      obtain ⟨e, failed⟩ := exists_ofList_eq items
      cases failed.symm.trans h
  | _ => simp [ofValue] at h

theorem ofFile_eq_ok_iff {file : Path} {s : Settings} :
    ofFile tree file = .ok s ↔ ∃ document v fields, readDocument tree file = .ok document ∧
      Holds file.name document v ∧ StandsFor v fields ∧ ofTable fields = .ok s := by
  rw [ofFile, except_bind_eq_ok]
  simp only [except_bind_eq_ok, select_eq_ok_iff]
  constructor
  · rintro ⟨document, read, v, holds, result⟩
    split at result
    · obtain ⟨fields, rfl, h⟩ := ofValue_eq_ok result
      exact ⟨document, _, fields, read, holds, .table fields, h⟩
    · rename_i isEmpty
      cases result
      exact ⟨document, v, [], read, holds, .empty (Bool.not_eq_true _ ▸ isEmpty), rfl⟩
  · rintro ⟨document, v, fields, read, holds, stands, h⟩
    refine ⟨document, read, v, holds, ?_⟩
    cases stands with
    | empty isEmpty =>
        rw [isEmpty]
        exact h
    | table =>
        cases fields with
        | nil => exact h
        | cons => exact h

theorem fileSettings_eq_ok_iff {s : Settings} :
    fileSettings tree path = .ok s ↔
      ∃ fields, Selected tree path fields ∧ ofTable fields = .ok s := by
  simp only [fileSettings]
  constructor
  · intro h
    rcases found : tree.isFile (filePath tree path) with e | _ | _
    · rw [found] at h
      cases h
    · rw [found] at h
      cases path with
      | none =>
          cases h
          exact ⟨[], .absent found, rfl⟩
      | some path => cases h
    · rw [found] at h
      obtain ⟨document, v, fields, read, holds, stands, result⟩ := ofFile_eq_ok_iff.mp h
      exact ⟨fields, .held found read holds stands, result⟩
  · rintro ⟨fields, selected, result⟩
    cases selected with
    | absent missing =>
        rw [missing]
        exact result
    | held found read holds stands =>
        rw [found]
        exact ofFile_eq_ok_iff.mpr ⟨_, _, fields, read, holds, stands, result⟩

/-! ### All layers -/

def Field.layered (env : Environment) (fields : List (String × Value)) (f : Field) : Value :=
  (f.given? env).getD (f.fromTable fields)

/-- What is read from the table first, and then with the environment, is read at once. -/
theorem Field.read_overlaid (env : Environment) {fields : List (String × Value)} {s : Settings}
    {f : Field} (accepted : f.Accepts (f.fromTable fields))
    (reading : f.reading (f.fromTable fields) = f.value s) :
    (f.Accepts (f.overlaid env s) ↔ f.Accepts (f.layered env fields)) ∧
      f.reading (f.overlaid env s) = f.reading (f.layered env fields) := by
  unfold Field.overlaid Field.layered
  cases f.given? env with
  | some v => exact ⟨Iff.rfl, rfl⟩
  | none =>
      obtain ⟨again, kept⟩ := Field.accepts_reading accepted
      rw [Option.getD_none, Option.getD_none, ← reading]
      exact ⟨iff_of_true again accepted, kept⟩

/-- Settings are what the layers give: every value in the table does for its setting, also
where the environment covers it, and each setting is read from what the layers say. -/
structure ReadFrom (env : Environment) (fields : List (String × Value)) (c : Settings) : Prop where
  fits : Fits fields
  table : ∀ f : Field, f.Accepts (f.fromTable fields)
  accepted : ∀ f : Field, f.Accepts (f.layered env fields)
  reading : ∀ f : Field, f.reading (f.layered env fields) = f.value c

theorem readFrom_of_load {c : Settings} (loaded : load tree env path = .ok c) :
    ∃ fields, Selected tree path fields ∧ ReadFrom env fields c := by
  rw [load_eq, except_bind_eq_ok] at loaded
  obtain ⟨s, fromFile, overridden⟩ := loaded
  obtain ⟨fields, selected, ofFields⟩ := fileSettings_eq_ok_iff.mp fromFile
  obtain ⟨fits, fromTable⟩ := ofTable_eq_ok_iff.mp ofFields
  have steady := steady_of_ofTable ofFields
  have overlaid := (eq_ok_iff_of_readAll (steady.override env)).mp overridden
  have same (f : Field) := Field.read_overlaid env (fromTable f).1 (fromTable f).2
  refine ⟨fields, selected, fits, fun f => (fromTable f).1, fun f => ?_, fun f => ?_⟩
  · exact (same f).1.mp (overlaid f).1
  · exact (same f).2.symm.trans (overlaid f).2

theorem exists_load {fields : List (String × Value)} (selected : Selected tree path fields)
    (fits : Fits fields) (table : ∀ f : Field, f.Accepts (f.fromTable fields))
    (accepted : ∀ f : Field, f.Accepts (f.layered env fields)) :
    ∃ c, load tree env path = .ok c := by
  obtain ⟨s, ofFields⟩ := (exists_eq_ok_iff_of_readAll fits.ofTable).mpr table
  have steady := steady_of_ofTable ofFields
  have overridden : ∃ c, override env s = .ok c := by
    refine (exists_eq_ok_iff_of_readAll (steady.override env)).mpr fun f => ?_
    obtain ⟨fromTable, reading⟩ := (ofTable_eq_ok_iff.mp ofFields).2 f
    exact (Field.read_overlaid env fromTable reading).1.mpr (accepted f)
  obtain ⟨c, overridden⟩ := overridden
  refine ⟨c, ?_⟩
  rw [load_eq, fileSettings_eq_ok_iff.mpr ⟨fields, selected, ofFields⟩]
  exact overridden

theorem load_eq_ok_iff {c : Settings} :
    load tree env path = .ok c ↔
      ∃ fields, Selected tree path fields ∧ ReadFrom env fields c := by
  refine ⟨readFrom_of_load, ?_⟩
  rintro ⟨fields, selected, read⟩
  obtain ⟨c', loaded⟩ := exists_load selected read.fits read.table read.accepted
  -- The settings that are loaded are these: both are read from the same layers.
  obtain ⟨fields', selected', read'⟩ := readFrom_of_load loaded
  cases selected.unique selected'
  have same : c'.values = c.values :=
    List.map_congr_left fun f _ => (read'.reading f).symm.trans (read.reading f)
  rw [loaded, eq_of_values_eq same]

theorem steady_of_load {c : Settings} (loaded : load tree env path = .ok c) : c.Steady := by
  obtain ⟨fields, -, read⟩ := readFrom_of_load loaded
  exact steady_of_reading fun f => ⟨read.accepted f, read.reading f⟩

/-! ### Changing the environment -/

/-- A setting only depends on its own variable. -/
theorem value_eq_of_given_eq {env' : Environment} {c c' : Settings} {f : Field}
    (loaded : load tree env path = .ok c) (loaded' : load tree env' path = .ok c')
    (same : f.given? env' = f.given? env) : f.value c' = f.value c := by
  obtain ⟨fields, selected, read⟩ := readFrom_of_load loaded
  obtain ⟨fields', selected', read'⟩ := readFrom_of_load loaded'
  cases selected.unique selected'
  calc f.value c' = f.reading (f.layered env' fields) := (read'.reading f).symm
    _ = f.reading (f.layered env fields) := by rw [Field.layered, Field.layered, same]
    _ = f.value c := read.reading f

variable {first second : Environment}

/-- About one setting, only one of the two environments says something. -/
theorem given?_of_joins (joins : env.Joins first second) (f : Field) :
    f.given? env = f.given? first ∧ f.given? second = none ∨
      f.given? env = f.given? second ∧ f.given? first = none := by
  unfold Field.given?
  cases f.variableName? with
  | none => exact .inl ⟨rfl, rfl⟩
  | some name =>
      simp only [Option.bind_some, joins.given]
      rcases joins.apart name with silent | silent
      · exact .inr (by simp [silent])
      · exact .inl (by simp [silent])

/-- What the second environment is put on is read with both at once. -/
theorem ReadFrom.join {fields : List (String × Value)} {s c : Settings}
    (joins : env.Joins first second) (read : ReadFrom first fields s)
    (overridden : override second s = .ok c) : ReadFrom env fields c := by
  have steady : s.Steady := steady_of_reading fun f => ⟨read.accepted f, read.reading f⟩
  have overlaid := (eq_ok_iff_of_readAll (steady.override second)).mp overridden
  have both (f : Field) : f.Accepts (f.layered env fields) ∧
      f.reading (f.layered env fields) = f.value c := by
    rcases given?_of_joins joins f with ⟨same, silent⟩ | ⟨same, silent⟩
    · -- The second environment leaves this setting as the first one made it.
      have kept : f.reading (f.value s) = f.value c := by
        simpa [Field.overlaid, silent] using (overlaid f).2
      rw [Field.layered, same]
      exact ⟨read.accepted f, (read.reading f).trans ((steady f).2.symm.trans kept)⟩
    · -- The first environment has left this setting as it is in the table.
      have reading : f.reading (f.fromTable fields) = f.value s := by
        simpa [Field.layered, silent] using read.reading f
      obtain ⟨sameAccepts, sameReading⟩ := Field.read_overlaid second (read.table f) reading
      rw [Field.layered, same]
      exact ⟨sameAccepts.mp (overlaid f).1, sameReading.symm.trans (overlaid f).2⟩
  exact ⟨read.fits, read.table, fun f => (both f).1, fun f => (both f).2⟩

theorem load_of_load_override {c : Settings} (joins : env.Joins first second)
    (h : (load tree first path >>= override second) = .ok c) : load tree env path = .ok c := by
  obtain ⟨s, loaded, overridden⟩ := except_bind_eq_ok.mp h
  obtain ⟨fields, selected, read⟩ := readFrom_of_load loaded
  exact load_eq_ok_iff.mpr ⟨fields, selected, read.join joins overridden⟩

/-- Two environments that have nothing in common can be put on top one after the other. -/
theorem load_override_iff {c : Settings} (joins : env.Joins first second) :
    (load tree first path >>= override second) = .ok c ↔ load tree env path = .ok c := by
  refine ⟨load_of_load_override joins, fun loaded => ?_⟩
  obtain ⟨fields, selected, read⟩ := readFrom_of_load loaded
  have loadedFirst : ∃ s, load tree first path = .ok s := by
    refine exists_load selected read.fits read.table fun f => ?_
    rcases given?_of_joins joins f with ⟨same, -⟩ | ⟨-, silent⟩
    · rw [Field.layered, ← same]
      exact read.accepted f
    · rw [Field.layered, silent]
      exact read.table f
  obtain ⟨s, loadedFirst⟩ := loadedFirst
  have steady := steady_of_load loadedFirst
  have overridden : ∃ c', override second s = .ok c' := by
    refine (exists_eq_ok_iff_of_readAll (steady.override second)).mpr fun f => ?_
    rw [Field.overlaid]
    cases given : f.given? second with
    | none => exact (steady f).1
    | some v =>
        have same : f.given? env = some v := by
          rcases given?_of_joins joins f with ⟨-, silent⟩ | ⟨same, -⟩
          · cases given.symm.trans silent
          · exact same.trans given
        simpa [Field.layered, same] using read.accepted f
  obtain ⟨c', overridden⟩ := overridden
  have both : (load tree first path >>= override second) = .ok c' :=
    except_bind_eq_ok.mpr ⟨s, loadedFirst, overridden⟩
  cases loaded.symm.trans (load_of_load_override joins both)
  exact both

/-! ### Settings field by field -/

/-- Each setting comes from its own variable, or else from its place in the table, or else
it is the default. So a variable that changes only changes its own setting, and variables
can be put on top in any order. -/
theorem settings_are_layered {c : Settings} (loaded : load tree env path = .ok c) :
    (∃ fields, Selected tree path fields ∧
      ∀ f : Field, f.value c = f.reading (f.layered env fields) ∧
        f.Accepts (f.layered env fields)) ∧
    (∀ (changed : String) (env' : Environment) (c' : Settings),
      (∀ name, name ≠ changed → env'.given name = env.given name) →
      load tree env' path = .ok c' →
        ∀ f : Field, f.variableName? ≠ some changed → f.value c' = f.value c) ∧
    (∀ first second both : Environment, both.Joins first second → ∀ d,
      ((load tree first path >>= override second) = .ok d ↔ load tree both path = .ok d) ∧
      ((load tree second path >>= override first) = .ok d ↔ load tree both path = .ok d)) ∧
    c.logging.level ∈ levels ∧ c.logging.format ∈ formats := by
  refine ⟨?_, ?_, ?_, ?_, ?_⟩
  · obtain ⟨fields, selected, read⟩ := readFrom_of_load loaded
    exact ⟨fields, selected, fun f => ⟨(read.reading f).symm, read.accepted f⟩⟩
  · intro changed env' c' same loaded' f other
    refine value_eq_of_given_eq loaded loaded' ?_
    rw [Field.given?, Field.given?]
    cases own : f.variableName? with
    | none => rfl
    | some name =>
        have unchanged : name ≠ changed := fun h => other (own.trans (congrArg some h))
        simp [same name unchanged]
  · intro first second both joins d
    exact ⟨load_override_iff joins, load_override_iff joins.symm⟩
  · obtain ⟨⟨-, known⟩, kept⟩ := steady_of_load loaded .logLevel
    exact Value.str.inj kept ▸ known
  · obtain ⟨⟨-, known⟩, kept⟩ := steady_of_load loaded .logFormat
    exact Value.str.inj kept ▸ known

def shed : FileTree where
  entries :=
    [(["shed"], .directory),
      (["shed", "pyproject.toml"], .file (.text
        ("[tool.manify]\ndestination = 7\nsource = \"lib\"\n" ++
          "[tool.manify.logging]\nlevel = \"info\"\noutput_file = \"log\"\n").toList))]
  here := ["shed"]

def shedVariables : Environment :=
  [("MANIFY_SOURCE", "src"), ("MANIFY_LOG_FORMAT", "JSON"), ("MANIFY_HEADING_PREFIX", "")]

def shedSettings : Settings where
  destination := "7"
  source := "src"
  logging := { level := "INFO", format := "json", outputFile := some "log" }

theorem shed_is_layered :
    load shed shedVariables none = .ok shedSettings ∧
    (∃ fields, Selected shed none fields ∧
      ∀ f : Field, f.value shedSettings = f.reading (f.layered shedVariables fields)) ∧
    (∀ c', load shed (("MANIFY_SOURCE", "app") :: shedVariables) none = .ok c' →
      c'.destination = "7" ∧ c'.logging.format = "json") ∧
    (load shed [("MANIFY_LOG_FORMAT", "JSON")] none >>= override [("MANIFY_SOURCE", "src")]) =
      .ok shedSettings := by
  have loaded : load shed shedVariables none = .ok shedSettings :=
    eq_ok_of_toOption (by decide +kernel)
  obtain ⟨⟨fields, selected, layered⟩, change, order, -⟩ := settings_are_layered loaded
  refine ⟨loaded, ⟨fields, selected, fun f => (layered f).1⟩, ?_, ?_⟩
  · intro c' loaded'
    have kept := change "MANIFY_SOURCE" _ c'
      (fun name other => by rw [Environment.given_cons, if_neg other]) loaded'
    exact ⟨Value.str.inj (kept .destination (by decide)),
      Value.str.inj (kept .logFormat (by decide))⟩
  · have joins :
        shedVariables.Joins [("MANIFY_LOG_FORMAT", "JSON")] [("MANIFY_SOURCE", "src")] := by
      constructor <;> intro name
      · by_cases source : name = "MANIFY_SOURCE" <;>
          by_cases format : name = "MANIFY_LOG_FORMAT" <;>
          simp [shedVariables, Environment.given_cons, source, format]
      · by_cases source : name = "MANIFY_SOURCE" <;> simp [Environment.given_cons, source]
    exact (order _ _ _ joins shedSettings).1.mpr loaded

end Settings

end CommandManual
