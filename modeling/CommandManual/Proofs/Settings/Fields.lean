import CommandManual.Proofs.Data.Value
import CommandManual.Proofs.Except
import CommandManual.Settings.Load

/-!
The settings one by one. Each setting has a place in the table of the settings file, a
variable of the environment that wins over it, a default, and a way to read the value
that is given for it. Reading a table, and putting the environment on top of settings,
both come to reading one setting after the other, always in the same order.
-/

namespace CommandManual.Settings

/-! ### Values of single settings -/

def wordOf (v : Value) : String := String.ofList (Text.trim (Text.toLower v.display.toList))

def truthOf : Value → Bool
  | .bool b => b
  | v => trueWords.contains (wordOf v)

theorem textOf_of_shown {v : Value} (shown : v.hasLongInteger = false) :
    textOf v = .ok v.display := by
  rw [textOf, shown]
  rfl

theorem textOf_of_long {v : Value} (long : v.hasLongInteger = true) :
    textOf v = .error .unshownInteger := by
  rw [textOf, long]
  rfl

theorem readBool_of_shown {v : Value} (name : String) (shown : v.hasLongInteger = false)
    (other : ∀ b, v ≠ .bool b) :
    readBool name v =
      if wordOf v ∈ trueWords ∨ wordOf v ∈ falseWords then .ok (truthOf v)
      else .error (.configuration name ("invalid boolean value " ++ v.quoted)) := by
  have truth : truthOf v = trueWords.contains (wordOf v) := by
    unfold truthOf
    split
    · exact absurd rfl (other _)
    · rfl
  unfold readBool
  split
  · exact absurd rfl (other _)
  · rw [textOf_of_shown shown, except_ok_bind, truth]
    show (if trueWords.contains (wordOf v) then _ else if falseWords.contains (wordOf v) then _
      else _) = _
    by_cases isTrue : wordOf v ∈ trueWords <;> by_cases isFalse : wordOf v ∈ falseWords <;>
      simp [isTrue, isFalse]

theorem upper_of_mem_levels : ∀ level ∈ levels, upper level = level := by decide +kernel

theorem lower_of_mem_formats : ∀ format ∈ formats, lower format = format := by decide +kernel

def levelOf (v : Value) : Except Fault String := do
  let level := upper (← textOf v)
  if levels.contains level then .ok level
  else .error (.configuration "logging.level" ("unknown level " ++ Text.quoted level))

def formatOf (v : Value) : Except Fault String := do
  let format := lower (← textOf v)
  if formats.contains format then .ok format
  else .error (.configuration "logging.format" ("unknown format " ++ Text.quoted format))

def fileOf (v : Value) : Except Fault (Option String) :=
  if v.isTruthy then (textOf v).map some else .ok none

theorem logSettings_eq (level format : Value) (file : Option Value) :
    logSettings level format file = (do
      let level ← levelOf level
      let format ← formatOf format
      let outputFile ← fileOf (file.getD .null)
      .ok { level, format, outputFile }) := by
  have hfile : (file.filter Value.isTruthy).mapM textOf = fileOf (file.getD .null) := by
    cases file with
    | none => rfl
    | some v =>
        rw [Option.getD_some, fileOf, Option.filter_some]
        cases v.isTruthy with
        | false => rfl
        | true =>
            rw [if_pos rfl, if_pos rfl, Option.mapM_some]
            cases textOf v <;> rfl
  unfold logSettings levelOf formatOf
  rw [hfile]
  rcases textOf level with e | level
  · rfl
  simp only [except_ok_bind]
  cases levels.contains (upper level) with
  | false => rfl
  | true =>
      rcases textOf format with e | format
      · rfl
      simp only [except_ok_bind]
      cases formats.contains (lower format) <;> rfl

/-! ### Settings -/

inductive Field
  | destination
  | source
  | manifestName
  | headingLead
  | scanPlugins
  | logLevel
  | logFormat
  | logFile
deriving DecidableEq

namespace Field

def all : List Field :=
  [destination, source, manifestName, headingLead, scanPlugins, logLevel, logFormat, logFile]

theorem mem_all (f : Field) : f ∈ all := by cases f <;> decide

def variableName? : Field → Option String
  | destination => some "MANIFY_DESTINATION"
  | source => some "MANIFY_SOURCE"
  | manifestName => some "MANIFY_MANIFEST_NAME"
  | headingLead => some "MANIFY_HEADING_PREFIX"
  | scanPlugins => some "MANIFY_SCAN_PLUGINS"
  | logLevel => some "MANIFY_LOG_LEVEL"
  | logFormat => some "MANIFY_LOG_FORMAT"
  | logFile => none

def inTable? (fields : List (String × Value)) : Field → Option Value
  | destination => fields.lookup "destination"
  | source => fields.lookup "source"
  | manifestName => fields.lookup "manifest_name"
  | headingLead => fields.lookup "heading_prefix"
  | scanPlugins => fields.lookup "scan_plugins"
  | logLevel => (fields.lookup "logging").bind (Value.get? "level")
  | logFormat => (fields.lookup "logging").bind (Value.get? "format")
  | logFile => (fields.lookup "logging").bind (Value.get? "output_file")

def value (s : Settings) : Field → Value
  | destination => .str s.destination
  | source => .str s.source
  | manifestName => .str s.manifestName
  | headingLead => .str s.headingLead
  | scanPlugins => .bool s.scanPlugins
  | logLevel => .str s.logging.level
  | logFormat => .str s.logging.format
  | logFile => (s.logging.outputFile.map Value.str).getD .null

def given? (env : Environment) (f : Field) : Option Value :=
  (f.variableName?.bind env.given).map Value.str

def fromTable (fields : List (String × Value)) (f : Field) : Value :=
  (f.inTable? fields).getD (f.value {})

/-- What a setting becomes when a value is given for it. A truth value that cannot be
read is reported under a name of its own. -/
def read (name : String) (v : Value) : Field → Except Fault Value
  | destination | source | manifestName | headingLead => (textOf v).map Value.str
  | scanPlugins => (readBool name v).map Value.bool
  | logLevel => (levelOf v).map Value.str
  | logFormat => (formatOf v).map Value.str
  | logFile => (fileOf v).map fun file => (file.map Value.str).getD .null

def reading (v : Value) : Field → Value
  | destination | source | manifestName | headingLead => .str v.display
  | scanPlugins => .bool (truthOf v)
  | logLevel => .str (upper v.display)
  | logFormat => .str (lower v.display)
  | logFile => if v.isTruthy then .str v.display else .null

def Accepts (v : Value) (f : Field) : Prop :=
  v.hasLongInteger = false ∧
    match f with
    | scanPlugins => (∃ b, v = .bool b) ∨ wordOf v ∈ trueWords ∨ wordOf v ∈ falseWords
    | logLevel => upper v.display ∈ levels
    | logFormat => lower v.display ∈ formats
    | _ => True

variable {name : String} {v u : Value} {f : Field}

theorem read_of_accepts (accepted : f.Accepts v) : f.read name v = .ok (f.reading v) := by
  obtain ⟨shown, does⟩ := accepted
  have text := textOf_of_shown shown
  cases f with
  | destination | source | manifestName | headingLead => simp [read, reading, text, Except.map]
  | scanPlugins =>
      by_cases isBool : ∃ b, v = .bool b
      · obtain ⟨b, rfl⟩ := isBool
        rfl
      have other : ∀ b, v ≠ .bool b := not_exists.mp isBool
      rw [read, readBool_of_shown name shown other, if_pos (does.resolve_left isBool)]
      rfl
  | logLevel =>
      have known : upper v.display ∈ levels := does
      simp [read, reading, levelOf, text, known, Except.map]
  | logFormat =>
      have known : lower v.display ∈ formats := does
      simp [read, reading, formatOf, text, known, Except.map]
  | logFile =>
      cases given : v.isTruthy <;> simp [read, reading, fileOf, given, text, Except.map]

theorem read_of_not_accepts (name : String) (shown : v.hasLongInteger = false)
    (refused : ¬ f.Accepts v) :
    ∃ component reason, f.read name v = .error (.configuration component reason) := by
  have text := textOf_of_shown shown
  cases f with
  | destination | source | manifestName | headingLead | logFile =>
      exact absurd ⟨shown, trivial⟩ refused
  | scanPlugins =>
      have unlike : ¬ ((∃ b, v = .bool b) ∨ wordOf v ∈ trueWords ∨ wordOf v ∈ falseWords) :=
        fun does => refused ⟨shown, does⟩
      obtain ⟨isNoBool, isNoWord⟩ := not_or.mp unlike
      rw [read, readBool_of_shown name shown (not_exists.mp isNoBool), if_neg isNoWord]
      exact ⟨_, _, rfl⟩
  | logLevel =>
      have unknown : upper v.display ∉ levels := fun known => refused ⟨shown, known⟩
      simp [read, levelOf, text, unknown, Except.map]
  | logFormat =>
      have unknown : lower v.display ∉ formats := fun known => refused ⟨shown, known⟩
      simp [read, formatOf, text, unknown, Except.map]

/-- A value that is too long to be shown cannot be read at all. -/
theorem read_of_long (long : v.hasLongInteger = true) :
    f.read name v = .error .unshownInteger := by
  have text := textOf_of_long long
  have given := Value.isTruthy_of_hasLongInteger long
  cases f with
  | destination | source | manifestName | headingLead => simp [read, text, Except.map]
  | scanPlugins =>
      have result : readBool name v = .error .unshownInteger := by
        unfold readBool
        split
        · cases long
        · rw [text]
          rfl
      rw [read, result]
      rfl
  | logLevel =>
      rw [read, levelOf, text]
      rfl
  | logFormat =>
      rw [read, formatOf, text]
      rfl
  | logFile => simp [read, fileOf, text, given, Except.map]

theorem read_eq_ok_iff : f.read name v = .ok u ↔ f.Accepts v ∧ f.reading v = u := by
  by_cases accepted : f.Accepts v
  · simp [read_of_accepts accepted, accepted]
  · have failed : f.read name v ≠ .ok u := by
      cases shown : v.hasLongInteger with
      | true => simp [read_of_long shown]
      | false =>
          obtain ⟨component, reason, h⟩ := read_of_not_accepts name shown accepted
          simp [h]
    exact iff_of_false failed fun h => accepted h.1

/-- What a setting has become does for it again, and stays what it is. -/
theorem accepts_reading (accepted : f.Accepts v) :
    f.Accepts (f.reading v) ∧ f.reading (f.reading v) = f.reading v := by
  obtain ⟨shown, does⟩ := accepted
  cases f with
  | destination | source | manifestName | headingLead => exact ⟨⟨rfl, trivial⟩, rfl⟩
  | scanPlugins => exact ⟨⟨rfl, .inl ⟨truthOf v, rfl⟩⟩, rfl⟩
  | logLevel =>
      have kept : upper (upper v.display) = upper v.display := upper_of_mem_levels _ does
      exact ⟨⟨rfl, (congrArg (· ∈ levels) kept).mpr does⟩, congrArg Value.str kept⟩
  | logFormat =>
      have kept : lower (lower v.display) = lower v.display := lower_of_mem_formats _ does
      exact ⟨⟨rfl, (congrArg (· ∈ formats) kept).mpr does⟩, congrArg Value.str kept⟩
  | logFile =>
      cases given : v.isTruthy with
      | false =>
          have noFile : reading v logFile = .null := by
            rw [reading, given, if_neg Bool.false_ne_true]
          rw [noFile]
          exact ⟨⟨rfl, trivial⟩, rfl⟩
      | true =>
          have file : reading v logFile = .str v.display := by rw [reading, if_pos given]
          have named : (Value.str v.display).isTruthy = true :=
            bne_iff_ne.mpr (Value.display_ne_empty given)
          rw [file, reading, if_pos named]
          exact ⟨⟨rfl, trivial⟩, rfl⟩

end Field

def values (s : Settings) : List Value := Field.all.map (Field.value s)

theorem eq_of_values_eq {s s' : Settings} (h : s.values = s'.values) : s = s' := by
  obtain ⟨destination, source, manifestName, headingLead, scanPlugins, level, format, file⟩ := s
  obtain ⟨destination', source', manifestName', headingLead', scanPlugins', level', format',
    file'⟩ := s'
  have hfile : file = file' := by
    cases file <;> cases file' <;> simp_all [values, Field.all, Field.value]
  simp_all [values, Field.all, Field.value]

/-- Settings are read one by one. -/
theorem read_all (name : String) (v : Field → Value) :
    Field.all.mapM (fun f => f.read name (v f)) =
      (do
        let destination ← textOf (v .destination)
        let source ← textOf (v .source)
        let manifestName ← textOf (v .manifestName)
        let headingLead ← textOf (v .headingLead)
        let scanPlugins ← readBool name (v .scanPlugins)
        let level ← levelOf (v .logLevel)
        let format ← formatOf (v .logFormat)
        let outputFile ← fileOf (v .logFile)
        .ok (values
          { destination, source, manifestName, headingLead, scanPlugins,
            logging := { level, format, outputFile } })) := by
  simp only [Field.all, List.mapM_cons, List.mapM_nil, Field.read, except_bind_map, bind_assoc,
    pure_bind]
  rfl

/-- The keys of a table are known, and what it says about the log is a table. -/
structure Fits (fields : List (String × Value)) : Prop where
  known : ∀ key ∈ fields.map Prod.fst, key ∈ keys
  logging : ∀ v, fields.lookup "logging" = some v → ∃ inner, v = .table inner

theorem textOr_eq (fields : List (String × Value)) (key default : String) :
    textOr fields key default = textOf ((fields.lookup key).getD (.str default)) := by
  unfold textOr
  cases fields.lookup key <;> rfl

/-- What a table that fits says about the log. -/
theorem Fits.exists_logging {fields : List (String × Value)} (fits : Fits fields) :
    ∃ inner, (fields.lookup "logging").getD (.table []) = .table inner ∧
      ∀ key, (fields.lookup "logging").bind (Value.get? key) = inner.lookup key := by
  cases h : fields.lookup "logging" with
  | none => exact ⟨[], rfl, fun _ => rfl⟩
  | some v =>
      obtain ⟨inner, rfl⟩ := fits.logging v h
      exact ⟨inner, rfl, fun _ => rfl⟩

/-- A table that fits is read setting by setting. -/
theorem Fits.ofTable {fields : List (String × Value)} (fits : Fits fields) :
    (ofTable fields).map values =
      Field.all.mapM fun f => f.read "scan_plugins" (f.fromTable fields) := by
  have known : (fields.map Prod.fst).filter (fun k => !keys.contains k) = [] := by
    simpa [List.filter_eq_nil_iff] using fits.known
  obtain ⟨inner, table, get⟩ := fits.exists_logging
  rw [Settings.ofTable, known, table, read_all]
  simp only [textOr_eq, readLogging, logSettings_eq, Field.fromTable, Field.inTable?, Field.value,
    get, List.isEmpty_nil, Bool.not_true, Bool.false_eq_true, if_false, Option.map_none,
    Option.getD_none, except_map_bind, bind_assoc, except_ok_bind, except_map_ok]

theorem ofTable_of_not_fits {fields : List (String × Value)} (unfit : ¬ Fits fields) :
    ∃ component reason, ofTable fields = .error (.configuration component reason) := by
  unfold ofTable
  dsimp only
  split
  · exact ⟨_, _, rfl⟩
  · rename_i known
    have known : ∀ key ∈ fields.map Prod.fst, key ∈ keys := by
      simpa [List.filter_eq_nil_iff] using known
    split
    · rename_i inner table
      refine absurd ⟨known, fun v found => ⟨inner, ?_⟩⟩ unfit
      rw [found] at table
      exact table
    · exact ⟨_, _, rfl⟩

/-! Settings that are read one by one are read if every value does for its setting. -/

section

variable {x : Except Fault Settings} {name : String} {v : Field → Value}

theorem eq_ok_iff_of_readAll (h : x.map values = Field.all.mapM fun f => f.read name (v f))
    {s : Settings} :
    x = .ok s ↔ ∀ f : Field, f.Accepts (v f) ∧ f.reading (v f) = f.value s := by
  have same : x = .ok s ↔ x.map values = .ok s.values := by
    cases x with
    | error e => simp [Except.map]
    | ok s' => simpa [Except.map] using ⟨congrArg values, eq_of_values_eq⟩
  rw [same, h, mapM_eq_ok_iff, values, List.forall₂_map_right_iff, List.forall₂_same]
  simp [Field.mem_all, Field.read_eq_ok_iff]

theorem exists_eq_ok_iff_of_readAll
    (h : x.map values = Field.all.mapM fun f => f.read name (v f)) :
    (∃ s, x = .ok s) ↔ ∀ f : Field, f.Accepts (v f) := by
  have same : (∃ s, x = .ok s) ↔ ∃ read, x.map values = .ok read := by
    cases x <;> simp [Except.map]
  rw [same, h, exists_mapM_eq_ok_iff]
  simp [Field.mem_all, Field.read_eq_ok_iff]

end

theorem ofTable_eq_ok_iff {fields : List (String × Value)} {s : Settings} :
    ofTable fields = .ok s ↔ Fits fields ∧
      ∀ f : Field, f.Accepts (f.fromTable fields) ∧ f.reading (f.fromTable fields) = f.value s := by
  by_cases fits : Fits fields
  · rw [eq_ok_iff_of_readAll fits.ofTable, and_iff_right fits]
  · obtain ⟨component, reason, failed⟩ := ofTable_of_not_fits fits
    simp [failed, fits]

/-! ### Putting the environment on top -/

def Steady (s : Settings) : Prop :=
  ∀ f : Field, f.Accepts (f.value s) ∧ f.reading (f.value s) = f.value s

/-- Settings that were read can be read again. -/
theorem steady_of_reading {v : Field → Value} {s : Settings}
    (read : ∀ f : Field, f.Accepts (v f) ∧ f.reading (v f) = f.value s) : s.Steady := by
  intro f
  obtain ⟨accepted, reading⟩ := read f
  rw [← reading]
  exact Field.accepts_reading accepted

theorem steady_of_ofTable {fields : List (String × Value)} {s : Settings}
    (h : ofTable fields = .ok s) : s.Steady :=
  steady_of_reading (ofTable_eq_ok_iff.mp h).2

def Field.overlaid (env : Environment) (s : Settings) (f : Field) : Value :=
  (f.given? env).getD (f.value s)

theorem Steady.levelOf {s : Settings} (steady : s.Steady) :
    levelOf (.str s.logging.level) = .ok s.logging.level := by
  obtain ⟨⟨-, known⟩, kept⟩ := steady .logLevel
  have kept : upper s.logging.level = s.logging.level := Value.str.inj kept
  have known : s.logging.level ∈ levels := kept ▸ known
  simp [Settings.levelOf, textOf, Value.hasLongInteger, Value.display, kept, known]

theorem Steady.formatOf {s : Settings} (steady : s.Steady) :
    formatOf (.str s.logging.format) = .ok s.logging.format := by
  obtain ⟨⟨-, known⟩, kept⟩ := steady .logFormat
  have kept : lower s.logging.format = s.logging.format := Value.str.inj kept
  have known : s.logging.format ∈ formats := kept ▸ known
  simp [Settings.formatOf, textOf, Value.hasLongInteger, Value.display, kept, known]

theorem Steady.fileOf {s : Settings} (steady : s.Steady) :
    fileOf ((s.logging.outputFile.map Value.str).getD .null) = .ok s.logging.outputFile := by
  have kept := (steady .logFile).2
  rw [Field.value] at kept
  cases file : s.logging.outputFile with
  | none => rfl
  | some name =>
      rw [file, Option.map_some, Option.getD_some, Field.reading] at kept
      rw [Option.map_some, Option.getD_some, Settings.fileOf]
      cases given : (Value.str name).isTruthy with
      | false =>
          rw [given] at kept
          cases kept
      | true => rfl

theorem Steady.logSettings {s : Settings} (steady : s.Steady) :
    logSettings (.str s.logging.level) (.str s.logging.format)
      (s.logging.outputFile.map Value.str) = .ok s.logging := by
  rw [logSettings_eq, steady.levelOf, steady.formatOf, steady.fileOf]
  rfl

/-- Log settings are read again even if the environment says nothing about them. -/
theorem Steady.override_eq {s : Settings} (steady : s.Steady) (env : Environment) :
    override env s = (do
      let scanPlugins ← readBool "MANIFY_SCAN_PLUGINS"
        (((env.given "MANIFY_SCAN_PLUGINS").map Value.str).getD (.bool s.scanPlugins))
      let logging ← Settings.logSettings
        (.str ((env.given "MANIFY_LOG_LEVEL").getD s.logging.level))
        (.str ((env.given "MANIFY_LOG_FORMAT").getD s.logging.format))
        (s.logging.outputFile.map Value.str)
      .ok
        { destination := (env.given "MANIFY_DESTINATION").getD s.destination
          source := (env.given "MANIFY_SOURCE").getD s.source
          manifestName := (env.given "MANIFY_MANIFEST_NAME").getD s.manifestName
          headingLead := (env.given "MANIFY_HEADING_PREFIX").getD s.headingLead
          scanPlugins, logging }) := by
  unfold Settings.override
  -- Only where the environment says nothing are the log settings not read again.
  have same := steady.logSettings
  cases env.given "MANIFY_LOG_LEVEL" <;> cases env.given "MANIFY_LOG_FORMAT"
  case none.none =>
    simp only [Option.getD_none, same, except_ok_bind]
    cases env.given "MANIFY_SCAN_PLUGINS" <;> rfl
  all_goals cases env.given "MANIFY_SCAN_PLUGINS" <;> rfl

/-- Settings with the environment on top are read setting by setting. -/
theorem Steady.override {s : Settings} (steady : s.Steady) (env : Environment) :
    (override env s).map values =
      Field.all.mapM fun f => f.read "MANIFY_SCAN_PLUGINS" (f.overlaid env s) := by
  have shown (text : String) : textOf (.str text) = .ok text := rfl
  rw [read_all, steady.override_eq]
  simp only [Field.overlaid, Field.given?, Field.variableName?, Field.value, Option.bind_some,
    Option.bind_none, Option.map_none, Option.getD_none, Option.getD_map, shown, except_ok_bind,
    logSettings_eq, steady.fileOf, except_map_bind, bind_assoc, except_map_ok]

end CommandManual.Settings
