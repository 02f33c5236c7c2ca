import CommandManual.Proofs.Log.Configure
import CommandManual.Proofs.Settings.Layers

/-!
The variables of the log, which are read in two places. Loading the settings takes an
empty variable for one that is not set. The first logger that is asked for puts the
variables into force as they are, so an empty level is no level, and an empty format is
not the usual one. `first_logger_agrees_iff` says that this is the only difference
between the two.
-/

namespace CommandManual

/-! ### The settings that are loaded -/

theorem Environment.given_of_lookup {env : Environment} {name : String}
    (h : env.lookup name ≠ some "") : env.given name = env.lookup name := by
  unfold Environment.given
  cases found : env.lookup name with
  | none => rfl
  | some text =>
      have given : text ≠ "" := by
        rintro rfl
        exact h found
      exact if_neg given

theorem Environment.given_of_empty {env : Environment} {name : String}
    (h : env.lookup name = some "") : env.given name = none := by
  rw [Environment.given, h]
  exact if_pos rfl

namespace Settings

variable {tree : FileTree} {env : Environment} {c : Settings}

/-- Without a settings file, the settings of the log come from the environment alone. -/
theorem logging_of_absent (absent : tree.isFile (filePath tree none) = .ok false)
    (loaded : load tree env none = .ok c) :
    c.logging.level = upper ((env.given "MANIFY_LOG_LEVEL").getD "WARNING") ∧
      c.logging.format = lower ((env.given "MANIFY_LOG_FORMAT").getD "structured") := by
  obtain ⟨fields, selected, read⟩ := readFrom_of_load loaded
  obtain rfl := selected.unique (.absent absent)
  have level := read.reading .logLevel
  have format := read.reading .logFormat
  constructor
  · cases given : env.given "MANIFY_LOG_LEVEL" <;>
      simpa [Field.layered, Field.given?, Field.variableName?, given, Field.fromTable,
        Field.inTable?, Field.value, Field.reading, Value.display] using level.symm
  · cases given : env.given "MANIFY_LOG_FORMAT" <;>
      simpa [Field.layered, Field.given?, Field.variableName?, given, Field.fromTable,
        Field.inTable?, Field.value, Field.reading, Value.display] using format.symm

theorem level_mem_of_load {path : Option Path} (loaded : load tree env path = .ok c) :
    c.logging.level ∈ levels := by
  obtain ⟨⟨-, known⟩, kept⟩ := steady_of_load loaded .logLevel
  exact Value.str.inj kept ▸ known

end Settings

namespace Log

/-! ### The first logger -/

theorem Level.name_of_ofName {name : String} {level : Level} (h : ofName name = .ok level) :
    level.name = name := by
  unfold ofName at h
  split at h
  · rename_i found
    cases h
    have same := List.find?_some found
    exact eq_of_beq same
  · cases h

/-- Every level that settings may have is one that the log knows. -/
theorem Level.exists_ofName : ∀ name ∈ CommandManual.Settings.levels,
    ∃ level, ofName name = .ok level := by
  have known : ∀ name ∈ CommandManual.Settings.levels, (ofName name).isOk = true := by decide
  intro name hmem
  cases h : ofName name with
  | ok level => exact ⟨level, rfl⟩
  | error e =>
      have isOk := known name hmem
      rw [h] at isOk
      cases isOk

namespace Logging

/-- What comes of the first logger: the level of the environment is none, or the sink
that the environment describes is the only one of the program. -/
theorem firstLogger_cases {d : Desk} (env : Environment) (name : String)
    (numbered : d.hub.Numbered) (fresh : d.hub.settings = none) (unasked : d.hub.loggers = []) :
    (∃ e, (LevelChoice.ofValue (settingsOfEnvironment env).level).resolve = .error e ∧
        ((logger env name).outcome d).1 = .error (.level e)) ∨
      ∃ level d', (LevelChoice.ofValue (settingsOfEnvironment env).level).resolve = .ok level ∧
        (logger env name).outcome d = (.ok d.hub.nextLogger, d') ∧
        d'.hub.ownSinks = [(settingsOfEnvironment env).terminal level] := by
  have new : d.skips (settingsOfEnvironment env) false = false := by simp [Desk.skips, fresh]
  have done := configured (settingsOfEnvironment env) false d
  unfold logger
  rw [outcome_bind, outcome_get]
  simp only [unasked, List.lookup_nil, fresh, Option.isNone_none, if_true]
  rw [outcome_bind]
  rcases hrun : (configure (settingsOfEnvironment env) false).outcome d with ⟨result, d₁⟩
  rw [hrun] at done
  cases done with
  | kept skipped =>
      rw [new] at skipped
      cases skipped
  | unknownLevel _ unnamed => exact .inl ⟨_, unnamed, rfl⟩
  | @terminal level _ named _ =>
      refine .inr ⟨level, _, named, rfl, ?_⟩
      have cleared : d.hub.cleared.Numbered := numbered.removeOwned.remove firstSink
      calc
        _ = (d.hub.cleared.addOwn ((settingsOfEnvironment env).terminal level)).ownSinks := rfl
        _ = [(settingsOfEnvironment env).terminal level] := by
          rw [Hub.ownSinks_addOwn cleared, Hub.ownSinks_cleared, List.nil_append]
  | refused _ _ file => cases file
  | withFile _ _ file => cases file

end Logging

/-! ### Both readings -/

variable {tree : FileTree} {env : Environment} {c : CommandManual.Settings}

/-- The log is set up as some settings say: a sink on the terminal with their level and
format is the only one of the program. -/
def Desk.Shows (d : Desk) (s : LogSettings) : Prop :=
  ∃ level : Level, level.name = s.level ∧
    d.hub.ownSinks = [.terminal level (Layout.ofValue (.str s.format)) true true]

/-- The first logger of a process sets up the log as the settings say that are loaded from
the same environment, exactly if no variable of the log is set to the empty text. -/
theorem first_logger_agrees_iff {d : Desk} {name : String}
    (absent : tree.isFile (CommandManual.Settings.filePath tree none) = .ok false)
    (loaded : CommandManual.Settings.load tree env none = .ok c)
    (numbered : d.hub.Numbered) (fresh : d.hub.settings = none) (unasked : d.hub.loggers = []) :
    (∃ id d', (Logging.logger env name).outcome d = (.ok id, d') ∧ d'.Shows c.logging) ↔
      env.lookup "MANIFY_LOG_LEVEL" ≠ some "" ∧ env.lookup "MANIFY_LOG_FORMAT" ≠ some "" := by
  obtain ⟨level_eq, format_eq⟩ := CommandManual.Settings.logging_of_absent absent loaded
  have known := CommandManual.Settings.level_mem_of_load loaded
  constructor
  · rintro ⟨id, d', run, level, named, sinks⟩
    rcases Logging.firstLogger_cases env name numbered fresh unasked with
      ⟨e, -, failed⟩ | ⟨level', d₁, resolved, run', sinks'⟩
    · rw [run] at failed
      cases failed
    obtain ⟨-, rfl⟩ := Prod.mk.inj (run.symm.trans run')
    rw [sinks'] at sinks
    constructor
    · intro empty
      rw [Logging.settingsOfEnvironment, empty] at resolved
      cases resolved
    · intro empty
      -- The settings have the usual format, the sink has the plain one.
      rw [Environment.given_of_empty empty] at format_eq
      have usual : Layout.ofValue (.str c.logging.format) = .structured := by
        rw [format_eq]
        decide +kernel
      rw [usual, Logging.settingsOfEnvironment, Settings.terminal, Settings.layout, empty] at sinks
      cases sinks
  · rintro ⟨level_given, format_given⟩
    rw [Environment.given_of_lookup level_given] at level_eq
    rw [Environment.given_of_lookup format_given] at format_eq
    have level_same : (Logging.settingsOfEnvironment env).level = .str c.logging.level := by
      rw [level_eq]
      rfl
    have format_same : (Logging.settingsOfEnvironment env).format = .str c.logging.format := by
      rw [format_eq]
      rfl
    obtain ⟨level, resolved⟩ := Level.exists_ofName _ known
    rcases Logging.firstLogger_cases env name numbered fresh unasked with
      ⟨e, unresolved, -⟩ | ⟨level', d', resolved', run, sinks⟩
    · rw [level_same] at unresolved
      cases resolved.symm.trans unresolved
    · rw [level_same] at resolved'
      refine ⟨_, d', run, level', Level.name_of_ofName resolved', ?_⟩
      rw [sinks, Settings.terminal, Settings.layout, format_same]
      rfl

/-- A level and a format in letters that are brought to the usual case. -/
theorem dotless_level_agrees :
    ∃ id d', (Logging.logger
        [("MANIFY_LOG_LEVEL", "crıtıcal"), ("MANIFY_LOG_FORMAT", "Rich")] "m").outcome startDesk =
          (.ok id, d') ∧
      d'.Shows { level := "CRITICAL", format := "rich" } := by
  have loaded : CommandManual.Settings.load startDesk.tree
      [("MANIFY_LOG_LEVEL", "crıtıcal"), ("MANIFY_LOG_FORMAT", "Rich")] none =
        .ok { logging := { level := "CRITICAL", format := "rich" } } :=
    eq_ok_of_toOption (by decide +kernel)
  have numbered : startDesk.hub.Numbered := by
    intro id s hmem
    cases List.mem_singleton.mp hmem
    decide
  exact (first_logger_agrees_iff rfl loaded numbered rfl rfl).mpr ⟨by decide, by decide⟩

/-- An empty level counts as not set for the settings, and is no level for the first logger. -/
theorem empty_level_stops_first_logger :
    CommandManual.Settings.load startDesk.tree [("MANIFY_LOG_LEVEL", "")] none = .ok {} ∧
      ¬ ∃ id d', (Logging.logger [("MANIFY_LOG_LEVEL", "")] "m").outcome startDesk = (.ok id, d') ∧
        d'.Shows ({} : CommandManual.Settings).logging := by
  refine ⟨rfl, ?_⟩
  rintro ⟨id, d', run, -⟩
  have failed : ((Logging.logger [("MANIFY_LOG_LEVEL", "")] "m").outcome startDesk).1 =
      .error (.level (.unknown "")) := rfl
  rw [run] at failed
  cases failed

end Log

end CommandManual
