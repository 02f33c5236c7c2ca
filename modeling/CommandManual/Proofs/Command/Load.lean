import CommandManual.Command.Load
import CommandManual.Proofs.Escape
import CommandManual.Proofs.Files.Walk

/-!
How the search for the provider of a command ends a whole run. Each stage has a
list of what can be wrong there, the file of the command, the import of its
class, and the registry, and a theorem that says that the list is complete.
-/

namespace CommandManual

open CommandManual.Action

/-! ### Command files -/

namespace Script

structure NewFile (path : Path) (w : Workspace) (place : Place) : Prop where
  isFile : w.tree.isFile path = .ok true
  locate : w.tree.locate .follow path = .ok place
  new : w.memory.loaded.lookup (moduleName ⟨.slash, place⟩) = none

inductive FileBreach (path : Path) (w : Workspace) : Prop
  /-- A name on the way to the file is too long to be looked at. -/
  | tooLong (readable : FileTree.hasNull path = false)
      (refused : w.tree.locate .follow path = .error .nameTooLong)
  /-- The file is a library of the machine. -/
  | library {place : Place} (found : NewFile path w place)
      (named : FileForm.ofName? (Path.mk .slash place).name = some .library)
  /-- The file raises what is no ordinary error, or what has no words for itself. -/
  | raises {place : Place} {form : FileForm} {e : Raised} (found : NewFile path w place)
      (named : FileForm.ofName? (Path.mk .slash place).name = some form)
      (notLibrary : form ≠ .library)
      (raised : (StateT.run (ExceptT.run
        (carryOut w.tree (moduleName ⟨.slash, place⟩) ⟨.slash, place⟩)) w.memory).1 = .error e)
      (unworded : e.isOrdinary = false ∨ ∃ e', e.formatted = .error e')

/-- Asking a module for a class raises something other than that a name is missing. -/
def ClassBreach (memory : Memory) (index : Nat) (className : String) : Prop :=
  ∃ e, memory.attributePath (.module index)
      ((Text.splitWhere (· == '.') className.toList).map String.ofList) = .error e ∧
    e.isMissingAttribute = false

inductive ImportBreach (classPath : String) (w : Workspace) : Prop
  /-- The import raises something other than that a module or a name is missing, which
  does not count as a problem that ends one command either. -/
  | module {moduleName className : String} {e : Raised}
      (divided : splitClassPath? classPath = some (moduleName, className))
      (raised : (StateT.run (ExceptT.run (requestAbsolute w.tree moduleName)) w.memory).1 =
        .error e)
      (other : e.isImport = false) (uncaught : (Fault.ofRaised e).endsOneCommand = false)
  /-- The module is there, and asking it for the class raises something. -/
  | member {moduleName className : String} {index : Nat} {memory : Memory}
      (divided : splitClassPath? classPath = some (moduleName, className))
      (imported : StateT.run (ExceptT.run (requestAbsolute w.tree moduleName)) w.memory =
        (.ok index, memory))
      (breach : ClassBreach memory index className)

/-- The import of a class raises an error that counts as a problem of the program's own,
and is passed on as one. -/
def ImportSignals (classPath : String) (w : Workspace) (kind : ProblemKind) (r : Raised) :
    Prop :=
  ∃ moduleName className, splitClassPath? classPath = some (moduleName, className) ∧
    (StateT.run (ExceptT.run (requestAbsolute w.tree moduleName)) w.memory).1 = .error r ∧
    r.isImport = false ∧ r.problem? = some kind

/-- While a provider is chosen for a command, the import of its class raises an error that
counts as a problem of the program's own. -/
def Signals (d : Descriptor) (w : Workspace) (kind : ProblemKind) (r : Raised) : Prop :=
  d.sourcePath = none ∧ ∃ target w', (registered d.commandName).outcome w = (.ok target, w') ∧
    (target = none ∨ target = some (.object (.value .null))) ∧ d.className ≠ "" ∧
    ImportSignals d.className w' kind r

end Script

open CommandManual.Script

namespace Action

theorem findFile_eq_ok_iff {path file : Path} {className : String} {w w' : Workspace} :
    (findFile path className).outcome w = (.ok file, w') ↔
      w' = w ∧ ∃ place, file = ⟨.slash, place⟩ ∧ w.tree.isFile path = .ok true ∧
        w.tree.locate .follow path = .ok place := by
  unfold findFile
  rcases hfile : w.tree.isFile path with e | _ | _
  · simp [outcome_bind, hfile]
  · simp [outcome_bind, hfile]
  · obtain ⟨place, hplace⟩ := FileTree.locate_of_leadsTo hfile
    simp only [outcome_bind, outcome_get, outcome_ofExcept, outcome_pure, hfile, hplace,
      mapError_ok, if_true, Except.ok.injEq, Prod.mk.injEq, true_and]
    constructor
    · rintro ⟨rfl, rfl⟩
      exact ⟨rfl, place, rfl, rfl⟩
    · rintro ⟨rfl, _, rfl, rfl⟩
      exact ⟨rfl, rfl⟩

theorem findFile_escapes_iff {path : Path} {className : String} {w : Workspace} :
    (findFile path className).Escapes w ↔
      FileTree.hasNull path = false ∧ w.tree.locate .follow path = .error .nameTooLong := by
  rw [← FileTree.leadsTo_eq_error_iff, ← FileTree.isFile]
  unfold findFile Escapes
  rcases hfile : w.tree.isFile path with e | _ | _
  · simp [outcome_bind, hfile, Fault.endsOneCommand]
  · simp [outcome_bind, hfile, Fault.endsOneCommand]
  · obtain ⟨place, hplace⟩ := FileTree.locate_of_leadsTo hfile
    simp [outcome_bind, hfile, hplace, Except.map]

theorem unloadable_endsOneCommand_iff {path : Path} {className : String} {e : Raised} :
    (unloadable path className e).endsOneCommand = false ↔
      e.isOrdinary = false ∨ ∃ e', e.formatted = .error e' := by
  unfold unloadable
  cases e.isOrdinary with
  | false => simp [Fault.endsOneCommand]
  | true => rcases e.formatted with e' | detail <;> simp [Fault.endsOneCommand]

theorem loadNew_escapes_iff {path file : Path} {className : String} {w : Workspace} :
    (loadNew path className file).Escapes w ↔
      FileForm.ofName? file.name = some .library ∨
        ∃ form e, FileForm.ofName? file.name = some form ∧ form ≠ .library ∧
          (StateT.run (ExceptT.run (carryOut w.tree (moduleName file) file)) w.memory).1 =
            .error e ∧
          (e.isOrdinary = false ∨ ∃ e', e.formatted = .error e') := by
  unfold loadNew
  rw [escapes_get_bind]
  dsimp only
  split
  · rename_i hform
    simp [hform, Fault.endsOneCommand]
  · rename_i hform
    simp [hform, Fault.endsOneCommand]
  · rename_i form hne hform
    have hne : form ≠ .library := hne
    rw [escapes_bind_of_ok (outcome_ofExec _ _)]
    rcases (StateT.run (ExceptT.run (carryOut w.tree (moduleName file) file)) w.memory).1
      with e | index
    · simp [hform, hne, unloadable_endsOneCommand_iff]
    · simp [hform, hne]

/-- A file that is found and was not carried out before is carried out now. -/
theorem loadFile_escapes_of_newFile {path : Path} {className : String} {w : Workspace}
    {place : Place} (found : NewFile path w place)
    (h : (loadNew path className ⟨.slash, place⟩).Escapes w) :
    (loadFile path className).Escapes w := by
  have finds : (findFile path className).outcome w = (.ok ⟨.slash, place⟩, w) :=
    findFile_eq_ok_iff.mpr ⟨rfl, place, rfl, found.isFile, found.locate⟩
  unfold loadFile
  rw [escapes_bind_of_ok finds, escapes_get_bind, found.new]
  exact h

theorem loadFile_escapes_iff {path : Path} {className : String} {w : Workspace} :
    (loadFile path className).Escapes w ↔ FileBreach path w := by
  constructor
  · intro h
    unfold loadFile at h
    rcases escapes_bind.mp h with h | ⟨file, w', found, h⟩
    · obtain ⟨readable, refused⟩ := findFile_escapes_iff.mp h
      exact .tooLong readable refused
    · obtain ⟨rfl, place, rfl, isFile, locate⟩ := findFile_eq_ok_iff.mp found
      rw [escapes_get_bind] at h
      split at h
      · exact absurd h (escapes_pure _ _)
      · rename_i new
        have found : NewFile path w' place := ⟨isFile, locate, new⟩
        rcases loadNew_escapes_iff.mp h with named | ⟨form, e, named, hne, raised, unworded⟩
        · exact .library found named
        · exact .raises found named hne raised unworded
  · intro breach
    cases breach with
    | tooLong readable refused =>
        unfold loadFile
        exact escapes_bind.mpr (.inl (findFile_escapes_iff.mpr ⟨readable, refused⟩))
    | library found named =>
        exact loadFile_escapes_of_newFile found (loadNew_escapes_iff.mpr (.inl named))
    | raises found named hne raised unworded =>
        refine loadFile_escapes_of_newFile found (loadNew_escapes_iff.mpr (.inr ?_))
        exact ⟨_, _, named, hne, raised, unworded⟩

theorem resolveClass_escapes_iff {index : Nat} {className : String} {w : Workspace} :
    (resolveClass index className).Escapes w ↔ ClassBreach w.memory index className := by
  unfold resolveClass ClassBreach
  rw [escapes_get_bind]
  split
  · rename_i e h
    cases hm : e.isMissingAttribute <;> simp [h, hm, Fault.endsOneCommand]
  · rename_i h
    simp [h]
  · rename_i h
    simp [h, Fault.endsOneCommand]

theorem importClass_escapes_iff {classPath : String} {w : Workspace} :
    (importClass classPath).Escapes w ↔ ImportBreach classPath w := by
  unfold importClass
  split
  · rename_i divided
    simp only [escapes_throw, Fault.endsOneCommand, Bool.true_eq_false, false_iff]
    rintro (⟨h, -, -, -⟩ | ⟨h, -, -⟩)
    all_goals rw [divided] at h; cases h
  · rename_i moduleName className divided
    rw [escapes_get_bind, escapes_bind_of_ok (outcome_ofExec _ _)]
    rcases hrun : StateT.run (ExceptT.run (requestAbsolute w.tree moduleName)) w.memory
      with ⟨e | index, memory⟩
    · constructor
      · intro h
        cases hi : e.isImport with
        | true => simp [hi, Fault.endsOneCommand] at h
        | false =>
            simp only [hi, Bool.false_eq_true, if_false, escapes_throw] at h
            exact .module divided (by rw [hrun]) hi h
      · rintro (⟨h, raised, other, uncaught⟩ | ⟨h, imported, -⟩)
        all_goals rw [divided] at h; cases h
        · rw [hrun] at raised
          cases raised
          simp [other, uncaught]
        · rw [hrun] at imported
          cases imported
    · dsimp only
      rw [resolveClass_escapes_iff]
      constructor
      · exact .member divided hrun
      · rintro (⟨h, raised, -, -⟩ | ⟨h, imported, breach⟩)
        all_goals rw [divided] at h; cases h
        · rw [hrun] at raised
          cases raised
        · rw [hrun] at imported
          cases imported
          exact breach

end Action

/-! ### The registry -/

theorem Registry.noteFailures_run (failures : List (EntryPoint × String))
    (records : List Log.Record) :
    (StateT.run (ExceptT.run (noteFailures failures)) records).1 = .ok () := by
  induction failures generalizing records with
  | nil => rfl
  | cons failure rest ih => exact ih _

inductive ProviderBreach (d : Descriptor) (w : Workspace) : Prop
  | file {path : Path} (source : d.sourcePath = some path) (breach : FileBreach path w)
  | fileClass {path : Path} {index : Nat} {w' : Workspace} (source : d.sourcePath = some path)
      (loaded : (loadFile path d.className).outcome w = (.ok index, w'))
      (breach : ClassBreach w'.memory index d.className)
  /-- An advertised command stops the intake of those that are advertised. -/
  | intake {e : Raised} (source : d.sourcePath = none)
      (unknown : w.registry.has d.commandName = false) (first : w.registry.consulted = false)
      (stopped : (w.registry.loadEntryPoints (advertised Registry.defaultGroup w)).stopped =
        some e)
  /-- What is registered raises something when it is asked whether it is a provider. -/
  | answer {o : Object} {e : Raised} {w' : Workspace} (source : d.sourcePath = none)
      (known : (registered d.commandName).outcome w = (.ok (some (.object o)), w'))
      (noClass : ∀ c, o ≠ .cls c) (given : o ≠ .value .null)
      (raised : Provider.answersLike w'.memory o = .error e)
  | imported {target : Option Target} {w' : Workspace} (source : d.sourcePath = none)
      (known : (registered d.commandName).outcome w = (.ok target, w'))
      (nothing : target = none ∨ target = some (.object (.value .null)))
      (named : d.className ≠ "") (breach : ImportBreach d.className w')

namespace Action

theorem keepIntake_escapes_iff {group : String} {i : Registry.Intake} {w : Workspace} :
    (keepIntake group i).Escapes w ↔ ∃ e, i.stopped = some e := by
  have noted (w : Workspace) : (ofTraced (Registry.noteFailures i.failures)).outcome w =
      (.ok (), (Registry.noteFailures i.failures).outcome.2.foldl Workspace.deliver w) := by
    rw [outcome_ofTraced, Traced.outcome, Registry.noteFailures_run]
  unfold keepIntake
  rw [escapes_bind_of_ok (outcome_modify _ _), escapes_bind_of_ok (noted _)]
  cases i.stopped <;> simp [Fault.endsOneCommand]

theorem registered_escapes_iff {name : String} {w : Workspace} :
    (registered name).Escapes w ↔
      w.registry.has name = false ∧ w.registry.consulted = false ∧
        ∃ e, (w.registry.loadEntryPoints (advertised Registry.defaultGroup w)).stopped =
          some e := by
  unfold registered Registry.get
  rw [escapes_get_bind]
  cases w.registry.has name with
  | true => simp
  | false =>
      cases w.registry.consulted with
      | true => simp
      | false => simp [keepIntake_escapes_iff]

theorem importedProvider_escapes_iff {d : Descriptor} {w : Workspace} :
    (importedProvider d).Escapes w ↔ d.className ≠ "" ∧ ImportBreach d.className w := by
  unfold importedProvider
  split
  · rename_i h
    simp [h, Fault.endsOneCommand]
  · rename_i h
    simp [h, importClass_escapes_iff]

theorem answeringProvider_escapes_iff {d : Descriptor} {o : Object} {w : Workspace} :
    (answeringProvider d o).Escapes w ↔ ∃ e, Provider.answersLike w.memory o = .error e := by
  unfold answeringProvider
  rw [escapes_get_bind]
  rcases Provider.answersLike w.memory o with e | _ | _ <;>
    simp [escapes_bind, Fault.endsOneCommand]

theorem targetProvider_escapes_iff {d : Descriptor} {target : Option Target} {w : Workspace} :
    (targetProvider d target).Escapes w ↔
      ((target = none ∨ target = some (.object (.value .null))) ∧ d.className ≠ "" ∧
          ImportBreach d.className w) ∨
        ∃ o e, target = some (.object o) ∧ (∀ c, o ≠ .cls c) ∧ o ≠ .value .null ∧
          Provider.answersLike w.memory o = .error e := by
  unfold targetProvider
  split
  · simp
  · simp
  · simp [importedProvider_escapes_iff]
  · simp [importedProvider_escapes_iff]
  · rename_i o noClass given
    have noClass : ∀ c, o ≠ .cls c := noClass
    have given : o ≠ .value .null := given
    simp [answeringProvider_escapes_iff, noClass, given]

theorem loadProvider_escapes_iff {d : Descriptor} {w : Workspace} :
    (loadProvider d).Escapes w ↔ ProviderBreach d w := by
  unfold loadProvider
  split
  · rename_i path source
    rw [escapes_bind, loadFile_escapes_iff]
    simp only [bind_pure_comp, escapes_map, resolveClass_escapes_iff]
    constructor
    · rintro (breach | ⟨index, w', loaded, breach⟩)
      · exact .file source breach
      · exact .fileClass source loaded breach
    · intro breach
      cases breach with
      | file source' breach =>
          cases source.symm.trans source'
          exact .inl breach
      | fileClass source' loaded breach =>
          cases source.symm.trans source'
          exact .inr ⟨_, _, loaded, breach⟩
      | intake source' | answer source' | imported source' => cases source.symm.trans source'
  · rename_i source
    rw [escapes_bind, registered_escapes_iff]
    simp only [targetProvider_escapes_iff]
    constructor
    · rintro (⟨unknown, first, e, stopped⟩ | ⟨target, w', known, h⟩)
      · exact .intake source unknown first stopped
      · rcases h with ⟨nothing, named, breach⟩ | ⟨o, e, rfl, noClass, given, raised⟩
        · exact .imported source known nothing named breach
        · exact .answer source known noClass given raised
    · intro breach
      cases breach with
      | file source' | fileClass source' => cases source.symm.trans source'
      | intake _ unknown first stopped => exact .inl ⟨unknown, first, _, stopped⟩
      | answer _ known noClass given raised =>
          exact .inr ⟨_, _, known, .inr ⟨_, _, rfl, noClass, given, raised⟩⟩
      | imported _ known nothing named breach =>
          exact .inr ⟨_, _, known, .inl ⟨nothing, named, breach⟩⟩

end Action

end CommandManual
