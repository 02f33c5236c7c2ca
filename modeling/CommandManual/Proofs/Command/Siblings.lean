import CommandManual.Proofs.Command.Apart

/-!
Modules next to command files. While a command file is carried out its directory
is searched first, so a module that it imports comes from the file next to it, if
there is one, unless the name stands for a module already. Names are not given up:
what one command has imported is what the next one gets under the same name. So
two commands are kept apart exactly as far as they do not import different modules
of one name.
-/

namespace CommandManual

namespace Script

/-! ### What names stand for -/

def Memory.source? (m : Memory) (name : String) : Option (Option String) :=
  ((m.loaded.lookup name).bind m.module?).map Module.file

def Memory.Allows (m : Memory) (name : String) (source : Path) : Prop :=
  ∀ file, m.source? name = some file → file = some source.toString

def Memory.Sound (m : Memory) : Prop :=
  ∀ name i, m.loaded.lookup name = some i → ∃ x, m.module? i = some x

namespace Memory

variable {m m' : Memory} {made : String → Option String → Prop} {name : String}

theorem source?_eq_some_iff {file : Option String} :
    m.source? name = some file ↔
      ∃ i x, m.loaded.lookup name = some i ∧ m.module? i = some x ∧ x.file = file := by
  unfold source?
  cases m.loaded.lookup name <;> simp

theorem Sound.exists_source? (sound : m.Sound) {i : Nat} (h : m.loaded.lookup name = some i) :
    ∃ file, m.source? name = some file := by
  obtain ⟨x, hx⟩ := sound name i h
  exact ⟨x.file, source?_eq_some_iff.mpr ⟨i, x, h, hx, rfl⟩⟩

theorem source?_eq_iff_allows {source : Path} (h : ∃ file, m.source? name = some file) :
    m.source? name = some (some source.toString) ↔ m.Allows name source := by
  obtain ⟨file, hfile⟩ := h
  simp [Allows, hfile]

theorem Grows.sound (h : m.Grows made m') (sound : m.Sound) : m'.Sound := by
  intro name i hi
  rcases h.new name i hi with hi | ⟨x, hx, -⟩
  · obtain ⟨x, hx⟩ := sound name i hi
    obtain ⟨x', hx', -⟩ := h.modules i x hx
    exact ⟨x', hx'⟩
  · exact ⟨x, hx⟩

/-- A name goes on to stand for a module of the same file. -/
theorem Grows.source?_eq (h : m.Grows made m') {file : Option String}
    (hfile : m.source? name = some file) : m'.source? name = some file := by
  obtain ⟨i, x, hi, hx, rfl⟩ := source?_eq_some_iff.mp hfile
  obtain ⟨x', hx', develops⟩ := h.modules i x hx
  exact source?_eq_some_iff.mpr ⟨i, x', h.loaded name i hi, hx', develops.file⟩

theorem Grows.source?_cases (h : m.Grows made m') (sound : m.Sound) {file : Option String}
    (hfile : m'.source? name = some file) :
    m.source? name = some file ∨
      m.source? name = none ∧ (m'.edits = m.edits → made name file) := by
  obtain ⟨i, x, hi, hx, rfl⟩ := source?_eq_some_iff.mp hfile
  rcases h.new name i hi with hold | ⟨x', hx', hmade⟩
  · obtain ⟨file, hold⟩ := sound.exists_source? hold
    rw [h.source?_eq hold] at hfile
    exact .inl (hold.trans hfile)
  · cases hx.symm.trans hx'
    cases hold : m.source? name with
    | none => exact .inr ⟨rfl, hmade⟩
    | some file =>
        rw [h.source?_eq hold] at hfile
        exact .inl hfile

end Memory

/-! ### The module next to a command file -/

def Found.file? : Found → Option Path
  | .package _ init => some init
  | .file path => some path
  | .directory _ => none

/-- Next to a command file there is a module of some name, which `source` makes up. -/
structure Sibling (tree : FileTree) (file : Path) (name : String) (source : Path) : Prop where
  plain : IsPlain name
  unoffered : Module.offered? name = none
  other : name ≠ moduleName file
  found : (findIn tree name (Path.ofString file.parent.toString)).bind Found.file? = some source

def Imports (tree : FileTree) (file : Path) (name : String) : Prop :=
  ∃ items names, itemsAt tree (moduleName file) file = .ok items ∧ .useModule name names ∈ items

theorem fileFound_of_first {tree : FileTree} {name : String} {directory source : Path}
    (h : (findIn tree name directory).bind Found.file? = some source) (rest : List Path) :
    fileFound (findModule tree name (directory :: rest)) = some (some source.toString) := by
  obtain ⟨found, hfound, hfile⟩ := Option.bind_eq_some_iff.mp h
  unfold findModule
  rw [List.filterMap_cons_some hfound]
  cases found with
  | package inner file =>
      cases hfile
      rfl
  | file path =>
      cases hfile
      rfl
  | directory path => cases hfile

/-- The directory of a command file is searched first while the file is carried
out, since it is put in front of the search path or stands there already. -/
def SearchedFirst (m : Memory) (file : Path) : Prop :=
  (searchedFrom file m).head? = some file.parent.toString

instance (m : Memory) (file : Path) : Decidable (SearchedFirst m file) :=
  inferInstanceAs (Decidable (_ = _))

theorem SearchedFirst.of_searchPath_eq {m m' : Memory} {file : Path} (h : SearchedFirst m file)
    (same : m'.searchPath = m.searchPath) : SearchedFirst m' file := by
  unfold SearchedFirst searchedFrom toAdd? at h ⊢
  rw [same]
  exact h

theorem Sibling.eq_of_foundOn {tree : FileTree} {file source : Path} {name : String}
    (sibling : Sibling tree file name source) {m : Memory} (first : SearchedFirst m file)
    {found : Option String} (h : FoundOn tree (searchedFrom file m) name found) :
    found = some source.toString := by
  obtain ⟨rest, hrest⟩ := List.head?_eq_some_iff.mp first
  have hfound := h sibling.plain sibling.unoffered
  rw [hrest, List.map_cons, fileFound_of_first sibling.found] at hfound
  exact (Option.some.inj hfound).symm

def IsRunnable (file : Path) : Prop :=
  FileForm.ofName? file.name = some .items ∨ FileForm.ofName? file.name = some .compiled

end Script

open Script

namespace Action

/-! ### Memories while commands are rendered -/

theorem grows_wideFraming :
    Workspace.WideFraming fun w w' => w.memory.Grows (fun _ _ => True) w'.memory where
  refl w := .refl _ w.memory
  trans := .trans
  deliver w _ := .refl _ w.memory
  intake w _ _ := .refl _ w.memory
  request w tree name := (grows_requestAbsolute tree name w.memory).mono fun _ _ _ => trivial
  carryOut _ tree file absent := (grows_carryOut tree file absent).mono fun _ _ _ => trivial

theorem wideFraming_of_loadFraming {R : Memory → Memory → Prop} (F : Memory.LoadFraming R) :
    Workspace.WideFraming fun w w' => R w.memory w'.memory where
  refl w := F.refl w.memory
  trans := F.trans
  deliver w _ := F.refl w.memory
  intake w _ _ := F.refl w.memory
  request w tree name := F.requestAbsolute tree name w.memory
  carryOut w tree file _ := F.carryOut tree (moduleName file) file w.memory

/-- The numbers of classes are not given out again. -/
theorem counted_framing : Memory.LoadFraming fun m m' => m.freshId ≤ m'.freshId where
  refl _ := le_rfl
  trans := le_trans
  ask _ _ := le_rfl
  count _ := Nat.le_succ _
  edit _ _ := le_rfl
  modify m index f := by
    unfold Memory.modify
    split <;> exact le_rfl
  enter _ _ := le_rfl
  forget _ _ := le_rfl
  path _ _ := le_rfl

/-- A command file was loaded before, or it cannot be loaded, or it is carried out. -/
theorem loadFile_cases {path file : Path} {className : String} {w : Workspace}
    (located : (findFile path className).outcome w = (.ok file, w)) :
    (∃ index, w.memory.loaded.lookup (moduleName file) = some index ∧
        (loadFile path className).outcome w = (.ok index, w)) ∨
      w.memory.loaded.lookup (moduleName file) = none ∧
        (¬ IsRunnable file ∧ (∃ fault, (loadFile path className).outcome w = (.error fault, w)) ∨
          IsRunnable file ∧
            ((loadFile path className).outcome w).2.memory =
              ((carryOut w.tree (moduleName file) file).outcome w.memory).2 ∧
            ∀ index, ((loadFile path className).outcome w).1 = .ok index ↔
              ((carryOut w.tree (moduleName file) file).outcome w.memory).1 = .ok index) := by
  unfold loadFile
  rw [outcome_bind, located]
  dsimp only
  rw [outcome_bind, outcome_get]
  dsimp only
  split
  · rename_i index known
    exact .inl ⟨index, known, rfl⟩
  · rename_i absent
    refine .inr ⟨absent, ?_⟩
    unfold loadNew
    rw [outcome_bind, outcome_get]
    dsimp only
    split
    · rename_i named
      exact .inl ⟨by simp [IsRunnable, named], _, rfl⟩
    · rename_i named
      exact .inl ⟨by simp [IsRunnable, named], _, rfl⟩
    · rename_i form hne named
      refine .inr ⟨?_, ?_⟩
      · cases form with
        | items => exact .inl named
        | compiled => exact .inr named
        | library => exact absurd rfl hne
      · rw [outcome_bind, outcome_ofExec, ← Exec.outcome]
        rcases (carryOut w.tree (moduleName file) file).outcome w.memory with ⟨e | index, m'⟩
        · exact ⟨rfl, fun index => ⟨by rintro ⟨⟩, by rintro ⟨⟩⟩⟩
        · exact ⟨rfl, fun index' => ⟨by rintro ⟨⟩; rfl, by rintro ⟨⟩; rfl⟩⟩

/-- A command with a page has its file loaded. -/
theorem exists_loadFile_of_renderCommand {headingLead : String} {d : Descriptor} {path : Path}
    (hpath : d.sourcePath = some path) {w : Workspace} {page : Page}
    (rendered : ((renderCommand headingLead d).outcome w).1 = .ok page) :
    ∃ index, ((loadFile path d.className).outcome w).1 = .ok index := by
  rw [renderCommand_of_sourcePath hpath, outcome_bind] at rendered
  rcases hload : (loadFile path d.className).outcome w with ⟨fault | index, w'⟩
  · rw [hload] at rendered
    cases rendered
  · exact ⟨index, rfl⟩

/-! ### One command after another -/

/-- What is left when commands were rendered one after another, each of them with
a page or a fault. -/
def afterRendering (headingLead : String) (w : Workspace) (ds : List Descriptor) : Workspace :=
  ds.foldl (fun w d => ((renderCommand headingLead d).outcome w).2) w

theorem keeps_afterRendering {R : Workspace → Workspace → Prop} (F : Workspace.WideFraming R)
    (headingLead : String) (w : Workspace) (ds : List Descriptor) :
    R w (afterRendering headingLead w ds) := by
  induction ds generalizing w with
  | nil => exact F.refl w
  | cons d rest ih => exact F.trans (F.renderCommand headingLead d w) (ih _)

def LoadsFile (w : Workspace) (d : Descriptor) (file : Path) : Prop :=
  ∃ path, d.sourcePath = some path ∧ (findFile path d.className).outcome w = (.ok file, w)

structure Beside (w : Workspace) (d : Descriptor) (file : Path) (name : String)
    (source : Path) : Prop where
  sound : w.memory.Sound
  loads : LoadsFile w d file
  first : SearchedFirst w.memory file
  sibling : Sibling w.tree file name source

section Rendering

variable {headingLead : String} {d : Descriptor} {file source : Path} {name : String}
  {w w' : Workspace}

/-- This stays so while the files and the search path are left alone and modules are
added. -/
theorem Beside.of_grows {made : String → Option String → Prop} (h : Beside w d file name source)
    (same : w'.tree = w.tree) (grown : w.memory.Grows made w'.memory)
    (unedited : w'.memory.edits = w.memory.edits) :
    Beside w' d file name source where
  sound := grown.sound h.sound
  loads := by
    obtain ⟨path, hpath, located⟩ := h.loads
    refine ⟨path, hpath, ?_⟩
    rw [findFile_eq_ok_iff] at located ⊢
    rw [same]
    exact ⟨rfl, located.2⟩
  first := h.first.of_searchPath_eq (grown.searchPath unedited)
  sibling := by
    rw [same]
    exact h.sibling

def LeavesPath (headingLead : String) (w : Workspace) (d : Descriptor) : Prop :=
  ((renderCommand headingLead d).outcome w).2.memory.edits = w.memory.edits

/-- What a name stands for after a command was rendered: what it stood for
before, or the module next to the command file. -/
theorem Beside.source?_cases (h : Beside w d file name source)
    (leaves : LeavesPath headingLead w d) {found : Option String}
    (hfound : ((renderCommand headingLead d).outcome w).2.memory.source? name = some found) :
    w.memory.source? name = some found ∨
      w.memory.source? name = none ∧ found = some source.toString := by
  obtain ⟨path, hpath, located⟩ := h.loads
  unfold LeavesPath at leaves
  rw [memory_renderCommand hpath] at hfound leaves
  rcases loadFile_cases located with
    ⟨index, -, hload⟩ | ⟨absent, ⟨-, fault, hload⟩ | ⟨-, hload, -⟩⟩
  all_goals rw [hload] at hfound leaves
  · exact .inl hfound
  · exact .inl hfound
  · have grown := grows_carryOut w.tree file absent
    rcases grown.source?_cases h.sound hfound with old | ⟨new, made⟩
    · exact .inl old
    rcases made leaves with own | searched
    -- The module of the command file itself has another name.
    · exact absurd own h.sibling.other
    · exact .inr ⟨new, h.sibling.eq_of_foundOn h.first searched⟩

/-- After a command was rendered, the name of a module next to its file stands
for that module exactly if it did not stand for another one before. -/
theorem Beside.allows_iff (h : Beside w d file name source)
    (leaves : LeavesPath headingLead w d) :
    ((renderCommand headingLead d).outcome w).2.memory.Allows name source ↔
      w.memory.Allows name source := by
  constructor
  · intro allows found hfound
    have grown := grows_wideFraming.renderCommand headingLead d w
    exact allows found (grown.source?_eq hfound)
  · intro allows found hfound
    rcases h.source?_cases leaves hfound with old | ⟨-, new⟩
    · exact allows found old
    · exact new

/-- A command whose file is carried out to its end has the modules that the file
imports. -/
theorem Beside.exists_source? (h : Beside w d file name source)
    (absent : w.memory.loaded.lookup (moduleName file) = none)
    (imports : Imports w.tree file name) {page : Page}
    (rendered : ((renderCommand headingLead d).outcome w).1 = .ok page) :
    ∃ found, ((renderCommand headingLead d).outcome w).2.memory.source? name = some found := by
  obtain ⟨path, hpath, located⟩ := h.loads
  obtain ⟨items, names, read, hmem⟩ := imports
  obtain ⟨index, hindex⟩ := exists_loadFile_of_renderCommand hpath rendered
  rw [memory_renderCommand hpath]
  rcases loadFile_cases located with
    ⟨i, known, -⟩ | ⟨-, ⟨-, fault, hload⟩ | ⟨-, hload, hran⟩⟩
  · rw [absent] at known
    cases known
  · rw [hload] at hindex
    cases hindex
  · rw [hload]
    have ran := (hran index).mp hindex
    rcases hrun : (carryOut w.tree (moduleName file) file).outcome w.memory with ⟨e | i, m'⟩
    all_goals
      rw [hrun] at ran
      cases ran
    obtain ⟨i, hi⟩ := exists_lookup_of_carryOut_ok h.sibling.plain read hmem hrun
    have grown := grows_carryOut w.tree file absent
    rw [hrun] at grown
    exact (grown.sound h.sound).exists_source? hi

/-- The ends of a command that is rendered after others, if it asks for no name that these
have taken. -/
theorem ending_afterRendering {others : List Descriptor} (fresh : w.memory.Fresh)
    (unlogged : ∀ place, ¬ w.hub.LogsTo place) (loads : LoadsFile w d file)
    (unedited : (afterRendering headingLead w others).memory.edits = w.memory.edits)
    (whole : (afterRendering headingLead w others).memory.Whole)
    (free : (afterRendering headingLead w others).memory.Free (moduleName file))
    (unasked : (afterRendering headingLead w others).memory.Unasked
      ((renderCommand headingLead d).outcome w).2.memory) :
    ∃ r : Renumbering,
      ((renderCommand headingLead d).outcome (afterRendering headingLead w others)).1 =
        r.ending id ((renderCommand headingLead d).outcome w).1 := by
  obtain ⟨path, hpath, located⟩ := loads
  have grown := keeps_afterRendering grows_wideFraming headingLead w others
  have counted :=
    keeps_afterRendering (wideFraming_of_loadFraming counted_framing) headingLead w others
  have same :=
    (keeps_afterRendering Workspace.onlyLogs_wideFraming headingLead w others).tree.still unlogged
  exact ⟨_, renderCommand_meets whole ⟨same, fresh.atop counted (grown.searchPath unedited)⟩
    hpath located free unasked⟩

/-- A command rendered alone and after others. It comes to the same page or to the same
class that is not found, unless it asks for a name that the others have taken. Alone, it
gets a module next to its file; after the others, it does exactly if these have not left
another module under that name. If its file imports the module and the command is
rendered, the module is there under its name. -/
theorem siblings_resolve_iff_untaken {others : List Descriptor} (fresh : w.memory.Fresh)
    (unlogged : ∀ place, ¬ w.hub.LogsTo place) (loads : LoadsFile w d file)
    (unedited : (afterRendering headingLead w others).memory.edits = w.memory.edits) :
    let alone := (renderCommand headingLead d).outcome w
    let before := afterRendering headingLead w others
    let after := (renderCommand headingLead d).outcome before
    (before.memory.Whole → before.memory.Free (moduleName file) →
        (∀ name ∈ alone.2.memory.asked, before.memory.Free name) →
        (∀ page, after.1 = .ok page ↔ alone.1 = .ok page) ∧
          ∀ className reason, after.1 = .error (.classNotFound className reason) ↔
            alone.1 = .error (.classNotFound className reason)) ∧
      (LeavesPath headingLead w d → LeavesPath headingLead before d → SearchedFirst w.memory file →
        ∀ name source, Sibling w.tree file name source →
          alone.2.memory.Allows name source ∧
            (after.2.memory.Allows name source ↔ before.memory.Allows name source) ∧
            (Imports w.tree file name →
              (∀ page, alone.1 = .ok page →
                alone.2.memory.source? name = some (some source.toString)) ∧
              (∀ page, after.1 = .ok page →
                before.memory.Free (moduleName file) →
                (after.2.memory.source? name = some (some source.toString) ↔
                  before.memory.Allows name source)))) := by
  intro alone before after
  refine ⟨fun whole free unasked => ?_, fun leaves leaves' first name source sibling => ?_⟩
  · obtain ⟨r, same⟩ := ending_afterRendering fresh unlogged loads unedited whole free unasked
    exact ⟨fun page => same ▸ r.ending_eq_ok_iff,
      fun className reason => same ▸ r.ending_eq_classNotFound_iff⟩
  have nothing (x : String) : w.memory.loaded.lookup x = none := by rw [fresh.loaded]; rfl
  have sound : w.memory.Sound := by
    intro x i hi
    rw [nothing x] at hi
    cases hi
  have beside : Beside w d file name source := ⟨sound, loads, first, sibling⟩
  -- Nothing is loaded at first, so the name does not stand for anything else.
  have allowsAlone : alone.2.memory.Allows name source := by
    refine (beside.allows_iff leaves).mpr fun found hfound => ?_
    rw [Memory.source?, nothing name] at hfound
    cases hfound
  have same : before.tree = w.tree :=
    (keeps_afterRendering Workspace.onlyLogs_wideFraming headingLead w others).tree.still unlogged
  -- After the others the same directory is searched first, but the name may be taken.
  have later : Beside before d file name source :=
    beside.of_grows same (keeps_afterRendering grows_wideFraming headingLead w others) unedited
  have allowsAfter := later.allows_iff leaves'
  refine ⟨allowsAlone, allowsAfter, fun imports => ⟨fun page rendered => ?_, ?_⟩⟩
  · have known := beside.exists_source? (nothing _) imports rendered
    exact (Memory.source?_eq_iff_allows known).mpr allowsAlone
  · intro page rendered absent
    have known := later.exists_source? absent (same ▸ imports) rendered
    exact (Memory.source?_eq_iff_allows known).trans allowsAfter

end Rendering

/-! ### Commands with helpers -/

def helpersWith (doc : String) : Content :=
  .script [.classBlock "Base" [] .absent [.define .plain "run" (.text doc.toList)]]

/-- A command file with a class that has all its methods from the base class of
a module next to it. -/
def commandOver (helper : String) : Content :=
  .script [.useModule helper ["Base"], .classBlock "Cmd" ["Base"] .absent []]

/-- Two commands whose helpers have one name, and one whose helper has another. -/
def helperProject : Workspace where
  tree :=
    { entries :=
        [(["a"], .directory), (["a", "cmd.py"], .file (commandOver "helpers")),
          (["a", "helpers.py"], .file (helpersWith "Of a.")),
          (["b"], .directory), (["b", "cmd.py"], .file (commandOver "helpers")),
          (["b", "helpers.py"], .file (helpersWith "Of b.")),
          (["c"], .directory), (["c", "cmd.py"], .file (commandOver "tools")),
          (["c", "tools.py"], .file (helpersWith "Of c."))]
      here := [] }

def commandIn (directory : String) : Descriptor where
  commandName := directory
  className := "Cmd"
  sourceFile := some (Path.ofString "cmd.py")
  baseDirectory := Path.ofString directory

/-- The module of the first command is left for the second one, and the third one is
rendered as it would be alone. -/

theorem helpers_taken_by_first_command :
    let before := afterRendering "wp" helperProject [commandIn "a"]
    let alone := (renderCommand "wp" (commandIn "b")).outcome helperProject
    let after := (renderCommand "wp" (commandIn "b")).outcome before
    let other := (renderCommand "wp" (commandIn "c")).outcome before
    alone.2.memory.source? "helpers" = some (some "/b/helpers.py") ∧
      ¬ after.2.memory.Allows "helpers" ⟨.slash, ["b", "helpers.py"]⟩ ∧
      other.1 = .ok ⟨"c", "# wp c run\n\nOf c.\n\n\n".toList⟩ := by
  have fresh : helperProject.memory.Fresh := ⟨rfl, rfl, le_rfl⟩
  have unlogged (place : List String) : ¬ helperProject.hub.LogsTo place := by
    rintro ⟨id, level, hmem⟩
    cases hmem
  have loads : LoadsFile helperProject (commandIn "b") ⟨.slash, ["b", "cmd.py"]⟩ :=
    ⟨_, rfl, findFile_eq_ok_iff.mpr ⟨rfl, ["b", "cmd.py"], rfl, rfl, rfl⟩⟩
  have loadsOther : LoadsFile helperProject (commandIn "c") ⟨.slash, ["c", "cmd.py"]⟩ :=
    ⟨_, rfl, findFile_eq_ok_iff.mpr ⟨rfl, ["c", "cmd.py"], rfl, rfl, rfl⟩⟩
  have sibling : Sibling helperProject.tree ⟨.slash, ["b", "cmd.py"]⟩ "helpers"
      ⟨.slash, ["b", "helpers.py"]⟩ :=
    ⟨by decide +kernel, rfl, by decide +kernel, by decide +kernel⟩
  have imports : Imports helperProject.tree ⟨.slash, ["b", "cmd.py"]⟩ "helpers" :=
    ⟨_, ["Base"], rfl, List.mem_cons_self⟩
  have first : SearchedFirst helperProject.memory ⟨.slash, ["b", "cmd.py"]⟩ := by decide +kernel
  obtain ⟨⟨page, leaves⟩, otherPage, asked⟩ :
      let alone := (renderCommand "wp" (commandIn "b")).outcome helperProject
      let other := (renderCommand "wp" (commandIn "c")).outcome helperProject
      (alone.1.toOption = some ⟨"b", "# wp b run\n\nOf b.\n\n\n".toList⟩ ∧
          alone.2.memory.edits = []) ∧
        other.1.toOption = some ⟨"c", "# wp c run\n\nOf c.\n\n\n".toList⟩ ∧
          other.2.memory.asked = ["tools", "tools"] := by
    decide +kernel
  obtain ⟨unedited, leaves', taken, complete, free, untaken⟩ :
      let before := afterRendering "wp" helperProject [commandIn "a"]
      before.memory.edits = [] ∧
        ((renderCommand "wp" (commandIn "b")).outcome before).2.memory.edits = [] ∧
        before.memory.source? "helpers" = some (some "/a/helpers.py") ∧
        before.memory.loaded.all
          (fun p => (before.memory.module? p.2).any Module.complete) = true ∧
        before.memory.loaded.lookup (moduleName ⟨.slash, ["c", "cmd.py"]⟩) = none ∧
        before.memory.loaded.lookup "tools" = none := by
    decide +kernel
  obtain ⟨-, resolve⟩ := siblings_resolve_iff_untaken fresh unlogged loads unedited
  obtain ⟨-, allowed, imported⟩ := resolve leaves (leaves'.trans unedited.symm) first _ _ sibling
  obtain ⟨same, -⟩ := siblings_resolve_iff_untaken fresh unlogged loadsOther unedited
  have unasked : ∀ name ∈ ((renderCommand "wp" (commandIn "c")).outcome
      helperProject).2.memory.asked,
        (afterRendering "wp" helperProject [commandIn "a"]).memory.Free name := by
    rw [asked]
    exact List.forall_mem_cons.mpr ⟨untaken, List.forall_mem_singleton.mpr untaken⟩
  obtain ⟨pages, -⟩ := same (Memory.whole_of_all complete) free unasked
  refine ⟨(imported imports).1 _ (eq_ok_of_toOption page), fun left => ?_,
    (pages _).mpr (eq_ok_of_toOption otherPage)⟩
  exact absurd (allowed.mp left _ taken) (by decide +kernel)

/-- Alone the second command documents the method that the module next to its file
has; after the first command it documents that of the first. -/
theorem second_command_documents_first_helpers :
    let alone := (renderCommand "wp" (commandIn "b")).outcome helperProject
    let before := afterRendering "wp" helperProject [commandIn "a"]
    let after := (renderCommand "wp" (commandIn "b")).outcome before
    alone.1.toOption.map Page.content = some "# wp b run\n\nOf b.\n\n\n".toList ∧
      after.1.toOption.map Page.content = some "# wp b run\n\nOf a.\n\n\n".toList := by
  decide +kernel

end Action

end CommandManual
