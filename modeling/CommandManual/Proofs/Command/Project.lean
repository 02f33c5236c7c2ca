import CommandManual.Command.Project
import CommandManual.Proofs.Command.Manifest
import CommandManual.Proofs.Frame

/-!
The commands of a project. The manifests are read in the order in which they are
found, what they declare is put together, and of the declarations of one name the
first one stays. A manifest is read when its turn comes, so it counts as the log
has left it by then; where no manifest is a log file, all are read as they are at
the start.
-/

namespace CommandManual

/-! ### First declarations -/

def firstDeclarations : List Descriptor → List Descriptor
  | [] => []
  | d :: rest => d :: (firstDeclarations rest).filter fun k => k.commandName ≠ d.commandName

theorem firstDeclarations_sublist (ds : List Descriptor) :
    (firstDeclarations ds).Sublist ds := by
  induction ds with
  | nil => exact .slnil
  | cons d rest ih => exact (List.filter_sublist.trans ih).cons_cons d

theorem nodup_names_firstDeclarations (ds : List Descriptor) :
    ((firstDeclarations ds).map Descriptor.commandName).Nodup := by
  induction ds with
  | nil => exact .nil
  | cons d rest ih =>
      rw [firstDeclarations, List.map_cons, List.nodup_cons]
      refine ⟨?_, ih.sublist (List.filter_sublist.map _)⟩
      intro hmem
      obtain ⟨k, hk, hname⟩ := List.mem_map.mp hmem
      simpa [hname] using (List.mem_filter.mp hk).2

/-- A declaration stays exactly when no declaration before it has its name. -/
theorem mem_firstDeclarations_iff {d : Descriptor} {ds : List Descriptor} :
    d ∈ firstDeclarations ds ↔
      ∃ before after, ds = before ++ d :: after ∧
        ∀ k ∈ before, k.commandName ≠ d.commandName := by
  induction ds with
  | nil => simp [firstDeclarations]
  | cons first rest ih =>
      rw [firstDeclarations, List.mem_cons, List.mem_filter, ih]
      constructor
      · rintro (rfl | ⟨⟨before, after, rfl, hbefore⟩, hname⟩)
        · exact ⟨[], rest, rfl, by simp⟩
        · refine ⟨first :: before, after, rfl, ?_⟩
          intro k hk
          rcases List.mem_cons.mp hk with rfl | hk
          · exact fun h => (of_decide_eq_true hname) h.symm
          · exact hbefore k hk
      · rintro ⟨before, after, hds, hbefore⟩
        cases before with
        | nil =>
            cases hds
            exact .inl rfl
        | cons k before =>
            cases hds
            refine .inr ⟨⟨before, after, rfl, fun k hk => ?_⟩, ?_⟩
            · exact hbefore k (List.mem_cons_of_mem _ hk)
            · exact decide_eq_true fun h => hbefore first List.mem_cons_self h.symm

theorem exists_mem_firstDeclarations {d : Descriptor} {ds : List Descriptor} (h : d ∈ ds) :
    ∃ k ∈ firstDeclarations ds, k.commandName = d.commandName := by
  induction ds with
  | nil => cases h
  | cons first rest ih =>
      rw [firstDeclarations]
      by_cases hname : first.commandName = d.commandName
      · exact ⟨first, List.mem_cons_self, hname⟩
      · rcases List.mem_cons.mp h with rfl | h
        · exact absurd rfl hname
        · obtain ⟨k, hk, hkname⟩ := ih h
          refine ⟨k, List.mem_cons_of_mem first (List.mem_filter.mpr ⟨hk, ?_⟩), hkname⟩
          exact decide_eq_true fun h => hname (h.symm.trans hkname)

theorem mem_names_firstDeclarations_iff {name : String} {ds : List Descriptor} :
    name ∈ (firstDeclarations ds).map Descriptor.commandName ↔
      name ∈ ds.map Descriptor.commandName := by
  constructor
  · exact fun h => ((firstDeclarations_sublist ds).map _).subset h
  · intro h
    obtain ⟨d, hd, rfl⟩ := List.mem_map.mp h
    obtain ⟨k, hk, hname⟩ := exists_mem_firstDeclarations hd
    exact List.mem_map.mpr ⟨k, hk, hname⟩

theorem firstDeclarations_append (ds more : List Descriptor) :
    firstDeclarations (ds ++ more) =
      firstDeclarations ds ++
        (firstDeclarations more).filter fun k =>
          k.commandName ∉ ds.map Descriptor.commandName := by
  induction ds with
  | nil => simp [firstDeclarations]
  | cons d rest ih =>
      rw [List.cons_append, firstDeclarations, firstDeclarations, ih, List.filter_append,
        List.filter_filter, List.cons_append]
      congr 2
      refine List.filter_congr fun k _ => ?_
      simp only [List.map_cons, List.mem_cons, not_or, Bool.decide_and]

def newDeclarations (seen : List String) (ds : List Descriptor) : List Descriptor :=
  (firstDeclarations ds).filter fun k => k.commandName ∉ seen

theorem newDeclarations_nil (ds : List Descriptor) :
    newDeclarations [] ds = firstDeclarations ds := by
  simp [newDeclarations]

theorem newDeclarations_cons_of_mem {seen : List String} {d : Descriptor}
    (h : d.commandName ∈ seen) (rest : List Descriptor) :
    newDeclarations seen (d :: rest) = newDeclarations seen rest := by
  unfold newDeclarations
  rw [firstDeclarations, List.filter_cons_of_neg (by simpa using h), List.filter_filter]
  refine List.filter_congr fun k _ => ?_
  grind

theorem newDeclarations_cons_of_not_mem {seen : List String} {d : Descriptor}
    (h : d.commandName ∉ seen) (rest : List Descriptor) :
    newDeclarations seen (d :: rest) = d :: newDeclarations (d.commandName :: seen) rest := by
  unfold newDeclarations
  rw [firstDeclarations, List.filter_cons_of_pos (by simpa using h), List.filter_filter]
  congr 1
  refine List.filter_congr fun k _ => ?_
  grind

def seenAfter (seen : List String) (ds : List Descriptor) : List String :=
  ((newDeclarations seen ds).map Descriptor.commandName).reverse ++ seen

theorem mem_seenAfter_iff {name : String} {seen : List String} {ds : List Descriptor} :
    name ∈ seenAfter seen ds ↔ name ∈ seen ∨ name ∈ ds.map Descriptor.commandName := by
  unfold seenAfter newDeclarations
  rw [List.mem_append, List.mem_reverse, ← @mem_names_firstDeclarations_iff name ds]
  by_cases h : name ∈ seen
  · simp [h]
  · simp only [h, or_false, false_or, List.mem_map, List.mem_filter]
    constructor
    · rintro ⟨d, ⟨hd, -⟩, hname⟩
      exact ⟨d, hd, hname⟩
    · rintro ⟨d, hd, rfl⟩
      exact ⟨d, ⟨hd, decide_eq_true h⟩, rfl⟩

theorem newDeclarations_append (seen : List String) (ds more : List Descriptor) :
    newDeclarations seen (ds ++ more) =
      newDeclarations seen ds ++ newDeclarations (seenAfter seen ds) more := by
  unfold newDeclarations
  rw [firstDeclarations_append, List.filter_append, List.filter_filter]
  congr 1
  refine List.filter_congr fun k _ => ?_
  simp only [mem_seenAfter_iff]
  grind

namespace Manifest

/-! ### What a manifest adds to a project -/

/-- What the manifest in a directory adds to a project: a plugin that has a fault
of the configuration adds nothing. -/
def contribution (tree : FileTree) (source : Path) (name : String) (directory : Path) :
    Except Fault (List Descriptor) :=
  match commands tree directory name with
  | .error (.configuration component reason) =>
    if directory = source then .error (.configuration component reason) else .ok []
  | result => result

theorem contribution_congr {tree tree' : FileTree} {directory : Path} {name : String}
    (h : commands tree' directory name = commands tree directory name) (source : Path) :
    contribution tree' source name directory = contribution tree source name directory := by
  unfold contribution
  generalize commands tree' directory name = x at h ⊢
  rw [h]

theorem contribution_source (tree : FileTree) (source : Path) (name : String) :
    contribution tree source name source = commands tree source name := by
  unfold contribution
  split <;> simp [*]

theorem contribution_eq_ok_iff {tree : FileTree} {source directory : Path} {name : String}
    {ds : List Descriptor} :
    contribution tree source name directory = .ok ds ↔
      commands tree directory name = .ok ds ∨
        directory ≠ source ∧ ds = [] ∧ ∃ component reason,
          commands tree directory name = .error (.configuration component reason) := by
  unfold contribution
  split
  · rename_i component reason h
    split
    · rename_i hsource
      subst hsource
      simp [h]
    · rename_i hsource
      simp [h, hsource, eq_comm]
  · rename_i result h
    constructor
    · exact .inl
    · rintro (h' | ⟨-, -, component, reason, h'⟩)
      · exact h'
      · exact absurd h' (h component reason)

theorem contribution_of_not_configuration {tree : FileTree} {source directory : Path}
    {name : String}
    (h : ∀ component reason,
      commands tree directory name = .error (.configuration component reason) → False) :
    contribution tree source name directory = commands tree directory name := by
  unfold contribution
  split
  · rename_i component reason he
    exact absurd he (h component reason)
  · rfl

theorem baseDirectory_of_contribution {tree : FileTree} {source directory : Path}
    {name : String} {ds : List Descriptor}
    (h : contribution tree source name directory = .ok ds) :
    ∀ d ∈ ds, d.baseDirectory = directory := by
  rcases contribution_eq_ok_iff.mp h with h | ⟨-, rfl, -⟩
  · exact baseDirectory_of_commands h
  · intro d hd
    cases hd

theorem run_read_fst (tree : FileTree) (directory : Path) (name : String)
    (records : List Log.Record) :
    (StateT.run (ExceptT.run (read tree directory name)) records).1 =
      commands tree directory name := by
  rw [read, Traced.run_bind, Traced.run_ofExcept]
  rcases commands tree directory name with e | found
  · rfl
  · simp only [Traced.run_bind, Traced.run_note, Traced.run_pure]

theorem run_readPlugin_fst {tree : FileTree} {source directory : Path} {name : String}
    (hne : directory ≠ source) (records : List Log.Record) :
    (StateT.run (ExceptT.run (readPlugin tree directory name)) records).1 =
      contribution tree source name directory := by
  unfold readPlugin
  dsimp only
  split
  · rename_i component reason h
    rw [contribution_eq_ok_iff.mpr (.inr ⟨hne, rfl, component, reason, h⟩)]
    simp only [Traced.run_bind, Traced.run_note, Traced.run_pure]
  · rename_i h
    have hread := run_read_fst tree directory name records
    rw [contribution_of_not_configuration h, Traced.run_bind]
    rcases hrun : StateT.run (ExceptT.run (read tree directory name)) records
      with ⟨e | found, records'⟩
    all_goals rw [hrun] at hread
    · exact hread
    · rw [← hread]
      dsimp only
      split
      · simp only [Traced.run_bind, Traced.run_note, Traced.run_pure]
      · simp only [Traced.run_pure]

theorem outcome_readTurn_fst (tree : FileTree) (source directory : Path) (name : String) :
    (if directory = source then read tree directory name
      else readPlugin tree directory name).outcome.1 =
        contribution tree source name directory := by
  split
  · rename_i h
    subst h
    rw [contribution_source]
    exact run_read_fst tree directory name []
  · rename_i h
    exact run_readPlugin_fst h []

/-- Of some declarations the new ones stay, and their names are seen then. -/
theorem run_keepNew_fst (directory : Path) (seen : List String) (ds : List Descriptor)
    (records : List Log.Record) :
    (StateT.run (ExceptT.run (keepNew directory seen ds)) records).1 =
      .ok (newDeclarations seen ds, seenAfter seen ds) := by
  induction ds generalizing seen records with
  | nil => rfl
  | cons d rest ih =>
      unfold keepNew
      simp only [List.contains_eq_mem, decide_eq_true_eq]
      split
      · rename_i hseen
        simp only [Traced.run_bind, Traced.run_note, ih]
        rw [seenAfter, seenAfter, newDeclarations_cons_of_mem hseen]
      · rename_i hnew
        have later := ih (d.commandName :: seen) records
        rw [seenAfter, newDeclarations_cons_of_not_mem hnew, Traced.run_bind]
        rcases hrun : StateT.run (ExceptT.run (keepNew directory (d.commandName :: seen) rest))
          records with ⟨e | result, records'⟩
        all_goals
          rw [hrun] at later
          cases later
        simp only [Traced.run_pure, seenAfter, List.map_cons, List.reverse_cons,
          List.append_assoc, List.singleton_append]

/-! ### The directories of a project -/

theorem accessed_eq_ok_iff {α : Type} {x : Except AccessError α} {a : α} :
    accessed x = .ok a ↔ x = .ok a := by
  cases x <;> simp [accessed]

theorem isFile_of_isPlugin {tree : FileTree} {name : String} {directory : Path}
    (h : isPlugin tree name directory = .ok true) :
    tree.isFile (pathIn directory name) = .ok true := by
  obtain ⟨isDirectory, -, hfile⟩ := except_bind_eq_ok.mp h
  cases isDirectory with
  | false => cases hfile
  | true => exact accessed_eq_ok_iff.mp hfile

def pluginNames (tree : FileTree) (source : Path) (name : String) : List String :=
  (tree.list source).filter fun child =>
    (isPlugin tree name (source.child child)).toOption = some true

theorem mem_pluginNames_iff {tree : FileTree} {source : Path} {name child : String} :
    child ∈ pluginNames tree source name ↔
      child ∈ tree.list source ∧ isPlugin tree name (source.child child) = .ok true := by
  rw [pluginNames, List.mem_filter, decide_eq_true_iff]
  refine and_congr_right fun _ => ⟨eq_ok_of_toOption, fun h => ?_⟩
  rw [h]
  rfl

theorem pluginsAmong_eq_ok {tree : FileTree} {source : Path} {name : String}
    {names : List String} {plugins : List Path}
    (h : pluginsAmong tree name (names.map source.child) = .ok plugins) :
    plugins = (names.filter fun child =>
      (isPlugin tree name (source.child child)).toOption = some true).map source.child := by
  induction names generalizing plugins with
  | nil =>
      cases h
      rfl
  | cons child rest ih =>
      obtain ⟨here, hhere, h⟩ := except_bind_eq_ok.mp h
      obtain ⟨others, hothers, h⟩ := except_bind_eq_ok.mp h
      cases h
      rw [ih hothers, List.filter_cons, hhere]
      cases here <;> rfl

/-- The directories that are found: the project's own, if it has a manifest, and
those of the plugins, if they are asked for. -/
theorem directories_eq_pluginNames {tree : FileTree} {source : Path} {name : String}
    {plugins : Bool} {found : List Path} (h : directories tree source name plugins = .ok found) :
    ∃ own, tree.isFile (pathIn source name) = .ok own ∧
      found = (if own then [source] else []) ++
        if plugins then (pluginNames tree source name).map source.child else [] := by
  obtain ⟨isDirectory, -, h⟩ := except_bind_eq_ok.mp h
  split at h
  · cases h
  obtain ⟨own, hown, h⟩ := except_bind_eq_ok.mp h
  obtain ⟨others, hothers, h⟩ := except_bind_eq_ok.mp h
  have hnames : others = if plugins then (pluginNames tree source name).map source.child
      else [] := by
    cases plugins with
    | false =>
        cases hothers
        rfl
    | true => exact pluginsAmong_eq_ok hothers
  refine ⟨own, accessed_eq_ok_iff.mp hown, ?_⟩
  rw [← hnames]
  generalize (if own then [source] else []) ++ others = all at h ⊢
  cases all with
  | nil => cases h
  | cons first rest =>
      cases h
      rfl

/-- A path is no path of something inside it. -/
theorem child_ne (source : Path) (child : String) : source.child child ≠ source := by
  intro h
  have length := congrArg (fun p => p.parts.length) h
  simp [Path.child] at length

theorem directories_eq_ok {tree : FileTree} {source : Path} {name : String} {plugins : Bool}
    {found : List Path} (h : directories tree source name plugins = .ok found) :
    ∃ own others, tree.isFile (pathIn source name) = .ok own ∧
      found = (if own then [source] else []) ++ others ∧
      ∀ directory ∈ others,
        directory ≠ source ∧ tree.isFile (pathIn directory name) = .ok true := by
  obtain ⟨own, hown, hfound⟩ := directories_eq_pluginNames h
  refine ⟨own, _, hown, hfound, fun directory hmem => ?_⟩
  cases plugins with
  | false => cases hmem
  | true =>
      obtain ⟨child, hchild, rfl⟩ := List.mem_map.mp hmem
      exact ⟨child_ne source child, isFile_of_isPlugin (mem_pluginNames_iff.mp hchild).2⟩

theorem isFile_of_mem_directories {tree : FileTree} {source : Path} {name : String}
    {plugins : Bool} {found : List Path} (h : directories tree source name plugins = .ok found) :
    ∀ directory ∈ found, tree.isFile (pathIn directory name) = .ok true := by
  obtain ⟨own, others, hown, rfl, hothers⟩ := directories_eq_ok h
  intro directory hmem
  rcases List.mem_append.mp hmem with hmem | hmem
  · cases own with
    | false => cases hmem
    | true =>
        obtain rfl : directory = source := List.mem_singleton.mp hmem
        exact hown
  · exact (hothers directory hmem).2

theorem directories_congr {tree tree' : FileTree} (h : tree.SameShape tree') (source : Path)
    (name : String) (plugins : Bool) :
    directories tree' source name plugins = directories tree source name plugins := by
  have among (paths : List Path) :
      pluginsAmong tree' name paths = pluginsAmong tree name paths := by
    induction paths with
    | nil => rfl
    | cons path rest ih =>
        simp only [pluginsAmong, isPlugin, h.isDirectory, h.isFile, ih]
  simp only [directories, pluginsOf, h.isDirectory, h.isFile, h.list, among]

end Manifest

namespace Action

/-! ### Manifests in their turn -/

variable {source : Path} {name : String} {w w' : Workspace}

def ReadInTurn (w : Workspace) (source : Path) (name : String) (directory : Path)
    (result : Except Fault (List Descriptor)) : Prop :=
  ∃ tree, w.MayLog tree ∧ Manifest.contribution tree source name directory = result

theorem onlyLogs_of_ofTraced {α : Type} {x : Traced α} {result : Except Fault α}
    (h : (ofTraced x).outcome w = (result, w')) : x.outcome.1 = result ∧ w.OnlyLogs w' := by
  have kept := Workspace.onlyLogs_framing.ofTraced x w
  rw [h] at kept
  exact ⟨congrArg Prod.fst h, kept⟩

theorem ReadInTurn.of_onlyLogs {directory : Path} {result : Except Fault (List Descriptor)}
    (h : w.OnlyLogs w') (read : ReadInTurn w' source name directory result) :
    ReadInTurn w source name directory result := by
  obtain ⟨tree, htree, hread⟩ := read
  exact ⟨tree, h.tree.trans h.hub htree, hread⟩

/-- One round of reading: the manifest of a directory, whatever directories come after
it. -/
theorem gatherCommands_turn (seen : List String) (directory : Path) (w : Workspace) :
    (∃ e, Manifest.contribution w.tree source name directory = .error e ∧
        ∀ rest, ((gatherCommands source name seen (directory :: rest)).outcome w).1 =
          .error e) ∨
      ∃ found w₁, Manifest.contribution w.tree source name directory = .ok found ∧
        w.OnlyLogs w₁ ∧
        ∀ rest, (gatherCommands source name seen (directory :: rest)).outcome w =
          ((newDeclarations seen found ++ ·) <$>
            gatherCommands source name (seenAfter seen found) rest).outcome w₁ := by
  simp only [gatherCommands, outcome_bind, outcome_get]
  rcases hread : (ofTraced (if directory = source then Manifest.read w.tree directory name
    else Manifest.readPlugin w.tree directory name)).outcome w with ⟨e | found, w₁⟩
  all_goals
    obtain ⟨hresult, hlog⟩ := onlyLogs_of_ofTraced hread
    rw [Manifest.outcome_readTurn_fst] at hresult
  · exact .inl ⟨e, hresult, fun _ => rfl⟩
  · -- Dropping names that occurred before cannot fail; it only logs them.
    dsimp only
    rcases hkeep : (ofTraced (Manifest.keepNew directory seen found)).outcome w₁
      with ⟨e | kept, w₂⟩
    all_goals
      obtain ⟨hkept, hlog'⟩ := onlyLogs_of_ofTraced hkeep
      rw [Traced.outcome, Manifest.run_keepNew_fst] at hkept
      cases hkept
    refine .inr ⟨found, w₂, hresult, hlog.trans hlog', fun rest => ?_⟩
    rw [map_eq_pure_bind, outcome_bind]

/-- One round of reading: the manifest of a directory, and then the others. -/
theorem gatherCommands_cons_cases (seen : List String) (directory : Path) (rest : List Path)
    (w : Workspace) :
    (∃ e, Manifest.contribution w.tree source name directory = .error e ∧
        ((gatherCommands source name seen (directory :: rest)).outcome w).1 = .error e) ∨
      ∃ found w₁, Manifest.contribution w.tree source name directory = .ok found ∧
        w.OnlyLogs w₁ ∧
        (gatherCommands source name seen (directory :: rest)).outcome w =
          ((newDeclarations seen found ++ ·) <$>
            gatherCommands source name (seenAfter seen found) rest).outcome w₁ := by
  rcases gatherCommands_turn seen directory w with
    ⟨e, hread, hfail⟩ | ⟨found, w₁, hread, hlog, hrun⟩
  · exact .inl ⟨e, hread, hfail rest⟩
  · exact .inr ⟨found, w₁, hread, hlog, hrun rest⟩

/-- When all directories can be read, the first one is read in the same way whatever comes
after it. -/
theorem gatherCommands_cons_eq_ok {seen : List String} {directory : Path} {rest : List Path}
    {ds : List Descriptor}
    (h : ((gatherCommands source name seen (directory :: rest)).outcome w).1 = .ok ds) :
    ∃ found w₁ more, Manifest.contribution w.tree source name directory = .ok found ∧
      w.OnlyLogs w₁ ∧
      ((gatherCommands source name (seenAfter seen found) rest).outcome w₁).1 = .ok more ∧
      ds = newDeclarations seen found ++ more ∧
      ∀ rest', (gatherCommands source name seen (directory :: rest')).outcome w =
        ((newDeclarations seen found ++ ·) <$>
          gatherCommands source name (seenAfter seen found) rest').outcome w₁ := by
  rcases gatherCommands_turn seen directory w with
    ⟨e, -, hfail⟩ | ⟨found, w₁, hread, hlog, hrun⟩
  · rw [hfail] at h
    cases h
  · rw [hrun, outcome_map] at h
    rcases hrest : ((gatherCommands source name (seenAfter seen found) rest).outcome w₁).1
      with e | more
    all_goals
      rw [hrest] at h
      cases h
    exact ⟨found, w₁, more, hread, hlog, hrest, rfl, hrun⟩

theorem gatherCommands_eq_ok {seen : List String} {directories : List Path}
    {ds : List Descriptor}
    (h : (gatherCommands source name seen directories).outcome w = (.ok ds, w')) :
    ∃ found, List.Forall₂ (fun directory ds => ReadInTurn w source name directory (.ok ds))
        directories found ∧
      ds = newDeclarations seen found.flatten := by
  induction directories generalizing seen w w' ds with
  | nil =>
      cases h
      exact ⟨[], .nil, rfl⟩
  | cons directory rest ih =>
      obtain ⟨found, w₁, others, hread, hlog, hrest, rfl, -⟩ :=
        gatherCommands_cons_eq_ok (congrArg Prod.fst h)
      obtain ⟨more, hmore, rfl⟩ := ih (Prod.ext hrest rfl)
      refine ⟨found :: more, .cons ⟨w.tree, .refl w, hread⟩ ?_, ?_⟩
      · exact hmore.imp fun _ _ => .of_onlyLogs hlog
      · rw [List.flatten_cons, newDeclarations_append]

theorem exists_of_gatherCommands_eq_error {seen : List String} {directories : List Path}
    {e : Fault} (h : ((gatherCommands source name seen directories).outcome w).1 = .error e) :
    ∃ directory ∈ directories, ReadInTurn w source name directory (.error e) := by
  induction directories generalizing seen w with
  | nil => cases h
  | cons directory rest ih =>
      rcases gatherCommands_cons_cases seen directory rest w with
        ⟨e', hread, hfail⟩ | ⟨found, w₁, hread, hlog, hrun⟩
      · rw [h] at hfail
        cases hfail
        exact ⟨directory, List.mem_cons_self, w.tree, .refl w, hread⟩
      · rw [hrun, outcome_map] at h
        rcases hrest : (gatherCommands source name (seenAfter seen found) rest).outcome w₁
          with ⟨e' | others, w₂⟩
        all_goals
          rw [hrest] at h
          cases h
        obtain ⟨other, hmem, hother⟩ := ih (congrArg Prod.fst hrest)
        exact ⟨other, List.mem_cons_of_mem _ hmem, hother.of_onlyLogs hlog⟩

/-! ### Manifests that are no log files -/

/-- The manifest in a directory is not among the files that the log is written to. -/
def Unlogged (w : Workspace) (name : String) (directory : Path) : Prop :=
  ∀ place, w.tree.locate .follow (Manifest.pathIn directory name) = .ok place →
    ¬ w.hub.LogsTo place

theorem contribution_of_unlogged {directory : Path} {result : Except Fault (List Descriptor)}
    (unlogged : Unlogged w name directory) (read : ReadInTurn w source name directory result) :
    Manifest.contribution w.tree source name directory = result := by
  obtain ⟨tree, hlog, hread⟩ := read
  have same : Manifest.commands tree directory name = Manifest.commands w.tree directory name :=
    Manifest.commands_congr hlog.shape fun place hplace =>
      hlog.files.get? place (unlogged place hplace)
  exact (Manifest.contribution_congr same source).symm.trans hread

theorem mapM_contribution_of_unlogged {directories : List Path} {found : List (List Descriptor)}
    (unlogged : ∀ directory ∈ directories, Unlogged w name directory)
    (read : List.Forall₂ (fun directory ds => ReadInTurn w source name directory (.ok ds))
      directories found) :
    directories.mapM (Manifest.contribution w.tree source name) = .ok found := by
  have both := (List.forall₂_and_left directories found).mpr ⟨unlogged, read⟩
  exact mapM_eq_ok_iff.mpr (both.imp fun _ _ h => contribution_of_unlogged h.1 h.2)

/-! ### The whole project -/

theorem outcome_readCommands_of_found {plugins : Bool} {directories : List Path}
    (found : Manifest.directories w.tree source name plugins = .ok directories) :
    (readCommands source name plugins).outcome w =
      (gatherCommands source name [] directories).outcome w := by
  rw [readCommands, outcome_bind, outcome_get]
  dsimp only
  rw [outcome_bind, outcome_ofExcept, found]

theorem outcome_readCommands_of_missing {plugins : Bool} {e : Fault}
    (missing : Manifest.directories w.tree source name plugins = .error e) :
    (readCommands source name plugins).outcome w = (.error e, w) := by
  rw [readCommands, outcome_bind, outcome_get]
  dsimp only
  rw [outcome_bind, outcome_ofExcept, missing]

theorem readCommands_eq_ok {plugins : Bool} {ds : List Descriptor}
    (h : (readCommands source name plugins).outcome w = (.ok ds, w')) :
    ∃ directories found, Manifest.directories w.tree source name plugins = .ok directories ∧
      List.Forall₂ (fun directory ds => ReadInTurn w source name directory (.ok ds))
        directories found ∧
      ds = firstDeclarations found.flatten := by
  rcases hfound : Manifest.directories w.tree source name plugins with e | directories
  · rw [outcome_readCommands_of_missing hfound] at h
    cases h
  · rw [outcome_readCommands_of_found hfound] at h
    obtain ⟨found, hread, rfl⟩ := gatherCommands_eq_ok h
    exact ⟨directories, found, rfl, hread, newDeclarations_nil _⟩

/-- Without log files among the manifests, reading a project is reading its
manifests as they are, and dropping what was declared before. -/
theorem readCommands_eq_ok_iff_of_unlogged {plugins : Bool} {directories : List Path}
    {ds : List Descriptor}
    (found : Manifest.directories w.tree source name plugins = .ok directories)
    (unlogged : ∀ directory ∈ directories, Unlogged w name directory) :
    ((readCommands source name plugins).outcome w).1 = .ok ds ↔
      ∃ declared, directories.mapM (Manifest.contribution w.tree source name) = .ok declared ∧
        ds = firstDeclarations declared.flatten := by
  have given {ds : List Descriptor} {w' : Workspace}
      (h : (readCommands source name plugins).outcome w = (.ok ds, w')) :
      ∃ declared, directories.mapM (Manifest.contribution w.tree source name) = .ok declared ∧
        ds = firstDeclarations declared.flatten := by
    obtain ⟨_, declared, found', hread, hds⟩ := readCommands_eq_ok h
    cases found.symm.trans found'
    exact ⟨declared, mapM_contribution_of_unlogged unlogged hread, hds⟩
  constructor
  · intro h
    rcases hrun : (readCommands source name plugins).outcome w with ⟨e | ds', w'⟩
    all_goals
      rw [hrun] at h
      cases h
    exact given hrun
  · rintro ⟨declared, hdeclared, rfl⟩
    rcases hrun : (readCommands source name plugins).outcome w with ⟨e | ds', w'⟩
    · -- A fault would come from one of the manifests, and all of them can be read.
      rw [outcome_readCommands_of_found found] at hrun
      obtain ⟨directory, hmem, hread⟩ :=
        exists_of_gatherCommands_eq_error (congrArg Prod.fst hrun)
      have failed := contribution_of_unlogged (unlogged directory hmem) hread
      obtain ⟨ds, read⟩ := exists_mapM_eq_ok_iff.mp ⟨declared, hdeclared⟩ directory hmem
      cases failed.symm.trans read
    · obtain ⟨declared', hdeclared', rfl⟩ := given hrun
      cases hdeclared.symm.trans hdeclared'
      rfl

/-- The first declaration of a command wins. When the commands of a project can
be read, they are what its manifests declare in the order in which these are
found, a plugin with a fault of the configuration adding nothing, without the
declarations of names that occurred before. So each name occurs once, every name
that is declared is there, a command that stays is its earliest declaration, and
commands carry the directories of the manifests that declare them. A project
whose own manifest cannot be read has the fault of that manifest. -/
theorem readCommands_first_wins (source : Path) (name : String) (plugins : Bool)
    (w : Workspace) :
    (∀ ds w', (readCommands source name plugins).outcome w = (.ok ds, w') →
      ∃ directories found, Manifest.directories w.tree source name plugins = .ok directories ∧
        List.Forall₂ (fun directory ds => ReadInTurn w source name directory (.ok ds))
          directories found ∧
        ((∀ directory ∈ directories, Unlogged w name directory) →
          directories.mapM (Manifest.contribution w.tree source name) = .ok found) ∧
        ds = firstDeclarations found.flatten ∧
        (ds.map Descriptor.commandName).Nodup ∧
        (∀ d ∈ found.flatten, ∃ k ∈ ds, k.commandName = d.commandName) ∧
        (∀ d ∈ ds, ∃ before after, found.flatten = before ++ d :: after ∧
          ∀ k ∈ before, k.commandName ≠ d.commandName) ∧
        List.Forall₂ (fun directory ds => ∀ d ∈ ds, d.baseDirectory = directory)
          directories found) ∧
    ∀ directories fault, Manifest.directories w.tree source name plugins = .ok directories →
      w.tree.isFile (Manifest.pathIn source name) = .ok true →
      Manifest.commands w.tree source name = .error fault →
      ((readCommands source name plugins).outcome w).1 = .error fault := by
  constructor
  · intro ds w' h
    obtain ⟨directories, found, hfound, hread, rfl⟩ := readCommands_eq_ok h
    refine ⟨directories, found, hfound, hread, ?_, rfl, nodup_names_firstDeclarations _, ?_, ?_,
      ?_⟩
    · exact fun unlogged => mapM_contribution_of_unlogged unlogged hread
    · exact fun d hd => exists_mem_firstDeclarations hd
    · exact fun d hd => mem_firstDeclarations_iff.mp hd
    · refine hread.imp fun directory ds read => ?_
      obtain ⟨tree, -, hread⟩ := read
      exact Manifest.baseDirectory_of_contribution hread
  · intro directories fault hfound isFile failed
    -- The project's own directory comes first, and its faults are not passed over.
    obtain ⟨own, others, hown, rfl, -⟩ := Manifest.directories_eq_ok hfound
    cases isFile.symm.trans hown
    rw [outcome_readCommands_of_found hfound]
    rcases gatherCommands_cons_cases [] source others w with
      ⟨e, hread, hfail⟩ | ⟨found, w₁, hread, -⟩
    all_goals
      rw [Manifest.contribution_source, failed] at hread
      cases hread
    exact hfail

/-- A project that declares a name twice in its list and another one again in its
table. One plugin declares a name of the project and one of its own, the other
plugin has a manifest that is rejected at its second command. -/
def sharedNamesProject : Workspace where
  tree :=
    { entries :=
        [(["p"], .directory),
          (["p", "composer.json"],
            .file (.text ("\x7b\"extra\": \x7b\"commands\": [\"a\", \"b one\", \"a two\"], " ++
              "\"wp-cli-commands\": \x7b\"k\": \x7b\"class\": \"K\", \"command\": \"b\"\x7d\x7d" ++
              "\x7d\x7d").toList)),
          (["p", "q"], .directory),
          (["p", "q", "composer.json"],
            .file (.text "\x7b\"extra\": \x7b\"commands\": [\"b\", \"c\"]\x7d\x7d".toList)),
          (["p", "r"], .directory),
          (["p", "r", "composer.json"],
            .file (.text "\x7b\"extra\": \x7b\"commands\": [\"d\", 7]\x7d\x7d".toList))]
      here := ["p"] }

theorem shared_names_declared_first :
    ∃ ds w', (readCommands Path.here Manifest.defaultName true).outcome sharedNamesProject =
        (.ok ds, w') ∧
      ds.map (fun d => (d.commandName, d.baseDirectory.toString)) =
        [("a", "."), ("b", "."), ("c", "q")] ∧
      ∃ declared, ([Path.here, Path.ofString "q", Path.ofString "r"].mapM
          (Manifest.contribution sharedNamesProject.tree Path.here Manifest.defaultName)) =
            .ok declared ∧
        ds = firstDeclarations declared.flatten := by
  have returned : ((readCommands Path.here Manifest.defaultName true).outcome
      sharedNamesProject).1.toOption.map (List.map fun d =>
        (d.commandName, d.baseDirectory.toString)) =
      some [("a", "."), ("b", "."), ("c", "q")] := by
    decide +kernel
  rcases hrun : (readCommands Path.here Manifest.defaultName true).outcome sharedNamesProject
    with ⟨fault | ds, w'⟩
  all_goals rw [hrun] at returned
  · cases returned
  obtain ⟨directories, declared, hfound, -, unlogged, hds, -⟩ :=
    (readCommands_first_wins Path.here Manifest.defaultName true sharedNamesProject).1 ds w' hrun
  have among : Manifest.directories sharedNamesProject.tree Path.here Manifest.defaultName true =
      .ok [Path.here, Path.ofString "q", Path.ofString "r"] := by rfl
  obtain rfl : directories = [Path.here, Path.ofString "q", Path.ofString "r"] :=
    Except.ok.inj (hfound.symm.trans among)
  refine ⟨ds, w', rfl, Option.some.inj returned, declared, unlogged ?_, hds⟩
  -- There are no sinks at all.
  rintro directory - place - ⟨id, level, hmem⟩
  cases hmem

end Action

end CommandManual
