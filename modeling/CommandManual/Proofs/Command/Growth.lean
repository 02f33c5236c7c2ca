import CommandManual.Proofs.Command.Project
import CommandManual.Proofs.Text.Names

/-!
How the commands of a project grow with its plugins. The manifests are read in order, so
what comes of the first ones does not depend on the ones after them: scanning for plugins
adds commands after those of the project itself, and a plugin that is added or changed
leaves the commands of the project and of the plugins before it as they are. That is a
statement about two runs, which leave the same records as long as they read the same
manifests, and therefore also agree on manifests that are log files.
-/

namespace CommandManual

/-! ### Records that reach two workspaces -/

namespace Log

/-- A line that is added in two trees leaves alike what was alike. -/
theorem Logging.appendTo_congr {tree tree' : FileTree} {place : Place}
    (same : tree'.get? place = tree.get? place) (other : Place) (line : String) :
    (appendTo tree' other line).get? place = (appendTo tree other line).get? place := by
  by_cases h : place = other
  · -- The line is added to this very file, which holds the same in both trees.
    subst h
    unfold appendTo
    rw [same]
    split
    case h_4 => exact same
    all_goals exact FileTree.get?_put_congr tree tree' place _
  · rw [(appendTo_sameBut tree' other line).get? place h,
      (appendTo_sameBut tree other line).get? place h, same]

theorem Logging.handOut_congr {place : Place} (sinks : List Sink) (r : Record) {d d' : Desk}
    (same : d'.tree.get? place = d.tree.get? place) :
    (handOut sinks r d').tree.get? place = (handOut sinks r d).tree.get? place := by
  induction sinks generalizing r d d' with
  | nil => exact same
  | cons s rest ih =>
      unfold handOut
      split
      · refine ih _ ?_
        cases s with
        | terminal level layout color stamped => cases layout <;> exact same
        | file level other => exact appendTo_congr same other _
        | foreign level => exact same
      · exact ih r same

end Log

theorem Workspace.deliver_congr {w w' : Workspace} {place : Place} (hub : w'.hub = w.hub)
    (same : w'.tree.get? place = w.tree.get? place) (r : Log.Record) :
    (w'.deliver r).tree.get? place = (w.deliver r).tree.get? place := by
  have sinks : (w'.hub.sinks.map Prod.snd) = w.hub.sinks.map Prod.snd := by rw [hub]
  show (Log.Logging.handOut (w'.hub.sinks.map Prod.snd) r w'.toDesk).tree.get? place = _
  rw [sinks]
  exact Log.Logging.handOut_congr _ r same

namespace Manifest

variable {tree tree' : FileTree} {directory : Path} {name : String}

theorem read_congr (h : commands tree' directory name = commands tree directory name) :
    read tree' directory name = read tree directory name := by
  rw [read, read, h]

theorem readPlugin_congr (h : commands tree' directory name = commands tree directory name) :
    readPlugin tree' directory name = readPlugin tree directory name := by
  have same := read_congr h
  unfold readPlugin
  dsimp only
  rw [same]
  generalize commands tree' directory name = x at h ⊢
  rw [h]

/-! ### Plugins before a plugin -/

theorem pairwise_le_pluginNames (tree : FileTree) (source : Path) (name : String) :
    (pluginNames tree source name).Pairwise (· ≤ ·) := by
  refine List.Pairwise.filter _ ?_
  unfold FileTree.list
  split
  · exact Text.pairwise_le_sortNames _
  · exact .nil

def earlierPlugins (tree : FileTree) (source : Path) (name plugin : String) : List String :=
  (pluginNames tree source name).filter (· < plugin)

/-- The directories that are read before a plugin, if there is one of that name. -/
def earlierDirectories (tree : FileTree) (source : Path) (name plugin : String) : List Path :=
  source :: (earlierPlugins tree source name plugin).map source.child

/-- The directories of a project are those before a plugin and others, in this order. -/
theorem directories_eq_append {source : Path} {plugins : Bool} {found : List Path}
    (h : directories tree source name plugins = .ok found) (plugin : String) :
    ∃ own others, tree.isFile (pathIn source name) = .ok own ∧
      found = ((if own then [source] else []) ++
        if plugins then (earlierPlugins tree source name plugin).map source.child else []) ++
          others ∧
      ∀ directory ∈ others, ∃ child, ¬ child < plugin ∧ directory = source.child child := by
  obtain ⟨own, hown, rfl⟩ := directories_eq_pluginNames h
  cases plugins with
  | false => exact ⟨own, [], hown, by simp, by simp⟩
  | true =>
      refine ⟨own, ((pluginNames tree source name).filter (¬ · < plugin)).map
        source.child, hown, ?_, ?_⟩
      · have parts := Text.filter_lt_append (pairwise_le_pluginNames tree source name) plugin
        simp only [if_true, List.append_assoc, earlierPlugins, ← List.map_append, parts]
      · intro directory hmem
        obtain ⟨child, hchild, rfl⟩ := List.mem_map.mp hmem
        exact ⟨child, of_decide_eq_true (List.mem_filter.mp hchild).2, rfl⟩

end Manifest

namespace Action

variable {source : Path} {name : String} {w w' : Workspace}

/-! ### Manifests that stay the same -/

/-- The manifest in a directory is the same in two workspaces: files that are not logged to
and declare the same, or one file with the same content, which is logged to in the same way
if it is. -/
inductive SameManifest (w w' : Workspace) (name : String) (directory : Path) : Prop
  | file {place : Place} (hub : w'.hub = w.hub)
    (located : w.tree.locate .follow (Manifest.pathIn directory name) = .ok place)
    (located' : w'.tree.locate .follow (Manifest.pathIn directory name) = .ok place)
    (same : w'.tree.get? place = w.tree.get? place)
  | unlogged (unlogged : Unlogged w name directory) (unlogged' : Unlogged w' name directory)
    (same : Manifest.commands w'.tree directory name = Manifest.commands w.tree directory name)

theorem SameManifest.commands {directory : Path} (h : SameManifest w w' name directory) :
    Manifest.commands w'.tree directory name = Manifest.commands w.tree directory name := by
  cases h with
  | file hub located located' same =>
      refine Manifest.commands_eq_of_stat ?_
      rw [FileTree.stat, FileTree.stat, located, located']
      dsimp only
      rw [same]
  | unlogged _ _ same => exact same

theorem Unlogged.of_onlyLogs {directory : Path} (unlogged : Unlogged w name directory)
    (h : w.OnlyLogs w') : Unlogged w' name directory := by
  intro place located
  rw [h.hub]
  exact unlogged place ((h.tree.shape.locate _ _).symm.trans located)

theorem Unlogged.commands {directory : Path} (unlogged : Unlogged w name directory)
    (h : w.OnlyLogs w') :
    Manifest.commands w'.tree directory name = Manifest.commands w.tree directory name :=
  Manifest.commands_congr h.tree.shape fun place located =>
    h.tree.files.get? place (unlogged place located)

/-- A record that reaches both workspaces keeps it so. -/
theorem SameManifest.deliver {directory : Path} (h : SameManifest w w' name directory)
    (r : Log.Record) :
    SameManifest (w.deliver r) (w'.deliver r) name directory := by
  have logs := w.onlyLogs_deliver r
  have logs' := w'.onlyLogs_deliver r
  cases h with
  | file hub located located' same =>
      refine .file ?_ ((logs.tree.shape.locate _ _).trans located)
        ((logs'.tree.shape.locate _ _).trans located') (Workspace.deliver_congr hub same r)
      rw [logs'.hub, logs.hub, hub]
  | unlogged unlogged unlogged' same =>
      refine .unlogged (unlogged.of_onlyLogs logs) (unlogged'.of_onlyLogs logs') ?_
      rw [unlogged.commands logs, unlogged'.commands logs', same]

def Alike (w w' : Workspace) (name : String) (directories : List Path) : Prop :=
  ∀ directory ∈ directories, SameManifest w w' name directory

theorem Alike.deliverAll {directories : List Path} (h : Alike w w' name directories)
    (records : List Log.Record) :
    Alike (records.foldl Workspace.deliver w) (records.foldl Workspace.deliver w') name
      directories := by
  induction records generalizing w w' with
  | nil => exact h
  | cons r rest ih => exact ih fun directory hmem => (h directory hmem).deliver r

/-! ### Two runs over the same manifests -/

/-- Two runs that leave the same records go on in alike workspaces. -/
theorem Alike.bind_ofTraced {α β : Type} {directories : List Path} {x : Traced α}
    {f : α → Action β} (h : Alike w w' name directories)
    (later : ∀ a w₁ w₁', Alike w₁ w₁' name directories →
      ((f a).outcome w₁').1 = ((f a).outcome w₁).1) :
    ((ofTraced x >>= f).outcome w').1 = ((ofTraced x >>= f).outcome w).1 := by
  rw [outcome_bind, outcome_bind, outcome_ofTraced, outcome_ofTraced]
  rcases x.outcome with ⟨e | a, records⟩
  · rfl
  · exact later a _ _ (h.deliverAll records)

/-- Alike workspaces give the same commands. -/
theorem gatherCommands_of_alike {seen : List String} {directories : List Path}
    (h : Alike w w' name directories) :
    ((gatherCommands source name seen directories).outcome w').1 =
      ((gatherCommands source name seen directories).outcome w).1 := by
  induction directories generalizing seen w w' with
  | nil => rfl
  | cons directory rest ih =>
      -- Both runs read the same manifest, so they leave the same records and see the same names.
      have same := (h directory List.mem_cons_self).commands
      rw [gatherCommands, outcome_bind, outcome_get, outcome_bind, outcome_get]
      dsimp only
      rw [Manifest.read_congr same, Manifest.readPlugin_congr same]
      refine h.bind_ofTraced fun found w₁ w₁' h₁ => h₁.bind_ofTraced fun kept w₂ w₂' h₂ => ?_
      rw [← map_eq_pure_bind, outcome_map, outcome_map]
      have later : Alike w₂ w₂' name rest :=
        fun other hmem => h₂ other (List.mem_cons_of_mem directory hmem)
      exact congrArg (Except.map _) (ih later)

/-- Reading some directories and then others. -/
theorem gatherCommands_append_eq_ok {seen : List String} {first rest : List Path}
    {ds : List Descriptor}
    (h : ((gatherCommands source name seen (first ++ rest)).outcome w).1 = .ok ds) :
    ∃ kept others seen' w₁, ((gatherCommands source name seen first).outcome w).1 = .ok kept ∧
      ((gatherCommands source name seen' rest).outcome w₁).1 = .ok others ∧
      ds = kept ++ others := by
  induction first generalizing seen w ds with
  | nil => exact ⟨[], ds, seen, w, rfl, h, rfl⟩
  | cons directory first ih =>
      obtain ⟨found, w₁, more, -, -, hmore, rfl, hrun⟩ := gatherCommands_cons_eq_ok h
      obtain ⟨kept, others, seen', w₂, hkept, hothers, rfl⟩ := ih hmore
      refine ⟨newDeclarations seen found ++ kept, others, seen', w₂, ?_, hothers, ?_⟩
      · rw [hrun, outcome_map, hkept]
        rfl
      · rw [List.append_assoc]

/-- The commands that are gathered come from the directories that are read. -/
theorem baseDirectory_of_gatherCommands {seen : List String} {directories : List Path}
    {ds : List Descriptor}
    (h : ((gatherCommands source name seen directories).outcome w).1 = .ok ds) :
    ∀ d ∈ ds, d.baseDirectory ∈ directories := by
  induction directories generalizing seen w ds with
  | nil =>
      cases h
      simp
  | cons directory rest ih =>
      obtain ⟨found, w₁, more, hread, -, hmore, rfl, -⟩ := gatherCommands_cons_eq_ok h
      intro d hd
      rcases List.mem_append.mp hd with hd | hd
      · have declared : d ∈ found :=
          (firstDeclarations_sublist found).subset (List.mem_of_mem_filter hd)
        rw [Manifest.baseDirectory_of_contribution hread d declared]
        exact List.mem_cons_self
      · exact List.mem_cons_of_mem directory (ih hmore d hd)

/-! ### Two runs over the same plugins -/

/-- From one workspace to another nothing changes about the manifest of the project and
about those of the plugins before a plugin. -/
structure SameBefore (w w' : Workspace) (source : Path) (name plugin : String) : Prop where
  own : w'.tree.isFile (Manifest.pathIn source name) =
    w.tree.isFile (Manifest.pathIn source name)
  plugins : Manifest.earlierPlugins w'.tree source name plugin =
    Manifest.earlierPlugins w.tree source name plugin
  manifests : ∀ directory ∈ Manifest.earlierDirectories w.tree source name plugin,
    w.tree.isFile (Manifest.pathIn directory name) = .ok true →
      SameManifest w w' name directory

theorem exists_directories_of_readCommands {plugins : Bool} {ds : List Descriptor}
    (h : ((readCommands source name plugins).outcome w).1 = .ok ds) :
    ∃ directories, Manifest.directories w.tree source name plugins = .ok directories ∧
      ((gatherCommands source name [] directories).outcome w).1 = .ok ds := by
  rcases hfound : Manifest.directories w.tree source name plugins with e | directories
  · rw [outcome_readCommands_of_missing hfound] at h
    cases h
  · exact ⟨directories, rfl, outcome_readCommands_of_found hfound ▸ h⟩

/-- Scanning for plugins adds their commands after those of the project. -/
theorem prefix_of_scanning {ds ds' : List Descriptor}
    (own : w.tree.isFile (Manifest.pathIn source name) = .ok true)
    (h : ((readCommands source name false).outcome w).1 = .ok ds)
    (h' : ((readCommands source name true).outcome w).1 = .ok ds') : ds <+: ds' := by
  obtain ⟨directories, found, read⟩ := exists_directories_of_readCommands h
  obtain ⟨directories', found', read'⟩ := exists_directories_of_readCommands h'
  obtain ⟨_, hown, rfl⟩ := Manifest.directories_eq_pluginNames found
  obtain ⟨_, hown', rfl⟩ := Manifest.directories_eq_pluginNames found'
  cases own.symm.trans hown
  cases own.symm.trans hown'
  obtain ⟨kept, others, _, _, first, -, rfl⟩ := gatherCommands_append_eq_ok read'
  cases first.symm.trans read
  exact List.prefix_append _ _

/-- What is read before a plugin is the same when it is the same before that plugin. -/
theorem readCommands_of_sameBefore {plugin : String} {plugins : Bool} {ds ds' : List Descriptor}
    (same : SameBefore w w' source name plugin)
    (h : ((readCommands source name plugins).outcome w).1 = .ok ds)
    (h' : ((readCommands source name plugins).outcome w').1 = .ok ds') :
    ∃ kept more more', ds = kept ++ more ∧ ds' = kept ++ more' ∧
      (∀ d ∈ kept, d.baseDirectory ∈ Manifest.earlierDirectories w.tree source name plugin) ∧
      ∀ d ∈ more ++ more', ∃ child, ¬ child < plugin ∧ d.baseDirectory = source.child child := by
  obtain ⟨directories, found, read⟩ := exists_directories_of_readCommands h
  obtain ⟨directories', found', read'⟩ := exists_directories_of_readCommands h'
  obtain ⟨own, others, hown, rfl, later⟩ := Manifest.directories_eq_append found plugin
  obtain ⟨own', others', hown', rfl, later'⟩ := Manifest.directories_eq_append found' plugin
  rw [same.own, hown] at hown'
  cases hown'
  rw [same.plugins] at read'
  -- Both runs start with the directories before the plugin, which are the same.
  generalize hfirst : (if own then [source] else []) ++ (if plugins then
    (Manifest.earlierPlugins w.tree source name plugin).map source.child else []) = first
    at read read' found
  have early : first ⊆ Manifest.earlierDirectories w.tree source name plugin := by
    subst hfirst
    cases own <;> cases plugins <;> simp [Manifest.earlierDirectories]
  have alike : Alike w w' name first := by
    intro directory hmem
    refine same.manifests directory (early hmem) ?_
    exact Manifest.isFile_of_mem_directories found directory (List.mem_append_left _ hmem)
  obtain ⟨kept, more, _, _, hkept, hmore, rfl⟩ := gatherCommands_append_eq_ok read
  obtain ⟨kept', more', _, _, hkept', hmore', rfl⟩ := gatherCommands_append_eq_ok read'
  obtain rfl : kept' = kept := by
    rw [gatherCommands_of_alike alike, hkept] at hkept'
    exact (Except.ok.inj hkept').symm
  refine ⟨kept', more, more', rfl, rfl, ?_, ?_⟩
  · exact fun d hd => early (baseDirectory_of_gatherCommands hkept d hd)
  · intro d hd
    rcases List.mem_append.mp hd with hd | hd
    · exact later _ (baseDirectory_of_gatherCommands hmore d hd)
    · exact later' _ (baseDirectory_of_gatherCommands hmore' d hd)

/-- Plugins only add commands. When the project has a manifest, what is read without
plugins is the start of what is read with them. And when a plugin is added or changed, the
commands of the project and of the plugins before it stay as they are and come first:
what changes are commands of this plugin and of those after it. -/
theorem plugins_only_append (source : Path) (name : String) (w : Workspace) :
    (w.tree.isFile (Manifest.pathIn source name) = .ok true → ∀ ds ds',
      ((readCommands source name false).outcome w).1 = .ok ds →
      ((readCommands source name true).outcome w).1 = .ok ds' → ds <+: ds') ∧
    ∀ w' plugin plugins ds ds', SameBefore w w' source name plugin →
      ((readCommands source name plugins).outcome w).1 = .ok ds →
      ((readCommands source name plugins).outcome w').1 = .ok ds' →
      ∃ kept more more', ds = kept ++ more ∧ ds' = kept ++ more' ∧
        (∀ d ∈ kept, d.baseDirectory ∈ Manifest.earlierDirectories w.tree source name plugin) ∧
        ∀ d ∈ more ++ more',
          ∃ child, ¬ child < plugin ∧ d.baseDirectory = source.child child :=
  ⟨fun own _ _ => prefix_of_scanning own, fun _ _ _ _ _ => readCommands_of_sameBefore⟩

def growingProject (others : List (Place × Entry)) : Workspace where
  tree :=
    { entries :=
        [(["p"], .directory),
          (["p", "composer.json"],
            .file (.text "\x7b\"extra\": \x7b\"commands\": [\"x\"]\x7d\x7d".toList)),
          (["p", "a"], .directory),
          (["p", "a", "composer.json"],
            .file (.text "\x7b\"extra\": \x7b\"commands\": [\"y\"]\x7d\x7d".toList))] ++ others
      here := ["p"] }

/-- A plugin `b` that declares a command of its own and two that are declared before it. -/
def redeclaringPlugin : List (Place × Entry) :=
  [(["p", "b"], .directory),
    (["p", "b", "composer.json"],
      .file (.text "\x7b\"extra\": \x7b\"commands\": [\"y\", \"z\", \"x\"]\x7d\x7d".toList))]

theorem sameBefore_of_growingProject :
    SameBefore (growingProject []) (growingProject redeclaringPlugin) Path.here
      Manifest.defaultName "b" where
  own := rfl
  plugins := by decide +kernel
  manifests := by
    have early : Manifest.earlierDirectories (growingProject []).tree Path.here
        Manifest.defaultName "b" = [Path.here, Path.here.child "a"] := by decide +kernel
    rw [early]
    rintro directory hmem -
    rcases List.mem_pair.mp hmem with rfl | rfl
    · exact .file rfl rfl rfl rfl
    · exact .file rfl rfl rfl rfl

def firstCommands : List Descriptor :=
  [{ commandName := "x" }, { commandName := "y", baseDirectory := Path.here.child "a" }]

theorem readCommands_of_growingProject :
    ((readCommands Path.here Manifest.defaultName true).outcome (growingProject [])).1 =
      .ok firstCommands :=
  eq_ok_of_toOption (by decide +kernel)

theorem readCommands_of_redeclaringPlugin :
    ((readCommands Path.here Manifest.defaultName true).outcome
      (growingProject redeclaringPlugin)).1 =
      .ok (firstCommands ++ [{ commandName := "z", baseDirectory := Path.here.child "b" }]) :=
  eq_ok_of_toOption (by decide +kernel)

theorem redeclaring_plugin_only_appends :
    [{ commandName := "x" }] <+: firstCommands ∧
      ∃ kept more more', firstCommands = kept ++ more ∧
        firstCommands ++ [{ commandName := "z", baseDirectory := Path.here.child "b" }] =
          kept ++ more' ∧
        (∀ d ∈ kept, d.baseDirectory ∈
          Manifest.earlierDirectories (growingProject []).tree Path.here Manifest.defaultName "b") ∧
        ∀ d ∈ more ++ more', ∃ child, ¬ child < "b" ∧ d.baseDirectory = Path.here.child child := by
  obtain ⟨scanning, growing⟩ :=
    plugins_only_append Path.here Manifest.defaultName (growingProject [])
  refine ⟨scanning rfl _ _ (eq_ok_of_toOption (by decide +kernel))
    readCommands_of_growingProject, ?_⟩
  exact growing _ "b" true _ _ sameBefore_of_growingProject readCommands_of_growingProject
    readCommands_of_redeclaringPlugin

end Action

end CommandManual
