import CommandManual.Proofs.Command.Project

/-!
Plugins whose manifests cannot be used. A plugin is skipped for every fault of the
configuration, and then the project has the commands that it would have if the
plugin declared none. The faults that remain are those of a manifest that goes too
far: one such plugin leaves the whole project without commands.
-/

namespace CommandManual

namespace Manifest

variable {tree tree' : FileTree} {source directory : Path} {name : String}

/-- A plugin adds something, or nothing, unless its manifest goes too far. -/
theorem exists_contribution_iff (hne : directory ≠ source)
    (isFile : tree.isFile (pathIn directory name) = .ok true) :
    (∃ ds, contribution tree source name directory = .ok ds) ↔
      ¬ Excessive tree directory name := by
  rw [← commands_breach_iff isFile]
  rcases hread : commands tree directory name with e | ds
  · cases e with
    | configuration component reason =>
        have skipped : contribution tree source name directory = .ok [] :=
          contribution_eq_ok_iff.mpr (.inr ⟨hne, rfl, component, reason, hread⟩)
        simp [skipped, Fault.isConfiguration]
    | _ =>
        have passed : contribution tree source name directory = commands tree directory name :=
          contribution_of_not_configuration fun component reason h => by
            rw [hread] at h
            cases h
        rw [passed, hread]
        simp [Fault.isConfiguration]
  · simp [contribution_eq_ok_iff.mpr (.inl hread)]

/-- The second tree is the first one with other contents in the manifests that
cannot be used: these declare no commands there, and the other manifests declare
what they did. -/
structure Silences (tree tree' : FileTree) (name : String) (directories : List Path) : Prop where
  shape : tree.SameShape tree'
  kept : ∀ directory ∈ directories, ∀ ds, commands tree directory name = .ok ds →
    commands tree' directory name = .ok ds
  silent : ∀ directory ∈ directories, ∀ e, commands tree directory name = .error e →
    commands tree' directory name = .ok []

theorem Silences.contribution {directories : List Path} {ds : List Descriptor}
    (h : Silences tree tree' name directories) (hmem : directory ∈ directories)
    (added : contribution tree source name directory = .ok ds) :
    Manifest.contribution tree' source name directory = .ok ds := by
  rcases contribution_eq_ok_iff.mp added with read | ⟨-, rfl, component, reason, failed⟩
  · exact contribution_eq_ok_iff.mpr (.inl (h.kept directory hmem ds read))
  · exact contribution_eq_ok_iff.mpr (.inl (h.silent directory hmem _ failed))

theorem Silences.mapM_contribution {directories : List Path} {found : List (List Descriptor)}
    (h : Silences tree tree' name directories)
    (added : directories.mapM (Manifest.contribution tree source name) = .ok found) :
    directories.mapM (Manifest.contribution tree' source name) = .ok found := by
  have each : List.Forall₂ (fun directory ds => directory ∈ directories ∧
      Manifest.contribution tree source name directory = .ok ds) directories found :=
    (List.forall₂_and_left directories found).mpr ⟨fun _ => id, mapM_eq_ok_iff.mp added⟩
  exact mapM_eq_ok_iff.mpr (each.imp fun _ _ ⟨hmem, hread⟩ => h.contribution hmem hread)

end Manifest

namespace Action

variable {source : Path} {name : String} {plugins : Bool} {w : Workspace}

/-- A project whose own manifest, if there is one, can be used has commands
exactly when no plugin has a manifest that goes too far. They are then the same as
when the manifests of plugins that cannot be used declare none. -/
theorem plugins_skipped_iff_moderate {directories : List Path}
    (found : Manifest.directories w.tree source name plugins = .ok directories)
    (usable : source ∈ directories → ∃ ds, Manifest.commands w.tree source name = .ok ds)
    (unlogged : ∀ directory ∈ directories, Unlogged w name directory) :
    ((∃ ds, ((readCommands source name plugins).outcome w).1 = .ok ds) ↔
        ∀ directory ∈ directories, directory ≠ source →
          ¬ Manifest.Excessive w.tree directory name) ∧
      ∀ ds, ((readCommands source name plugins).outcome w).1 = .ok ds →
        ∀ tree', Manifest.Silences w.tree tree' name directories →
          ((readCommands source name plugins).outcome { w with tree := tree' }).1 = .ok ds := by
  constructor
  · have returns : (∃ ds, ((readCommands source name plugins).outcome w).1 = .ok ds) ↔
        ∃ declared,
          directories.mapM (Manifest.contribution w.tree source name) = .ok declared := by
      simp only [readCommands_eq_ok_iff_of_unlogged found unlogged]
      constructor
      · rintro ⟨ds, declared, h, -⟩
        exact ⟨declared, h⟩
      · rintro ⟨declared, h⟩
        exact ⟨_, declared, h, rfl⟩
    -- Reading returns if every directory on its own adds a list, be it an empty one.
    rw [returns, exists_mapM_eq_ok_iff]
    constructor
    · intro h directory hmem hne
      exact (Manifest.exists_contribution_iff hne
        (Manifest.isFile_of_mem_directories found directory hmem)).mp (h directory hmem)
    · intro h directory hmem
      by_cases hsource : directory = source
      · subst hsource
        rw [Manifest.contribution_source]
        exact usable hmem
      · exact (Manifest.exists_contribution_iff hsource
          (Manifest.isFile_of_mem_directories found directory hmem)).mpr (h directory hmem hsource)
  · intro ds read tree' silences
    obtain ⟨declared, hdeclared, hds⟩ :=
      (readCommands_eq_ok_iff_of_unlogged found unlogged).mp read
    refine (readCommands_eq_ok_iff_of_unlogged ?_ ?_).mpr
      ⟨declared, silences.mapM_contribution hdeclared, hds⟩
    · exact (Manifest.directories_congr silences.shape source name plugins).trans found
    · intro directory hmem place located
      exact unlogged directory hmem place ((silences.shape.locate _ _).symm.trans located)

/-- A project with a command of its own and a plugin whose manifest has the given
content. -/
def pluginProject (content : Content) : Workspace where
  tree :=
    { entries :=
        [(["p"], .directory),
          (["p", "composer.json"],
            .file (.text "\x7b\"extra\": \x7b\"commands\": [\"a\"]\x7d\x7d".toList)),
          (["p", "q"], .directory),
          (["p", "q", "composer.json"], .file content)]
      here := ["p"] }

theorem directories_of_pluginProject (content : Content) :
    Manifest.directories (pluginProject content).tree Path.here Manifest.defaultName true =
      .ok [Path.here, Path.ofString "q"] := by
  rfl

theorem exists_commands_of_pluginProject (content : Content) :
    ∃ ds, Manifest.commands (pluginProject content).tree Path.here Manifest.defaultName =
      .ok ds := by
  exact ⟨[{ commandName := "a", baseDirectory := Path.here }], rfl⟩

theorem unlogged_of_pluginProject (content : Content) (directory : Path) :
    Unlogged (pluginProject content) Manifest.defaultName directory := by
  rintro place - ⟨id, level, hmem⟩
  cases hmem

/-- A plugin whose manifest is no text counts as one that declares no commands. -/
theorem undecodable_plugin_is_skipped :
    ∃ ds, ((readCommands Path.here Manifest.defaultName true).outcome
        (pluginProject (.bytes [0xff]))).1 = .ok ds ∧
      ((readCommands Path.here Manifest.defaultName true).outcome
        (pluginProject (.text "\x7b\"extra\": \x7b\x7d\x7d".toList))).1 = .ok ds := by
  obtain ⟨returns, same⟩ := plugins_skipped_iff_moderate
    (directories_of_pluginProject (.bytes [0xff]))
    (fun _ => exists_commands_of_pluginProject _)
    (fun directory _ => unlogged_of_pluginProject _ directory)
  have unusable : (Manifest.commands (pluginProject (.bytes [0xff])).tree (Path.ofString "q")
      Manifest.defaultName).toOption = none := by decide +kernel
  have unread : (Manifest.readText (pluginProject (.bytes [0xff])).tree
      (Manifest.pathIn (Path.ofString "q") Manifest.defaultName)).toOption = none := by
    decide +kernel
  obtain ⟨ds, read⟩ := returns.mpr (by
    intro directory hmem hne
    rcases List.mem_cons.mp hmem with rfl | hmem
    · exact absurd rfl hne
    obtain rfl := List.mem_singleton.mp hmem
    rintro ⟨text, htext, -⟩
    rw [htext] at unread
    cases unread)
  refine ⟨ds, read, same ds read _ ⟨⟨rfl, rfl⟩, ?_, ?_⟩⟩
  · intro directory hmem declared hread
    rcases List.mem_cons.mp hmem with rfl | hmem
    · exact hread
    · obtain rfl := List.mem_singleton.mp hmem
      rw [hread] at unusable
      cases unusable
  · intro directory hmem e hread
    rcases List.mem_cons.mp hmem with rfl | hmem
    · obtain ⟨own, hown⟩ := exists_commands_of_pluginProject (.bytes [0xff])
      cases hown.symm.trans hread
    · obtain rfl := List.mem_singleton.mp hmem
      rfl

def overlongManifest : Text :=
  "\x7b\"extra\": \x7b\"commands\": [\"b\"]\x7d, \"version\": ".toList ++
    List.replicate 4301 '1' ++ "\x7d".toList

theorem overlong_plugin_ends_reading :
    (∃ ds, Manifest.commands (pluginProject (.text overlongManifest)).tree Path.here
        Manifest.defaultName = .ok ds) ∧
      ¬ ∃ ds, ((readCommands Path.here Manifest.defaultName true).outcome
        (pluginProject (.text overlongManifest))).1 = .ok ds := by
  refine ⟨exists_commands_of_pluginProject _, ?_⟩
  rintro ⟨ds, read⟩
  have fails : ((readCommands Path.here Manifest.defaultName true).outcome
      (pluginProject (.text overlongManifest))).1.toOption = none := by
    decide +kernel
  rw [read] at fails
  cases fails

end Action

end CommandManual
