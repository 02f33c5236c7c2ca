import CommandManual.Proofs.Files.Directories
import CommandManual.Proofs.Manual.Pages

/-!
The footprint of a run. What a run leaves in the file tree are the files to which
the paths of its report lead, and the directories on the way to the destination;
everything else is what it was. The turn of a command adds to that what its event
tells: one path may lead to another file than before, or nothing is touched.
-/

namespace CommandManual

namespace FileTree

/-- The second tree is the first one, except for files to which some paths lead. -/
structure Writes (paths : List Path) (tree tree' : FileTree) : Prop where
  ways : tree.SameWays tree'
  get? : ∀ place, tree'.get? place = tree.get? place ∨
    (∃ content, tree'.get? place = some (.file content)) ∧
      ∃ path ∈ paths, tree'.locate .follow path = .ok place

namespace Writes

variable {paths more : List Path} {tree tree' tree'' : FileTree}

theorem refl (paths : List Path) (tree : FileTree) : tree.Writes paths tree :=
  ⟨.refl tree, fun _ => .inl rfl⟩

/-- Where a path leads does not depend on the files that are written later. -/
theorem trans (h : tree.Writes paths tree') (h' : tree'.Writes more tree'') :
    tree.Writes (paths ++ more) tree'' := by
  refine ⟨h.ways.trans h'.ways, fun place => ?_⟩
  rcases h'.get? place with same | ⟨file, path, hmem, located⟩
  · rw [same]
    rcases h.get? place with same | ⟨file, path, hmem, located⟩
    · exact .inl same
    · refine .inr ⟨file, path, List.mem_append_left more hmem, ?_⟩
      exact locate_of_sameWays h'.ways (by decide) located
  · exact .inr ⟨file, path, List.mem_append_right paths hmem, located⟩

/-- What is changed was a file or nothing before. -/
theorem way?_eq_none (h : tree.Writes paths tree') {place : Place} {content : Content}
    (hfile : tree'.get? place = some (.file content)) : tree.way? place = none := by
  rw [← h.ways.way? place]
  exact way?_eq_none_iff.mpr (.inr ⟨content, hfile⟩)

end Writes

/-- How a place differs between two trees: a file was written to which one of some
paths leads, where a file or nothing was before, or a directory was made where
nothing was, to which the path of a destination or a path above it leads. -/
inductive Change (destination : Path) (paths : List Path) (tree tree' : FileTree)
    (place : Place) : Prop
  | written (path : Path) (told : path ∈ paths) (content : Content)
      (before : tree.way? place = none) (after : tree'.get? place = some (.file content))
      (led : tree'.locate .follow path = .ok place)
  | opened (n : Nat) (before : tree.get? place = none)
      (after : tree'.get? place = some .directory)
      (led : tree'.locate .follow ⟨destination.root, destination.parts.take n⟩ = .ok place)

/-- First the way to the destination is opened, and then files are written. -/
theorem Opens.change {destination : Path} {paths : List Path} {tree tree' tree'' : FileTree}
    (h : Opens destination tree tree') (h' : tree'.Writes paths tree'') {place : Place}
    (changed : tree''.get? place ≠ tree.get? place) :
    Change destination paths tree tree'' place := by
  rcases h'.get? place with same | ⟨⟨content, after⟩, path, hmem, located⟩
  · rcases h.get? place with unopened | ⟨absent, made⟩
    · exact absurd (same.trans unopened) changed
    · obtain ⟨n, located⟩ := h.led place absent made
      exact .opened n absent (same.trans made) (locate_of_sameWays h'.ways (by decide) located)
  · have before := h'.way?_eq_none after
    refine .written path hmem content ?_ after located
    -- No directory or link was there before the way was opened either.
    rcases h.get? place with unopened | ⟨absent, -⟩
    · rw [way?, ← unopened]
      exact before
    · exact way?_eq_none_iff.mpr (.inl absent)

end FileTree

/-- What an event tells about the files: a page is written where its path leads and
nothing else changes, and a warning changes nothing. -/
def Event.Edits : Event → FileTree → FileTree → Prop
  | .generated path, tree, tree' => tree.Writes [path] tree'
  | .warning _, tree, tree' =>
    tree'.here = tree.here ∧ ∀ place, tree'.get? place = tree.get? place

theorem Event.Edits.writes {event : Event} {tree tree' : FileTree}
    (h : event.Edits tree tree') : tree.Writes event.path?.toList tree' := by
  cases event with
  | generated path => exact h
  | warning message =>
      obtain ⟨here, same⟩ := h
      exact ⟨⟨here, fun place => by rw [FileTree.way?, FileTree.way?, same]⟩,
        fun place => .inl (same place)⟩

namespace Action

variable {job : Job} {listeners : Listeners}

inductive EditingTurns (job : Job) (listeners : Listeners) :
    Workspace → List Descriptor → List Event → Workspace → Prop
  | nil (w : Workspace) : EditingTurns job listeners w [] [] w
  | cons {d : Descriptor} {rest : List Descriptor} {event : Event} {events : List Event}
      {w w₁ w₂ : Workspace} (turn : Turn job listeners d w event w₁)
      (edits : event.Edits w.tree w₁.tree)
      (turns : EditingTurns job listeners w₁ rest events w₂) :
      EditingTurns job listeners w (d :: rest) (event :: events) w₂

/-! ### One turn -/

theorem edits_warning {w w' : Workspace} (message : String)
    (unlogged : ∀ place, ¬ w.hub.LogsTo place) (kept : w.KeepsFiles w') :
    (Event.warning message).Edits w.tree w'.tree :=
  ⟨kept.files.ways.here, fun place => kept.files.get? place (unlogged place)⟩

theorem PutsPage.writes {destination : String} {page : Page} {place : Place} {w w' : Workspace}
    (h : PutsPage destination page place w w') (unlogged : ∀ place, ¬ w.hub.LogsTo place) :
    w.tree.Writes [page.path destination] w'.tree := by
  refine ⟨h.files.ways, fun other => ?_⟩
  by_cases heq : other = place
  · subst heq
    refine .inr ⟨⟨_, h.content (unlogged other)⟩, _, List.mem_singleton_self _, ?_⟩
    exact h.locate w'.tree (.refl _)
  · exact .inl (h.files.get? other (not_or.mpr ⟨unlogged other, heq⟩))

/-- A turn keeps the log as it is set up and changes the files as its event tells. -/
theorem Turn.edits (quiet : listeners.KeepFiles) {d : Descriptor} {event : Event}
    {w w' : Workspace} (unlogged : ∀ place, ¬ w.hub.LogsTo place)
    (turn : Turn job listeners d w event w') :
    w'.hub = w.hub ∧ event.Edits w.tree w'.tree := by
  cases event with
  | warning message =>
      have kept := turn.keepsFiles_of_warning quiet
      exact ⟨kept.hub, edits_warning message unlogged kept⟩
  | generated path =>
      cases turn with
      | documented rendered written told =>
          obtain ⟨rfl, -⟩ := writePage_eq_ok_iff.mp written
          obtain ⟨place, puts⟩ := exists_putsPage quiet rendered written told
          exact ⟨puts.hub, puts.writes unlogged⟩

/-! ### The whole run -/

theorem Turns.editingTurns (quiet : listeners.KeepFiles) {ds : List Descriptor}
    {events : List Event} {w w' : Workspace} (unlogged : ∀ place, ¬ w.hub.LogsTo place)
    (turns : Turns job listeners w ds events w') : EditingTurns job listeners w ds events w' := by
  induction turns with
  | nil w => exact .nil w
  | cons turn turns ih =>
      obtain ⟨hhub, edits⟩ := turn.edits quiet unlogged
      exact .cons turn edits (ih (hhub ▸ unlogged))

/-- The files that turns change are those to which the paths of their events lead. -/
theorem EditingTurns.writes {ds : List Descriptor} {events : List Event} {w w' : Workspace}
    (turns : EditingTurns job listeners w ds events w') :
    w.tree.Writes (events.filterMap Event.path?) w'.tree := by
  induction turns with
  | nil w => exact .refl _ _
  | @cons d rest event events w w₁ w₂ turn edits turns ih =>
      have paths : (event :: events).filterMap Event.path? =
          event.path?.toList ++ events.filterMap Event.path? := by
        cases event <;> rfl
      rw [paths]
      exact edits.writes.trans ih

/-- What a run that returns leaves in the file tree, when nobody listening changes
files and the log has none: a place that is not as before holds a file to which a
path of the report leads, or is a new directory, the destination or one above it.
Reading the manifests changes nothing, and neither does a run without commands.
Otherwise the way to the destination is opened, and each command in turn changes
the file of its page, or nothing when a warning came of it. This is for disks with
room, where a write that is let in is carried out whole. -/
theorem generate_footprint {report : Report} {w w' : Workspace} (quiet : listeners.KeepFiles)
    (unlogged : ∀ place, ¬ w.hub.LogsTo place)
    (h : (generate job listeners).outcome w = (.ok report, w')) :
    (∀ place, w'.tree.get? place ≠ w.tree.get? place →
        FileTree.Change (Path.ofString job.destination) report.generated w.tree w'.tree place) ∧
      ∃ ds w₁, (readCommands job.source job.manifestName job.scanPlugins).outcome w =
          (.ok ds, w₁) ∧
        w₁.tree = w.tree ∧
        (ds = [] → ∀ place, w'.tree.get? place = w.tree.get? place) ∧
        (ds ≠ [] → ∃ w₂ events,
          FileTree.Opens (Path.ofString job.destination) w.tree w₂.tree ∧
            EditingTurns job listeners w₂ ds events w' ∧
            report.generated = events.filterMap Event.path? ∧
            report.warnings = events.filterMap Event.message?) := by
  obtain ⟨ds, w₁, read, h⟩ := generate_eq_ok_iff.mp h
  have reading :=
    Workspace.onlyLogs_framing.readCommands job.source job.manifestName job.scanPlugins w
  rw [read] at reading
  have still : w₁.tree = w.tree := reading.tree.still unlogged
  have unlogged₁ : ∀ place, ¬ w₁.hub.LogsTo place := reading.hub ▸ unlogged
  rcases h with ⟨rfl, told, rfl⟩ | ⟨hne, destination, w₂, events, made, turns, rfl⟩
  · have kept := keepsFiles_of_told quiet told
    have same (place : Place) : w'.tree.get? place = w.tree.get? place := by
      rw [← still]
      exact kept.files.get? place (unlogged₁ place)
    refine ⟨fun place changed => absurd (same place) changed, [], w₁, read, still,
      fun _ => same, fun hne => absurd rfl hne⟩
  · have opened := outcome_ensureDestination_snd job.destination w₁
    rw [made, still] at opened
    dsimp only at opened
    have opens : FileTree.Opens (Path.ofString job.destination) w.tree w₂.tree := by
      rw [opened]
      exact FileTree.opens_ensureDirectory _ _
    have unlogged₂ : ∀ place, ¬ w₂.hub.LogsTo place := by
      rw [opened]
      exact unlogged₁
    have edited := turns.editingTurns quiet unlogged₂
    exact ⟨fun place changed => opens.change edited.writes changed, ds, w₁, read, still,
      fun hnil => absurd hnil hne, fun _ => ⟨w₂, events, opens, edited, rfl, rfl⟩⟩

end Action

end CommandManual
