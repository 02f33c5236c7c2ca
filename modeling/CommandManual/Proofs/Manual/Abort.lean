import CommandManual.Proofs.Files.Directories
import CommandManual.Proofs.Manual.Isolation

/-!
Runs that end in a fault of the configuration. The program itself finds such a fault
in the manifests or at the destination, and it deals with both before the first page is
written: then the run has written no file, and has at most made some of the directories
on the way to the destination. The one other source is a module that signals such a
fault while it is imported for a command. By then the commands before that one have had
their turns, and what these have written stays.
-/

namespace CommandManual

open CommandManual.Script

namespace Action

variable {job : Job} {listeners : Listeners}

/-! ### Where faults of the configuration come from -/

theorem settled_tell (heard : listeners.Answer) (event : Event) :
    (tell listeners event).Settled := by
  intro w
  obtain ⟨w', told⟩ := heard event w
  rw [told]
  exact settles_ok ()

theorem settled_warn (heard : listeners.Answer) (message : String) :
    (warn listeners message).Settled :=
  .bind (settled_note _ _ _ _) fun _ => settled_tell heard _

/-- The turns of some commands lead to one for which a module signals a fault of the
configuration, and that ends the run. -/
def EndsSignalled (job : Job) (listeners : Listeners) (ds : List Descriptor) (w : Workspace)
    (r : Raised) (w' : Workspace) : Prop :=
  ∃ before d after events u, ds = before ++ d :: after ∧
    Turns job listeners w before events u ∧ Signals d u .configuration r ∧
    (documentCommand job d).outcome u = (.error (.signalled .configuration r), w')

theorem EndsSignalled.cons {d : Descriptor} {rest : List Descriptor} {event : Event}
    {w w₁ w' : Workspace} {r : Raised} (turn : Turn job listeners d w event w₁)
    (h : EndsSignalled job listeners rest w₁ r w') :
    EndsSignalled job listeners (d :: rest) w r w' := by
  obtain ⟨before, d', after, events, u, rfl, turns, signals, failed⟩ := h
  exact ⟨d :: before, d', after, event :: events, u, rfl, .cons turn turns, signals, failed⟩

/-- When the loop over the commands ends in a fault of the configuration, a module has
signalled it for a command; telling what came of the commands before has no part in it. -/
theorem endsSignalled_of_documentAll (heard : listeners.Answer) {report : Report}
    {ds : List Descriptor} {w w' : Workspace} {fault : Fault}
    (h : (documentAll job listeners report ds).outcome w = (.error fault, w'))
    (explained : fault.isExplained = true) :
    ∃ r, fault = .signalled .configuration r ∧ EndsSignalled job listeners ds w r w' := by
  induction ds generalizing report w with
  | nil => cases h
  | cons d rest ih =>
      -- A step that settles leaves the fault to what comes after it.
      have passed {α : Type} {x : Action α} {f : α → Action Report} {u : Workspace}
          (hx : x.Settled) (h : (x >>= f).outcome u = (.error fault, w')) :
          ∃ a u', x.outcome u = (.ok a, u') ∧ (f a).outcome u' = (.error fault, w') := by
        rcases outcome_bind_eq_error.mp h with h | later
        · refine absurd ⟨congrArg Prod.fst h, ?_⟩ (hx.not_unsettled u fault)
          exact Fault.isSettled_of_isExplained explained
        · exact later
      rw [documentAll, outcome_bind, outcome_attempt] at h
      rcases hd : (documentCommand job d).outcome w with ⟨e | path, w₁⟩
      all_goals
        rw [hd] at h
        dsimp only at h
      · split at h
        · rename_i caught
          rcases hworded : e.worded with e' | message
          · rw [hworded, outcome_bind, outcome_ofExcept] at h
            obtain ⟨_, _, e', -, -, rfl⟩ := worded_eq_error_iff.mp hworded
            cases h
            cases explained
          · rw [hworded, outcome_bind, outcome_ofExcept] at h
            obtain ⟨_, w₂, warned, h⟩ := passed (settled_warn heard message) h
            obtain ⟨r, hr, ends⟩ := ih h
            rw [outcome_warn] at warned
            exact ⟨r, hr, ends.cons ((turn_iff_of_error hd).mpr
              ⟨caught, message, hworded, rfl, warned⟩)⟩
        · -- The work on this command itself has ended the loop.
          cases h
          obtain ⟨kind, r, rfl, signals⟩ := documentCommand_unsettled_iff.mp
            ⟨congrArg Prod.fst hd, Fault.isSettled_of_isExplained explained⟩
          obtain rfl : kind = .configuration := by simpa [Fault.isExplained] using explained
          exact ⟨r, rfl, [], d, rest, [], w, rfl, .nil w, signals, hd⟩
      · rw [outcome_bind, outcome_note] at h
        obtain ⟨_, w₂, told, h⟩ := passed (settled_tell heard _) h
        obtain ⟨r, hr, ends⟩ := ih h
        exact ⟨r, hr, ends.cons ((turn_iff_of_ok hd).mpr ⟨rfl, told⟩)⟩

/-! ### The whole run -/

/-- A fault of the configuration comes from the manifests, from the destination, or from a
module that signals it. -/
theorem generate_explained_cases (heard : listeners.Answer) {fault : Fault} {w w' : Workspace}
    (h : (generate job listeners).outcome w = (.error fault, w'))
    (explained : fault.isExplained = true) :
    (readCommands job.source job.manifestName job.scanPlugins).outcome w = (.error fault, w') ∨
      ∃ ds w₁, (readCommands job.source job.manifestName job.scanPlugins).outcome w =
          (.ok ds, w₁) ∧
        ((ensureDestination job.destination).outcome w₁ = (.error fault, w') ∨
          ∃ destination w₂ r, (ensureDestination job.destination).outcome w₁ =
              (.ok destination, w₂) ∧
            fault = .signalled .configuration r ∧ EndsSignalled job listeners ds w₂ r w') := by
  rw [generate] at h
  rcases outcome_bind_eq_error.mp h with h | ⟨ds, w₁, read, h⟩
  · exact .inl h
  refine .inr ⟨ds, w₁, read, ?_⟩
  split at h
  · have settled := (settled_warn heard noCommandsWarning).bind fun _ =>
      settled_pure ({ warnings := [noCommandsWarning] } : Report)
    exact absurd ⟨congrArg Prod.fst h, Fault.isSettled_of_isExplained explained⟩
      (settled.not_unsettled w₁ fault)
  · rcases outcome_bind_eq_error.mp h with h | ⟨destination, w₂, made, h⟩
    · exact .inl h
    · obtain ⟨r, hr, ends⟩ := endsSignalled_of_documentAll heard h explained
      exact .inr ⟨destination, w₂, r, made, hr, ends⟩

theorem outcome_ensureDestination_tree (destination : String) (w : Workspace) :
    ((ensureDestination destination).outcome w).2.tree =
      (w.tree.ensureDirectory (Path.ofString destination)).2 := by
  rw [outcome_ensureDestination_snd]

/-- A run that ends in a fault of the configuration has not touched a file, unless a module
has signalled the fault while it was imported for a command, after the turns of the commands
before. When the manifests are at fault, the tree is what it was; when the destination is, it
may have more directories, to which the path of the destination or a path above it leads.
This is said of listeners that do not fail and of a log without files. -/
theorem explained_fault_before_output_unless_signalled (heard : listeners.Answer)
    {fault : Fault} {w w' : Workspace} (unlogged : ∀ place, ¬ w.hub.LogsTo place)
    (h : (generate job listeners).outcome w = (.error fault, w'))
    (explained : fault.isExplained = true) :
    ((∀ place content, w'.tree.get? place = some (.file content) ↔
          w.tree.get? place = some (.file content)) ∧
        ((readCommands job.source job.manifestName job.scanPlugins).outcome w =
            (.error fault, w') ∧ w'.tree = w.tree ∨
          ∃ ds w₁, (readCommands job.source job.manifestName job.scanPlugins).outcome w =
              (.ok ds, w₁) ∧
            (ensureDestination job.destination).outcome w₁ = (.error fault, w') ∧
            FileTree.Opens (Path.ofString job.destination) w.tree w'.tree)) ∨
      ∃ ds w₁ destination w₂ r,
        (readCommands job.source job.manifestName job.scanPlugins).outcome w = (.ok ds, w₁) ∧
          (ensureDestination job.destination).outcome w₁ = (.ok destination, w₂) ∧
          fault = .signalled .configuration r ∧ EndsSignalled job listeners ds w₂ r w' := by
  have kept :=
    Workspace.onlyLogs_framing.readCommands job.source job.manifestName job.scanPlugins w
  rcases generate_explained_cases heard h explained with
    failed | ⟨ds, w₁, read, failed | ⟨destination, w₂, r, made, hr, ends⟩⟩
  · rw [failed] at kept
    have still : w'.tree = w.tree := kept.tree.still unlogged
    exact .inl ⟨fun place content => by rw [still], .inl ⟨failed, still⟩⟩
  · rw [read] at kept
    have still : w₁.tree = w.tree := kept.tree.still unlogged
    have opens : FileTree.Opens (Path.ofString job.destination) w.tree w'.tree := by
      have made := outcome_ensureDestination_tree job.destination w₁
      rw [failed, still] at made
      exact made ▸ FileTree.opens_ensureDirectory _ _
    refine .inl ⟨fun place content => ?_, .inr ⟨ds, w₁, read, failed, opens⟩⟩
    rcases opens.get? place with same | ⟨absent, made⟩
    · rw [same]
    · simp [absent, made]
  · exact .inr ⟨ds, w₁, destination, w₂, r, read, made, hr, ends⟩

def endsExplained : Except Fault Report → Bool
  | .error fault => fault.isExplained
  | .ok _ => false

def isDirectoryAt (tree : FileTree) (place : Place) : Bool :=
  match tree.get? place with
  | some .directory => true
  | _ => false

def isFileAt (tree : FileTree) (place : Place) : Bool :=
  match tree.get? place with
  | some (.file _) => true
  | _ => false

theorem answer_of_silent : Listeners.Answer {} := by
  intro event w
  cases event <;> exact ⟨w, rfl⟩

def blockedJob : Job := { destination := "new/../composer.json" }

/-- The new directory is made and stays, and nothing else changes. -/
theorem blocked_destination_before_output :
    ∃ fault w', (generate blockedJob {}).outcome greetingProject = (.error fault, w') ∧
      fault.isExplained = true ∧ isDirectoryAt greetingProject.tree ["p", "new"] = false ∧
      isDirectoryAt w'.tree ["p", "new"] = true ∧
      ∀ place content, w'.tree.get? place = some (.file content) ↔
        greetingProject.tree.get? place = some (.file content) := by
  have ends : endsExplained ((generate blockedJob {}).outcome greetingProject).1 = true := by
    decide +kernel
  have made : isDirectoryAt ((generate blockedJob {}).outcome greetingProject).2.tree
      ["p", "new"] = true := by
    decide +kernel
  have undestined : ((ensureDestination blockedJob.destination).outcome
      ((readCommands blockedJob.source blockedJob.manifestName
        blockedJob.scanPlugins).outcome greetingProject).2).1.toOption = none := by
    decide +kernel
  have unlogged : ∀ place, ¬ greetingProject.hub.LogsTo place := by
    rintro place ⟨id, level, hmem⟩
    cases hmem
  rcases hrun : (generate blockedJob {}).outcome greetingProject with ⟨fault | report, w'⟩
  all_goals rw [hrun] at ends made
  · refine ⟨fault, w', rfl, ends, rfl, made, ?_⟩
    rcases explained_fault_before_output_unless_signalled answer_of_silent unlogged hrun ends with
      ⟨still, -⟩ | ⟨_, w₁, _, _, _, read, opened, -⟩
    · exact still
    -- The destination of this run cannot be made.
    · rw [read, opened] at undestined
      cases undestined
  · cases ends

/-- A project with a command that is documented, and another one whose class is in a
module that raises an error of its own kind, which is a fault of the configuration. -/
def haltingProject : Workspace where
  tree :=
    { entries :=
        [(["p"], .directory),
          (["p", "composer.json"],
            .file (.text ("\x7b\"extra\": \x7b\"commands\": [\"greet\"], " ++
              "\"wp-cli-commands\": \x7b\"odd\": \x7b\"class\": \"evil:Odd\"\x7d\x7d\x7d\x7d").toList)),
          (["p", "evil.py"],
            .file (.script
              [.useModule "manify.core.exceptions" ["ConfigurationError"],
                .classBlock "Halt" ["ValueError", "ConfigurationError"] .absent [],
                .throw "Halt" (some (.str "boom"))]))]
      here := ["p"] }
  memory := { searchPath := ["/p"] }
  registry := greetingProject.registry

/-- The run ends in a fault of the configuration after it has written a page. -/
theorem signalled_fault_after_output :
    let run := (generate {} {}).outcome haltingProject
    endsExplained run.1 = true ∧ isFileAt haltingProject.tree ["p", "docs", "greet.md"] = false ∧
      isFileAt run.2.tree ["p", "docs", "greet.md"] = true := by
  decide +kernel

end Action

end CommandManual
