import CommandManual.Proofs.Manual.Command
import CommandManual.Proofs.Manual.Turns
import Mathlib.Data.List.Forall2

/-!
The report of a run accounts for every command once. A run reads the commands of
the project first. Without commands it gives one warning and touches no file;
otherwise each command has its turn, and the report lists the pages and the
warnings that came of the turns, in the order in which they were told.
-/

namespace CommandManual

/-- What may come of a command: its page at its place in the destination, or a
warning. -/
def Event.Concerns (destination : String) (d : Descriptor) : Event → Prop
  | .generated path => path = outputPath destination (d.commandName ++ ".md")
  | .warning _ => True

theorem Event.length_paths_add_length_messages (events : List Event) :
    (events.filterMap Event.path?).length + (events.filterMap Event.message?).length =
      events.length := by
  induction events with
  | nil => rfl
  | cons event rest ih =>
      cases event with
      | generated path =>
          simp only [List.filterMap_cons, Event.path?, Event.message?, List.length_cons]
          omega
      | warning message =>
          simp only [List.filterMap_cons, Event.path?, Event.message?, List.length_cons]
          omega

/-! ### Listeners that keep what they hear -/

namespace Listeners

def hears (listeners : Listeners) : Event → Bool
  | .generated _ => listeners.onGenerated.isSome
  | .warning _ => listeners.onWarning.isSome

/-- Whoever is called keeps the one event of this call, and does to the rest of the
workspace what it likes. -/
structure Recording (listeners : Listeners) : Prop where
  generated : ∀ f, listeners.onGenerated = some f → ∀ path w,
    ((f path).outcome w).2.events = w.events ++ [.generated path]
  warning : ∀ f, listeners.onWarning = some f → ∀ message w,
    ((f message).outcome w).2.events = w.events ++ [.warning message]

variable {listeners : Listeners}

theorem paths_filter_hears (events : List Event) :
    (events.filter listeners.hears).filterMap Event.path? =
      if listeners.onGenerated.isSome then events.filterMap Event.path? else [] := by
  induction events with
  | nil => simp
  | cons event rest ih =>
      cases event <;> cases hg : listeners.onGenerated <;> cases hw : listeners.onWarning <;>
        simp_all [hears, Event.path?, List.filterMap_cons]

theorem messages_filter_hears (events : List Event) :
    (events.filter listeners.hears).filterMap Event.message? =
      if listeners.onWarning.isSome then events.filterMap Event.message? else [] := by
  induction events with
  | nil => simp
  | cons event rest ih =>
      cases event <;> cases hg : listeners.onGenerated <;> cases hw : listeners.onWarning <;>
        simp_all [hears, Event.message?, List.filterMap_cons]

end Listeners

namespace Action

/-- What is told is kept by a recording listener, once. -/
theorem Told.events {listeners : Listeners} (recording : listeners.Recording) {event : Event}
    {w w' : Workspace} (told : Told listeners event w w') :
    w'.events = w.events ++ [event].filter listeners.hears := by
  have told : (tell listeners event).outcome (w.deliver (event.record listeners)) = (.ok (), w') :=
    told
  rw [show w' = ((tell listeners event).outcome (w.deliver (event.record listeners))).2 by
    rw [told]]
  cases event with
  | generated path =>
      rcases hf : listeners.onGenerated with _ | f
      · simp [tell, Listeners.hears, hf, Workspace.deliver]
      · simp [tell, Listeners.hears, hf, recording.generated f hf, Workspace.deliver]
  | warning message =>
      rcases hf : listeners.onWarning with _ | f
      · simp [tell, Listeners.hears, hf, Workspace.deliver]
      · simp [tell, Listeners.hears, hf, recording.warning f hf, Workspace.deliver]

/-! ### Turns and their events -/

theorem Turn.concerns {job : Job} {listeners : Listeners} {d : Descriptor} {event : Event}
    {w w' : Workspace} (turn : Turn job listeners d w event w') :
    event.Concerns job.destination d := by
  cases turn with
  | documented rendered written told =>
      have hname := commandName_of_renderCommand rendered
      obtain ⟨rfl, -⟩ := writePage_eq_ok_iff.mp written
      rw [Event.Concerns, Page.fileName, hname]
  | skipped failed caught worded told => trivial

theorem Turns.concerns {job : Job} {listeners : Listeners} {ds : List Descriptor}
    {events : List Event} {w w' : Workspace} (turns : Turns job listeners w ds events w') :
    List.Forall₂ (fun d event => event.Concerns job.destination d) ds events := by
  induction turns with
  | nil w => exact .nil
  | cons turn turns ih => exact .cons turn.concerns ih

theorem Turn.kept {job : Job} {listeners : Listeners} (recording : listeners.Recording)
    {d : Descriptor} {event : Event} {w w' : Workspace} (turn : Turn job listeners d w event w') :
    w'.events = w.events ++ [event].filter listeners.hears := by
  have silent := events_documentCommand job d w
  cases turn with
  | documented rendered written told =>
      rw [documentCommand_eq_ok_iff.mpr ⟨_, _, rendered, written⟩] at silent
      rw [told.events recording]
      exact congrArg (· ++ _) silent
  | skipped failed caught worded told =>
      rw [failed] at silent
      rw [told.events recording]
      exact congrArg (· ++ _) silent

theorem Turns.kept {job : Job} {listeners : Listeners} (recording : listeners.Recording)
    {ds : List Descriptor} {events : List Event} {w w' : Workspace}
    (turns : Turns job listeners w ds events w') :
    w'.events = w.events ++ events.filter listeners.hears := by
  induction turns with
  | nil w => simp
  | cons turn turns ih =>
      rw [ih, turn.kept recording, List.append_assoc, ← List.filter_append, List.singleton_append]

/-! ### The whole run -/

/-- When a run returns: it has read the commands, and it has either warned that
there are none, or made the destination and given each command its turn. -/
theorem generate_eq_ok_iff {job : Job} {listeners : Listeners} {report : Report}
    {w w' : Workspace} :
    (generate job listeners).outcome w = (.ok report, w') ↔
      ∃ ds w₁, (readCommands job.source job.manifestName job.scanPlugins).outcome w =
          (.ok ds, w₁) ∧
        (ds = [] ∧ Told listeners (.warning noCommandsWarning) w₁ w' ∧
            report = { warnings := [noCommandsWarning] } ∨
          ds ≠ [] ∧ ∃ destination w₂ events,
            (ensureDestination job.destination).outcome w₁ = (.ok destination, w₂) ∧
              Turns job listeners w₂ ds events w' ∧
              report = Report.add { commandsFound := ds.length } events) := by
  unfold generate
  rw [outcome_bind_eq_ok]
  refine exists_congr fun ds => exists_congr fun w₁ => and_congr_right fun _ => ?_
  cases ds with
  | nil =>
      simp only [List.isEmpty_nil, if_true, outcome_bind_eq_ok, outcome_warn, true_and, ne_eq,
        not_true_eq_false, false_and, or_false]
      constructor
      · rintro ⟨_, _, told, h⟩
        cases h
        exact ⟨told, rfl⟩
      · rintro ⟨told, rfl⟩
        exact ⟨(), w', told, rfl⟩
  | cons d rest =>
      simp only [List.isEmpty_cons, Bool.false_eq_true, if_false, outcome_bind_eq_ok,
        documentAll_eq_ok_iff, reduceCtorEq, false_and, ne_eq, not_false_eq_true, true_and,
        false_or]
      constructor
      · rintro ⟨destination, w₂, made, events, turns, rfl⟩
        exact ⟨destination, w₂, events, made, turns, rfl⟩
      · rintro ⟨destination, w₂, events, made, turns, rfl⟩
        exact ⟨destination, w₂, made, events, turns, rfl⟩

/-- Whenever a run returns a report, the report counts the commands that were
read. Without commands, its only warning says so, and nothing but the log was
touched when that was told. Otherwise one event comes of each command in turn,
and is told once: the page at the command's place in the destination, or one
warning. The report lists the pages and the warnings of these events in their
order. Whoever listens is called for just these, in their order, as those find who
keep the events that they are called for. -/
theorem report_accounts_for_commands {job : Job} {listeners : Listeners} {report : Report}
    {w w' : Workspace} (h : (generate job listeners).outcome w = (.ok report, w')) :
    (∃ ds w₁, (readCommands job.source job.manifestName job.scanPlugins).outcome w =
        (.ok ds, w₁) ∧
      report.commandsFound = ds.length ∧
      (ds = [] →
        report.generated = [] ∧ report.warnings = [noCommandsWarning] ∧
          ∃ u, w.KeepsFiles u ∧
            (tell listeners (.warning noCommandsWarning)).outcome u = (.ok (), w')) ∧
      (ds ≠ [] → ∃ destination w₂ events,
        (ensureDestination job.destination).outcome w₁ = (.ok destination, w₂) ∧
          Turns job listeners w₂ ds events w' ∧
          List.Forall₂ (fun d event => event.Concerns job.destination d) ds events ∧
          report.generated = events.filterMap Event.path? ∧
          report.warnings = events.filterMap Event.message? ∧
          report.generated.length + report.warnings.length = ds.length)) ∧
      (listeners.Recording → ∃ calls, w'.events = w.events ++ calls ∧
        calls.filterMap Event.path? =
          (if listeners.onGenerated.isSome then report.generated else []) ∧
        calls.filterMap Event.message? =
          if listeners.onWarning.isSome then report.warnings else []) := by
  obtain ⟨ds, w₁, read, h⟩ := generate_eq_ok_iff.mp h
  have silent : w₁.events = w.events := by
    have kept := events_wideFraming.readCommands job.source job.manifestName job.scanPlugins w
    rwa [read] at kept
  rcases h with ⟨rfl, told, rfl⟩ | ⟨hne, destination, w₂, events, made, turns, rfl⟩
  · -- Without commands the only call is the one about that.
    refine ⟨⟨[], w₁, read, rfl, fun _ => ⟨rfl, rfl, _, ?_, told⟩, fun hne => absurd rfl hne⟩,
      fun recording => ⟨[.warning noCommandsWarning].filter listeners.hears, ?_, ?_, ?_⟩⟩
    · have kept := keepsFiles_readCommands job.source job.manifestName job.scanPlugins w
      rw [read] at kept
      exact kept.trans (w₁.keepsFiles_deliver _)
    · rw [told.events recording, silent]
    · exact Listeners.paths_filter_hears _
    · exact Listeners.messages_filter_hears _
  · refine ⟨⟨ds, w₁, read, rfl, fun hnil => absurd hnil hne, fun _ => ?_⟩,
      fun recording => ⟨events.filter listeners.hears, ?_, ?_, ?_⟩⟩
    · refine ⟨destination, w₂, events, made, turns, turns.concerns, rfl, rfl, ?_⟩
      rw [turns.concerns.length_eq]
      exact Event.length_paths_add_length_messages events
    · -- Making the destination calls nobody, so the calls are those of the turns.
      have ready : w₂.events = w₁.events := by
        have kept := congrArg Workspace.events (outcome_ensureDestination_snd job.destination w₁)
        rwa [made] at kept
      rw [turns.kept recording, ready, silent]
    · exact Listeners.paths_filter_hears events
    · exact Listeners.messages_filter_hears events

/-- A project with one command that the registry knows and one that it does not. -/
def greetingProject : Workspace where
  tree :=
    { entries :=
        [(["p"], .directory),
          (["p", "composer.json"],
            .file (.text "\x7b\"extra\": \x7b\"commands\": [\"greet\", \"lost\"]\x7d\x7d".toList))]
      here := ["p"] }
  registry :=
    { targets :=
        [("greet", .object (.cls
          (.mk 1000 "Greet" [("hello", .function { doc := .text "Say hi.".toList })]
            [Script.Class.object])))] }

def recorders : Listeners where
  onGenerated := some fun path => keep (.generated path)
  onWarning := some fun message => keep (.warning message)

theorem recording_recorders : recorders.Recording where
  generated := by
    rintro f ⟨⟩ path w
    rfl
  warning := by
    rintro f ⟨⟩ message w
    rfl

/-- The page of the one command and the warning for the other are each told once. -/
theorem report_accounts_for_greeting :
    ∃ report w' calls, (generate {} recorders).outcome greetingProject = (.ok report, w') ∧
      report.generated.length + report.warnings.length = 2 ∧
      w'.events = greetingProject.events ++ calls ∧
      calls.filterMap Event.path? = [outputPath "docs/" "greet.md"] ∧
      calls.filterMap Event.message? = ["No class registered for command: lost"] := by
  have returned : ((generate {} recorders).outcome greetingProject).1.toOption =
      some
        { commandsFound := 2
          generated := [outputPath "docs/" "greet.md"]
          warnings := ["No class registered for command: lost"] } := by
    decide +kernel
  rcases hrun : (generate {} recorders).outcome greetingProject with ⟨fault | report, w'⟩
  · rw [hrun] at returned
    cases returned
  · rw [hrun] at returned
    cases returned
    obtain ⟨⟨ds, w₁, -, found, -, accounted⟩, told⟩ := report_accounts_for_commands hrun
    have hlength : ds.length = 2 := by
      have : (2 : Int) = ds.length := found
      omega
    have hne : ds ≠ [] := by
      rintro rfl
      cases hlength
    obtain ⟨_, _, _, -, -, -, -, -, total⟩ := accounted hne
    obtain ⟨calls, kept, paths, messages⟩ := told recording_recorders
    exact ⟨_, w', calls, rfl, total.trans hlength, kept, paths, messages⟩

end Action

end CommandManual
