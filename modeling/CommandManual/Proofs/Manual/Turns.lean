import CommandManual.Manual.Generate
import CommandManual.Proofs.Frame

/-!
A run of the generator as a chain of turns. Every command has one turn: its page
is rendered and written, or the work on it ends in a fault that only ends the
work on one command. Either way one event comes of it, which is logged and told
to whoever listens to its kind, and the next command starts from the workspace
that this leaves. `documentAll_eq_ok_iff` says that the loop over the commands
returns exactly when there is such a chain, and that its report is read off the
events.
-/

namespace CommandManual

def Event.path? : Event → Option Path
  | .generated path => some path
  | .warning _ => none

def Event.message? : Event → Option String
  | .generated _ => none
  | .warning message => some message

def Event.record (listeners : Listeners) : Event → Log.Record
  | .generated path =>
    .named pipelineLogger .info ("Generated " ++ path.toString) [("path", .str path.toString)]
  | .warning message =>
    .named pipelineLogger (if listeners.onWarning.isSome then .debug else .warning) message []

def Report.add (r : Report) (events : List Event) : Report :=
  { r with
    generated := r.generated ++ events.filterMap Event.path?
    warnings := r.warnings ++ events.filterMap Event.message? }

theorem Report.add_nil (r : Report) : r.add [] = r := by
  simp [Report.add]

theorem Report.add_generated (r : Report) (path : Path) :
    r.add [.generated path] = { r with generated := r.generated ++ [path] } := by
  simp [Report.add, Event.path?, Event.message?, List.filterMap_cons]

theorem Report.add_warning (r : Report) (message : String) :
    r.add [.warning message] = { r with warnings := r.warnings ++ [message] } := by
  simp [Report.add, Event.path?, Event.message?, List.filterMap_cons]

theorem Report.add_cons (r : Report) (event : Event) (events : List Event) :
    r.add (event :: events) = (r.add [event]).add events := by
  cases event <;> simp [Report.add, Event.path?, Event.message?, List.filterMap_cons]

namespace Action

/-- In the first workspace an event is logged and then told once to whoever
listens to its kind, which leaves the second workspace. -/
def Told (listeners : Listeners) (event : Event) (w w' : Workspace) : Prop :=
  (tell listeners event).outcome (w.deliver (event.record listeners)) = (.ok (), w')

inductive Turn (job : Job) (listeners : Listeners) (d : Descriptor) (w : Workspace) :
    Event → Workspace → Prop
  | documented {page : Page} {path : Path} {w₁ w₂ w' : Workspace}
      (rendered : (renderCommand job.headingLead d).outcome w = (.ok page, w₁))
      (written : (writePage job.destination page).outcome w₁ = (.ok path, w₂))
      (told : Told listeners (.generated path) w₂ w') :
      Turn job listeners d w (.generated path) w'
  | skipped {fault : Fault} {message : String} {w₁ w' : Workspace}
      (failed : (documentCommand job d).outcome w = (.error fault, w₁))
      (caught : fault.endsOneCommand = true) (worded : fault.worded = .ok message)
      (told : Told listeners (.warning message) w₁ w') :
      Turn job listeners d w (.warning message) w'

/-- The turns of commands one after the other, with the events in their order. -/
inductive Turns (job : Job) (listeners : Listeners) :
    Workspace → List Descriptor → List Event → Workspace → Prop
  | nil (w : Workspace) : Turns job listeners w [] [] w
  | cons {d : Descriptor} {rest : List Descriptor} {event : Event} {events : List Event}
      {w w₁ w₂ : Workspace} (turn : Turn job listeners d w event w₁)
      (turns : Turns job listeners w₁ rest events w₂) :
      Turns job listeners w (d :: rest) (event :: events) w₂

/-! ### The loop over the commands -/

theorem outcome_warn (listeners : Listeners) (message : String) (w : Workspace) :
    (warn listeners message).outcome w =
      (tell listeners (.warning message)).outcome
        (w.deliver ((Event.warning message).record listeners)) := by
  rw [warn, outcome_bind, outcome_note]
  rfl

theorem documentCommand_eq_ok_iff {job : Job} {d : Descriptor} {w w' : Workspace}
    {path : Path} :
    (documentCommand job d).outcome w = (.ok path, w') ↔
      ∃ page w₁, (renderCommand job.headingLead d).outcome w = (.ok page, w₁) ∧
        (writePage job.destination page).outcome w₁ = (.ok path, w') :=
  outcome_bind_eq_ok

/-- A command whose page is written has the turn that tells so. -/
theorem turn_iff_of_ok {job : Job} {listeners : Listeners} {d : Descriptor} {path : Path}
    {w w₁ w' : Workspace} {event : Event}
    (h : (documentCommand job d).outcome w = (.ok path, w₁)) :
    Turn job listeners d w event w' ↔
      event = .generated path ∧ Told listeners (.generated path) w₁ w' := by
  constructor
  · intro turn
    cases turn with
    | documented rendered written told =>
        rw [documentCommand_eq_ok_iff.mpr ⟨_, _, rendered, written⟩] at h
        cases h
        exact ⟨rfl, told⟩
    | skipped failed caught worded told =>
        rw [failed] at h
        cases h
  · rintro ⟨rfl, told⟩
    obtain ⟨page, w₀, rendered, written⟩ := documentCommand_eq_ok_iff.mp h
    exact .documented rendered written told

/-- A command that ends in a fault has a turn when the fault only ends the work
on one command and can be put into words. -/
theorem turn_iff_of_error {job : Job} {listeners : Listeners} {d : Descriptor} {fault : Fault}
    {w w₁ w' : Workspace} {event : Event}
    (h : (documentCommand job d).outcome w = (.error fault, w₁)) :
    Turn job listeners d w event w' ↔
      fault.endsOneCommand = true ∧ ∃ message, fault.worded = .ok message ∧
        event = .warning message ∧ Told listeners (.warning message) w₁ w' := by
  constructor
  · intro turn
    cases turn with
    | documented rendered written told =>
        rw [documentCommand_eq_ok_iff.mpr ⟨_, _, rendered, written⟩] at h
        cases h
    | skipped failed caught worded told =>
        rw [failed] at h
        cases h
        exact ⟨caught, _, worded, rfl, told⟩
  · rintro ⟨caught, message, worded, rfl, told⟩
    exact .skipped h caught worded told

/-- One round of the loop: a turn, and the loop over the commands that are left. -/
theorem documentAll_cons_eq_ok_iff {job : Job} {listeners : Listeners} {report result : Report}
    {d : Descriptor} {rest : List Descriptor} {w w' : Workspace} :
    (documentAll job listeners report (d :: rest)).outcome w = (.ok result, w') ↔
      ∃ event w₁, Turn job listeners d w event w₁ ∧
        (documentAll job listeners (report.add [event]) rest).outcome w₁ = (.ok result, w') := by
  rw [documentAll, outcome_bind, outcome_attempt]
  rcases hd : (documentCommand job d).outcome w with ⟨fault | path, w₁⟩
  · simp only [turn_iff_of_error hd]
    split
    · rename_i hc
      rw [outcome_bind, outcome_ofExcept]
      rcases hworded : fault.worded with e | message
      · constructor
        · intro h
          cases h
        · rintro ⟨_, _, ⟨-, _, ⟨⟩, -⟩, -⟩
      · dsimp only
        rw [outcome_bind_eq_ok, ← report.add_warning]
        constructor
        · rintro ⟨_, w₂, told, h⟩
          rw [outcome_warn] at told
          exact ⟨_, w₂, ⟨hc, message, rfl, rfl, told⟩, h⟩
        · rintro ⟨_, w₂, ⟨-, _, ⟨⟩, rfl, told⟩, h⟩
          exact ⟨(), w₂, (outcome_warn ..).trans told, h⟩
    · rename_i hc
      -- Any other fault leaves the loop, and then the command has no turn.
      constructor
      · intro h
        cases h
      · rintro ⟨_, _, ⟨caught, -⟩, -⟩
        exact absurd caught hc
  · simp only [turn_iff_of_ok hd, outcome_bind_eq_ok, outcome_note, ← report.add_generated]
    constructor
    · rintro ⟨_, _, ⟨⟩, _, w₂, told, h⟩
      exact ⟨_, w₂, ⟨rfl, told⟩, h⟩
    · rintro ⟨_, w₂, ⟨rfl, told⟩, h⟩
      exact ⟨(), _, rfl, (), w₂, told, h⟩

theorem documentAll_eq_ok_iff {job : Job} {listeners : Listeners} {report result : Report}
    {ds : List Descriptor} {w w' : Workspace} :
    (documentAll job listeners report ds).outcome w = (.ok result, w') ↔
      ∃ events, Turns job listeners w ds events w' ∧ result = report.add events := by
  induction ds generalizing report w with
  | nil =>
      rw [documentAll, outcome_pure]
      constructor
      · intro h
        cases h
        exact ⟨[], .nil _, (Report.add_nil _).symm⟩
      · rintro ⟨events, turns, rfl⟩
        cases turns
        rw [report.add_nil]
  | cons d rest ih =>
      rw [documentAll_cons_eq_ok_iff]
      constructor
      · rintro ⟨event, w₁, turn, h⟩
        obtain ⟨events, turns, rfl⟩ := ih.mp h
        exact ⟨event :: events, .cons turn turns, (report.add_cons event events).symm⟩
      · rintro ⟨_, turns, rfl⟩
        cases turns with
        | cons turn turns => exact ⟨_, _, turn, ih.mpr ⟨_, turns, report.add_cons _ _⟩⟩

end Action

end CommandManual
