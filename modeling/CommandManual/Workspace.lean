import CommandManual.Command.Registry
import CommandManual.Log.Hub
import CommandManual.Script.Import

/-!
The state that documenting commands works on: the files and the log, what
carrying out command files left behind, and the registry in use. Beside it stands
what was told on the way: log records, lookups of entry points, and events. A log
record goes to the sinks as soon as it is left.
-/

namespace CommandManual

inductive Event
  | generated (path : Path)
  | warning (message : String)
deriving DecidableEq, Repr

structure Workspace extends Log.Desk where
  memory : Script.Memory := {}
  registry : Registry := {}
  /-- The commands that installed packages advertise. -/
  entryPoints : List EntryPoint := []
  records : List Log.Record := []
  /-- The groups of entry points that were looked up. -/
  lookups : List String := []
  events : List Event := []

def Workspace.deliver (w : Workspace) (r : Log.Record) : Workspace :=
  { w with toDesk := w.toDesk.deliver r, records := w.records ++ [r] }

/-- A step that may change the workspace, also when it ends in a fault. -/
abbrev Action := ExceptT Fault (StateM Workspace)

namespace Action

def outcome {α : Type} (x : Action α) (w : Workspace) : Except Fault α × Workspace :=
  StateT.run (ExceptT.run x) w

def ofOutcome {α : Type} (f : Workspace → Except Fault α × Workspace) : Action α :=
  ExceptT.mk fun w => f w

def ofExcept {α : Type} (x : Except Fault α) : Action α := ofOutcome fun w => (x, w)

def ofTraced {α : Type} (x : Traced α) : Action α :=
  ofOutcome fun w => (x.outcome.1, x.outcome.2.foldl Workspace.deliver w)

def ofLogging {α : Type} (x : Log.Logging α) : Action α :=
  ofOutcome fun w =>
    let (result, desk) := StateT.run (ExceptT.run x) w.toDesk
    (result, { w with toDesk := desk })

def ofExec {α : Type} (x : Script.Exec α) : Action (Except Script.Raised α) :=
  ofOutcome fun w =>
    let (result, memory) := StateT.run (ExceptT.run x) w.memory
    (.ok result, { w with memory })

def note (logger : String) (level : Log.Level) (message : String)
    (values : List (String × Value)) : Action Unit :=
  ofTraced (Traced.note logger level message values)

def print (s : String) : Action Unit := modify fun w => { w with stdout := w.stdout ++ s }

def keep (event : Event) : Action Unit :=
  modify fun w => { w with events := w.events ++ [event] }

def attempt {α : Type} (x : Action α) : Action (Except Fault α) :=
  ofOutcome fun w =>
    let (result, w) := x.outcome w
    (.ok result, w)

/-- Keeps what an intake of entry points made of the registry, and passes on
what stopped it. -/
def keepIntake (group : String) (i : Registry.Intake) : Action Unit := do
  modify fun w => { w with registry := i.registry, lookups := w.lookups ++ [group] }
  ofTraced (Registry.noteFailures i.failures)
  match i.stopped with
  | some raised => throw (.raised raised)
  | none => return ()

def advertised (group : String) (w : Workspace) : List EntryPoint :=
  w.entryPoints.filter fun e => e.group == group

/-- Takes the commands of a group into the registry, and counts them. -/
def loadEntryPoints (group : String) : Action Nat := do
  let w ← get
  let i := w.registry.loadEntryPoints (advertised group w)
  keepIntake group i
  return i.count

def registered (name : String) : Action (Option Target) := do
  let w ← get
  let (target, intake) := w.registry.get (advertised Registry.defaultGroup w) name
  if let some i := intake then keepIntake Registry.defaultGroup i
  return target

def register (name : String) (target : Target) : Action Unit := do
  if (← get).registry.has name then
    note Registry.logger .debug ("Replacing registered command " ++ name) [("name", .str name)]
  modify fun w => { w with registry := w.registry.register name target }

end Action

end CommandManual
