import CommandManual.Command.Load
import CommandManual.Command.Project
import CommandManual.Manual.Output
import CommandManual.Manual.Report

/-!
Generating the manual: one page for each command of a project. A fault of a
manifest or of the destination ends the run; a command whose class is not found,
or whose page cannot be written, becomes a warning.
-/

namespace CommandManual

def pipelineLogger : String := "manify.docs.pipeline"

def noCommandsWarning : String := "No commands found in manifest files."

structure Job where
  source : Path := Path.here
  destination : String := "docs/"
  manifestName : String := Manifest.defaultName
  /-- The first word of every heading. -/
  headingLead : String := "wp"
  scanPlugins : Bool := true
deriving DecidableEq, Repr

/-- Who is told what happens in a run: one hears of the pages, the other of the
warnings. -/
structure Listeners where
  onGenerated : Option (Path → Action Unit) := none
  onWarning : Option (String → Action Unit) := none

namespace Action

def docsFrom (d : Descriptor) (provider : Provider) : Action (List MethodDoc) := do
  let answer ← ofTraced (provider.methodDocs (← get).memory)
  if ← ofExcept answer.isEmpty then
    note pipelineLogger .warning ("Command " ++ d.commandName ++ " has no documented methods")
      [("name", .str d.commandName)]
  ofExcept answer.list

def renderCommand (headingLead : String) (d : Descriptor) : Action Page := do
  let docs ← docsFrom d (← loadProvider d)
  return Page.ofDocs headingLead d.commandName docs

def documentCommand (job : Job) (d : Descriptor) : Action Path := do
  writePage job.destination (← renderCommand job.headingLead d)

def tell (listeners : Listeners) : Event → Action Unit
  | .generated path => (listeners.onGenerated.map (· path)).getD (return ())
  | .warning message => (listeners.onWarning.map (· message)).getD (return ())

/-- Gives a warning. When somebody listens to it, the log only has it in detail. -/
def warn (listeners : Listeners) (message : String) : Action Unit := do
  note pipelineLogger (if listeners.onWarning.isSome then .debug else .warning) message []
  tell listeners (.warning message)

/-- Documents commands in order and adds to a report what comes of each. -/
def documentAll (job : Job) (listeners : Listeners) :
    Report → List Descriptor → Action Report
  | report, [] => return report
  | report, d :: rest => do
    match ← attempt (documentCommand job d) with
    | .ok path =>
      note pipelineLogger .info ("Generated " ++ path.toString) [("path", .str path.toString)]
      tell listeners (.generated path)
      documentAll job listeners { report with generated := report.generated ++ [path] } rest
    | .error fault =>
      if fault.endsOneCommand then
        let message ← ofExcept fault.worded
        warn listeners message
        documentAll job listeners { report with warnings := report.warnings ++ [message] } rest
      else throw fault

def generate (job : Job) (listeners : Listeners) : Action Report := do
  let descriptors ← readCommands job.source job.manifestName job.scanPlugins
  if descriptors.isEmpty then
    warn listeners noCommandsWarning
    return { warnings := [noCommandsWarning] }
  else
    let _ ← ensureDestination job.destination
    documentAll job listeners { commandsFound := descriptors.length } descriptors

end Action

end CommandManual
