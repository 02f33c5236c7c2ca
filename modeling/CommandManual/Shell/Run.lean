import CommandManual.Console.Table
import CommandManual.Data.Yaml
import CommandManual.Manual.Generate
import CommandManual.Shell.Request

/-!
Running the program: the settings are loaded, the log is set up, and the
request is carried out. What is shown passes through the markup of the console,
in which messages are escaped.
-/

namespace CommandManual.Shell

inductive ExitCode
  | code (n : Nat)
  /-- What a command file leaves the program with, which is null when it says
  nothing. -/
  | given (v : Value)
deriving Repr

inductive Ending
  | exit (code : ExitCode)
  | fault (f : Fault)

abbrev Run := ExceptT Ending (StateM Workspace)

namespace Run

def ofFault {α : Type} (x : Except Fault α) : Run α := ExceptT.mk (pure (x.mapError Ending.fault))

/-- A step of the workspace, whose faults the caller looks at. -/
def act {α : Type} (x : Action α) : Run (Except Fault α) :=
  ExceptT.mk fun w =>
    let (result, w) := x.outcome w
    (.ok result, w)

def leave {α : Type} (n : Nat) : Run α := throw (.exit (.code n))

/-! ### Output -/

def linesOf (t : Text) : String :=
  String.ofList (Text.unlines ((Text.lines t).map fun line =>
    (Console.Styled.ofText line).spreadTabs.text) ++ ['\n'])

def sentence (markup message : String) : Except Fault String := do
  .ok (linesOf (← Console.readMarkup (markup.toList ++ Console.escape message.toList)).text)

def write (s : String) : Run Unit := modify fun w => { w with stdout := w.stdout ++ s }

def showText (t : Text) : Run Unit := write (linesOf t)

def say (markup message : String) : Run Unit := do write (← ofFault (sentence markup message))

def announce : Listeners where
  onGenerated := some fun path => do
    Action.print (← Action.ofExcept (sentence "Generated: " path.toString))
  onWarning := some fun message => do
    Action.print (← Action.ofExcept (sentence "[yellow]Warning:[/yellow] " message))

/-! ### The log -/

/-- Puts the log settings into force; a level from the command line wins. -/
def setUpLog (flags : Flags) (settings : Settings) : Run Unit := do
  let level := (flags.level.map Settings.upper).getD settings.logging.level
  let asked : Log.Settings :=
    { level := .str level, format := .str settings.logging.format
      outputFile := (settings.logging.outputFile.map Value.str).getD .null }
  ofFault (← act (Action.ofLogging (Log.Logging.configure asked false)))

/-! ### Requests -/

def loadSettings (env : Environment) (config : Option Path) : Run Settings := do
  match Settings.load (← get).tree env config with
  | .ok settings => return settings
  | .error (.configuration component reason) =>
    say "[red]✗[/red] " (Fault.configuration component reason).message
    leave 1
  | .error f => throw (.fault f)

/-- The result of a step, when faults of the configuration are shown and end
the run. -/
def orExplain {α : Type} (result : Except Fault α) : Run α := do
  match result with
  | .ok a => return a
  | .error f =>
    if f.isExplained then
      say "[red]✗[/red] Error: " (← ofFault f.worded)
      leave 1
    else throw (.fault f)

def given (x : Option String) (default : String) : String :=
  match x with
  | some s => if s = "" then default else s
  | none => default

def jobOf (settings : Settings) (r : GenerateRequest) : Job where
  source := r.source.getD (Path.ofString settings.source)
  destination := given r.destination settings.destination
  manifestName := given r.manifestName settings.manifestName
  headingLead := r.headingLead.getD settings.headingLead
  scanPlugins := settings.scanPlugins && !r.noPlugins

def generate (env : Environment) (flags : Flags) (r : GenerateRequest) : Run Unit := do
  let settings ← loadSettings env r.config
  setUpLog flags settings
  let report ← orExplain (← act (Action.generate (jobOf settings r) announce))
  if report.commandsFound = 0 then return ()
  else if report.succeeded then
    say ("[green]✓[/green] Success: Documentation generated successfully. " ++
      toString report.generatedCount ++ " commands processed.") ""
  else say "[yellow]Warning:[/yellow] No documentation was generated." ""

/-! ### Listings -/

def columns : List Console.Column :=
  [⟨"Command", true⟩, ⟨"Class", false⟩, ⟨"File", false⟩, ⟨"Directory", false⟩]

def cells (r : Descriptor.Row) : List String :=
  [r.command, r.className.getD "(registry)", r.file.getD "-", r.directory]

/-- The table of a listing on a screen. Its cells are read as markup, column by column. -/
def listTable (screenWidth : Nat) (rows : List Descriptor.Row) : Except Fault (List Text) := do
  let columnsOfCells := (List.range columns.length).map fun n =>
    rows.map fun r => ((cells r)[n]?.getD "").toList
  let shown ← columnsOfCells.mapM fun column => column.mapM Console.readMarkup
  let rowsOfCells := (List.range rows.length).map fun n =>
    shown.map fun column => column[n]?.getD (Console.Styled.ofText [])
  .ok (Console.tableLines "Documented Commands".toList columns rowsOfCells screenWidth)

def fieldsOf (r : Descriptor.Row) : List (String × Option String) :=
  [("command", some r.command), ("class", r.className), ("file", r.file),
    ("base_directory", some r.directory)]

def valueOfRow (r : Descriptor.Row) : Value :=
  .table ((fieldsOf r).map fun (k, v) => (k, (v.map Value.str).getD .null))

def showList (format : ListFormat) (rows : List Descriptor.Row) : Run Unit := do
  match format with
  | .json => showText (Json.indented 0 (.list (rows.map valueOfRow))).toList
  | .yaml => showText (Console.shown (Yaml.writeRecords (rows.map fieldsOf)))
  | .table => showText (Text.unlines (← ofFault (listTable (← get).screenWidth rows)))

def list (env : Environment) (flags : Flags) (r : ListRequest) : Run Unit := do
  let settings ← loadSettings env r.config
  setUpLog flags settings
  let result ← act
    (Action.readCommands (r.source.getD (Path.ofString settings.source))
      (given r.manifestName settings.manifestName) (settings.scanPlugins && !r.noPlugins))
  showList r.format ((← orExplain result).map Descriptor.row)

/-! ### The whole -/

def carryOut (env : Environment) : Request → Run Unit
  | .generate flags r => generate env flags r
  | .list flags r => list env flags r

def perform (env : Environment) (args : List String) : Run Unit := do
  match Request.read args with
  | .ok request => carryOut env request
  | .error .usage => leave 2
  | .error .help => leave 0
  | .error .version =>
    say ("[bold blue]manify[/bold blue] version [green]" ++ programVersion ++ "[/green]") ""
  | .error (.fault f) => throw (.fault f)

/-- How the program ends on something that a command file raised. -/
def exitOf? : Fault → Option ExitCode
  | .raised (.thrown c message) =>
    if c.isError "SystemExit" then
      some (.given ((Script.Raised.thrown c message).exitMessage?.getD .null))
    else if c.isError "KeyboardInterrupt" then some (.code 130)
    else if c.isError "EOFError" then some (.code 1)
    else none
  | _ => none

/-- Runs the program on its arguments: its exit code, unless a fault escapes. What the
program does when it is started, before it looks at them, is not part of this; the log
is in the state that this has left it in. -/
def outcome (env : Environment) (args : List String) (w : Workspace) :
    Except Fault ExitCode × Workspace :=
  match StateT.run (ExceptT.run (perform env args)) w with
  | (.ok (), w) => (.ok (.code 0), w)
  | (.error (.exit code), w) => (.ok code, w)
  | (.error (.fault f), w) =>
    match exitOf? f with
    | some code => (.ok code, w)
    | none => (.error f, w)

end Run

end CommandManual.Shell
