import CommandManual.Log.Sink
import CommandManual.Settings.Load
import CommandManual.Text.Percent

/-!
The hub of the log: the sinks that are installed, which of them belong to the
program, and the settings that were last put into force. Sinks have numbers
that are never given out again. Loggers are kept by name, and the first one that
is asked for puts the settings of the environment into force.
-/

namespace CommandManual.Log

structure Settings where
  level : Value := .str "WARNING"
  format : Value := .str "structured"
  /-- The file that receives the log as well, unless it does not count as given. -/
  outputFile : Value := .null
  useColor : Value := .bool true
  includeTimestamp : Value := .bool true
deriving Repr

namespace Settings

/-- The settings as a table, in which the file stands as a text. -/
def toValue (s : Settings) : Value :=
  .table
    [("level", s.level), ("format", s.format),
      ("output_file", if s.outputFile.isTruthy then .str s.outputFile.display else .null),
      ("use_color", s.useColor), ("include_timestamp", s.includeTimestamp)]

def layout (s : Settings) : Layout := Layout.ofValue s.format

end Settings

structure Hub where
  /-- The installed sinks by number, in the order of their installation. -/
  sinks : List (Nat × Sink) := []
  /-- The numbers of the sinks that the program has put up. -/
  owned : List Nat := []
  nextId : Nat := 1
  /-- The settings in force. -/
  settings : Option Settings := none
  /-- The loggers that are kept, the one used last in front. -/
  loggers : List (String × Nat) := []
  nextLogger : Nat := 0
  /-- Whether the records of other libraries are taken in. -/
  bridged : Bool := false
deriving Repr

def firstSink : Nat := 0

namespace Hub

def initial : Hub := { sinks := [(firstSink, .foreign .debug)] }

def remove (id : Nat) (h : Hub) : Hub := { h with sinks := h.sinks.filter fun (n, _) => n != id }

def add (s : Sink) (h : Hub) : Hub :=
  { h with sinks := h.sinks ++ [(h.nextId, s)], nextId := h.nextId + 1 }

def addOwn (s : Sink) (h : Hub) : Hub :=
  let added := h.add s
  { added with owned := added.owned ++ [h.nextId] }

def removeOwned (h : Hub) : Hub :=
  { h.owned.foldl (fun h id => h.remove id) h with owned := [] }

/-- Takes down the sinks of the program and forgets the settings. -/
def reset (h : Hub) : Hub := { h.removeOwned with settings := none }

def ownSinks (h : Hub) : List Sink :=
  h.sinks.filterMap fun (id, s) => if h.owned.contains id then some s else none

def hears (h : Hub) (level : Level) : Bool := h.sinks.any fun (_, s) => s.takes level

end Hub

structure Desk where
  hub : Hub := {}
  tree : FileTree
  stdout : String := ""
  stderr : String := ""
  stamp : Stamp := {}
  /-- How many columns the screen has. -/
  screenWidth : Nat := 80

/-- A step of the log, which may leave traces also when it ends in a fault. -/
abbrev Logging := ExceptT Fault (StateM Desk)

namespace Logging

def changeHub (f : Hub → Hub) : Logging Unit := modify fun d => { d with hub := f d.hub }

def ofExcept {α : Type} (x : Except Fault α) : Logging α := ExceptT.mk (pure x)

def ensureDirectory (path : Path) : Logging Unit := do
  let d ← get
  let (result, tree) := d.tree.ensureDirectory path
  set { d with tree }
  ofExcept (result.mapError Fault.access)

/-! ### Settings -/

def absolutePath (here : Place) (path : Path) : Path :=
  let start : Path := if path.isAbsolute then ⟨path.root, []⟩ else ⟨.slash, here⟩
  path.parts.foldl
    (fun p part => if part = ".." then p.parent else p.child part) start

def fileName (moment : Timestamp) (name : String) : Except Fault String :=
  match Template.fill name [("time", .clock moment)] with
  | .ok filled => .ok filled
  | .error (.noIndex _) =>
    .error (.template (.malformed "Format string contains positional fields"))
  | .error e => .error (.template e)

/-- Opens a log file, made empty if it is not there, and gives its place. -/
def openFile (named : Path) : Logging Place := do
  let name ← ofExcept (fileName (← get).stamp.moment named.toString)
  let path := absolutePath (← get).tree.here (Path.ofString name)
  ensureDirectory path.parent
  let d ← get
  match d.tree.read path with
  | .ok _ => pure ()
  | .error _ =>
    let tree ← ofExcept ((d.tree.write path (.text [])).mapError Fault.access)
    set { d with tree }
  ofExcept (((← get).tree.locate .write path).mapError fun r =>
    .access (.refused r path.toString))

def pathOf : Value → Logging Path
  | .str name => return Path.ofString name
  | v => throw (.misuse (.notPath v.kindName))

/-- Puts settings into force. Settings that are in force already change nothing
unless that is forced. -/
def configure (s : Settings) (force : Bool) : Logging Unit := do
  let inForce := (← get).hub.settings.any fun current => current.toValue.agrees s.toValue
  if inForce && !force then return ()
  else
    changeHub fun h => h.removeOwned.remove firstSink
    let level ← ofExcept ((LevelChoice.ofValue s.level).resolve.mapError Fault.level)
    changeHub fun h =>
      h.addOwn (.terminal level s.layout s.useColor.isTruthy s.includeTimestamp.isTruthy)
    if s.outputFile.isTruthy then
      let path ← pathOf s.outputFile
      ensureDirectory path.parent
      let place ← openFile path
      changeHub fun h => h.addOwn (.file level place)
    changeHub fun h => { h with settings := some s }

def reset : Logging Unit := changeHub Hub.reset

def settingsOfEnvironment (env : Environment) : Settings where
  level := .str (CommandManual.Settings.upper ((env.lookup "MANIFY_LOG_LEVEL").getD "WARNING"))
  format := .str (CommandManual.Settings.lower ((env.lookup "MANIFY_LOG_FORMAT").getD "structured"))

/-! ### Loggers -/

def keptLoggers : Nat := 256

/-- The number of the logger of a name. A new logger first sees to it that some
settings are in force. -/
def logger (env : Environment) (name : String) : Logging Nat := do
  let h := (← get).hub
  let others := h.loggers.filter fun (n, _) => n != name
  match h.loggers.lookup name with
  | some id =>
    changeHub fun h => { h with loggers := (name, id) :: others }
    return id
  | none =>
    if h.settings.isNone then configure (settingsOfEnvironment env) false
    changeHub fun h =>
      { h with
        loggers := ((name, h.nextLogger) :: others).take keptLoggers
        nextLogger := h.nextLogger + 1 }
    return h.nextLogger

/-! ### Records -/

def appendTo (tree : FileTree) (place : Place) (line : String) : FileTree :=
  match tree.get? place with
  | some (.file (.text t)) => tree.put place (.file (.text (t ++ line.toList)))
  | some (.file (.bytes b)) => tree.put place (.file (.bytes (b ++ Utf8.encode line.toList)))
  | some (.file (.script _)) => tree.put place (.file (.text line.toList))
  | _ => tree

def writeTo (r : Record) (s : Sink) (d : Desk) : Desk :=
  match s with
  | .terminal _ .console _ stamped =>
    { d with stderr := d.stderr ++ consoleLine stamped d.stamp r }
  | .terminal _ .structured _ stamped =>
    { d with stderr := d.stderr ++ structuredLine stamped d.stamp r }
  | .terminal _ .json .. => { d with stderr := d.stderr ++ jsonLine r }
  | .terminal _ .rich .. => { d with stdout := d.stdout ++ columnLines d.screenWidth r }
  | .file _ place => { d with tree := appendTo d.tree place (jsonLine r) }
  | .foreign _ => d

def handOut : List Sink → Record → Desk → Desk
  | [], _, d => d
  | s :: rest, r, d =>
    if s.takes r.level then
      let r := s.passOn r
      handOut rest r (writeTo r s d)
    else handOut rest r d

end Logging

def Desk.deliver (d : Desk) (r : Record) : Desk :=
  Logging.handOut (d.hub.sinks.map Prod.snd) r d

namespace Logging

/-- Makes a record and hands it out. Where no sink is installed nothing is
looked at, and the message is only made when some sink takes the level. -/
def submit (choice : LevelChoice) (make : Level → Except TemplateError Record) :
    Logging Unit := do
  let h := (← get).hub
  if h.sinks.isEmpty then return ()
  else
    let level ← ofExcept (choice.resolve.mapError Fault.level)
    if h.hears level then
      let r ← ofExcept ((make level).mapError Fault.template)
      modify fun d => d.deliver r

def log (env : Environment) (name : String) (choice : LevelChoice) (message : Value)
    (values : List (String × Value)) : Logging Unit := do
  let _ ← logger env name
  submit choice fun level => Record.make name level message values

def logUnbound (source : String) (choice : LevelChoice) (message : String) : Logging Unit :=
  submit choice fun level => .ok { level, source, message, extra := [] }

/-! ### Records of other libraries -/

def bridge : Logging Unit := changeHub fun h => { h with bridged := true }

/-- The level of a number: by name when the number is that of a common level. -/
def commonLevel (n : Nat) : LevelChoice :=
  match [Level.debug, Level.info, Level.warning, Level.error, Level.critical].find?
      fun l => l.number == n with
  | some l => .named l.name
  | none => .numbered n

def integerLevel : Value → Except LevelError Int
  | .int n => .ok n
  | .bool b => .ok (if b then 1 else 0)
  | _ => .error .notInteger

/-- A record of another library. When these are not taken in, warnings and
worse go to the standard error output as they are. -/
def relay (level : Value) (template : String) (values : List Value) : Logging Unit := do
  let number ← ofExcept ((integerLevel level).mapError Fault.level)
  if number ≤ 0 then return ()
  else if (← get).hub.bridged then
    let message ← ofExcept ((Percent.fill template values).mapError Fault.template)
    submit (commonLevel number.toNat) fun level =>
      .ok { level, source := "logging", message, extra := [] }
  else if number ≥ (Level.warning.number : Int) then
    match Percent.fill template values with
    | .ok message => modify fun d => { d with stderr := d.stderr ++ message ++ "\n" }
    | .error _ => return ()

end Logging

end CommandManual.Log
