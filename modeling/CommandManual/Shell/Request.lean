import CommandManual.Fault
import CommandManual.Shell.Options

/-!
What a command line asks for. Options for help and for the version come before
all others, once the command line as a whole can be read.
-/

namespace CommandManual.Shell

def programVersion : String := "1.0.0"

/-! ### Options of the whole program -/

def logLevels : List String := ["debug", "info", "warning", "error"]

/-- The flags as they are given; what counts as given is in force. -/
structure Flags where
  quiet : Value := .bool false
  verbose : Value := .bool false
  logLevel : Option String := none
deriving Repr

namespace Flags

/-- Flags from their values; a level has to be one of the known ones. -/
def make (quiet verbose logLevel : Value) : Except Fault Flags :=
  match logLevel with
  | .null => .ok { quiet, verbose }
  | .str level =>
    if logLevels.contains level then .ok { quiet, verbose, logLevel := some level }
    else .error (.notAChoice (.str level) "LogLevelOption")
  | v => .error (.notAChoice v "LogLevelOption")

/-- The level that the flags ask for: the quiet one wins, then the verbose one. -/
def level (f : Flags) : Option String :=
  if f.quiet.isTruthy then some "error"
  else if f.verbose.isTruthy then some "debug"
  else f.logLevel

/-- What subcommands are told, on top of what they were told before. -/
def context (f : Flags) (before : Value) : Except Fault (List (String × Value)) :=
  let told : List (String × Value) :=
    [("quiet", f.quiet), ("verbose", f.verbose),
      ("log_level", (f.level.map Value.str).getD .null), ("version", .str programVersion)]
  let onTop (fields : List (String × Value)) :=
    told.foldl (fun fields (k, v) => assign k v fields) fields
  match before with
  | .null => .ok (onTop [])
  | .table fields => .ok (onTop fields)
  | v => .error (.misuse (.noAttribute v.kindName "update"))

end Flags

/-! ### Requests -/

structure GenerateRequest where
  destination : Option String := none
  source : Option Path := none
  manifestName : Option String := none
  headingLead : Option String := none
  noPlugins : Bool := false
  config : Option Path := none
deriving DecidableEq, Repr

inductive ListFormat
  | table
  | json
  | yaml
deriving DecidableEq, Repr

def ListFormat.ofName? : String → Option ListFormat
  | "table" => some table
  | "json" => some json
  | "yaml" => some yaml
  | _ => none

structure ListRequest where
  source : Option Path := none
  manifestName : Option String := none
  noPlugins : Bool := false
  format : ListFormat := .table
  config : Option Path := none
deriving DecidableEq, Repr

inductive Request
  | generate (flags : Flags) (r : GenerateRequest)
  | list (flags : Flags) (r : ListRequest)
deriving Repr

inductive Detour
  | usage
  | help
  | version
  | fault (f : Fault)

/-! ### Reading -/

def helpForm : OptionForm := { key := "help", long := "--help", takesValue := false }

def sourceForm : OptionForm := { key := "source", long := "--source", short := some 's' }

def manifestForm : OptionForm := { key := "manifest_name", long := "--manifest-name" }

def noPluginsForm : OptionForm :=
  { key := "no_plugins", long := "--no-plugins", takesValue := false }

def configForm : OptionForm := { key := "config", long := "--config", short := some 'c' }

def programForms : List OptionForm :=
  [{ key := "quiet", long := "--quiet", short := some 'q', takesValue := false },
    { key := "verbose", long := "--verbose", short := some 'V', takesValue := false },
    { key := "log_level", long := "--log-level" },
    { key := "version", long := "--version", short := some 'v', takesValue := false },
    helpForm]

def generateForms : List OptionForm :=
  [{ key := "destination", long := "--destination", short := some 'd' }, sourceForm, manifestForm,
    { key := "heading_prefix", long := "--heading-prefix" }, noPluginsForm, configForm, helpForm]

def listForms : List OptionForm :=
  [sourceForm, manifestForm, noPluginsForm,
    { key := "format", long := "--format", short := some 'f' }, configForm, helpForm]

/-- The options, unless they cannot be read or one of them asks for help or for
the version. -/
def optionsFor (forms : List OptionForm) (args : List String) :
    Except Detour (List Given × List String) :=
  match readOptions forms args with
  | .error _ => .error .usage
  | .ok (given, rest) =>
    match (keysOf given).find? fun k => k == "help" || k == "version" with
    | some k => .error (if k = "help" then .help else .version)
    | none => .ok (given, rest)

/-- A check of one value: known choices are insisted on, and a path cannot hold
a null character. -/
def checkValue (given : List Given) (key : String) : Except Detour Unit :=
  match valueOf given key with
  | none => .ok ()
  | some v =>
    match key with
    | "log_level" => if logLevels.contains v then .ok () else .error .usage
    | "format" => if (ListFormat.ofName? v).isSome then .ok () else .error .usage
    | "source" | "config" =>
      if v.toList.any (· == '\x00') then .error (.fault (.access .nullCharacter)) else .ok ()
    | _ => .ok ()

/-- The options in front of some arguments, with their values checked. -/
def checkedOptions (forms : List OptionForm) (args : List String) :
    Except Detour (List Given × List String) := do
  let (given, rest) ← optionsFor forms args
  (keysOf given).forM (checkValue given)
  .ok (given, rest)

/-- The detour for arguments that name no subcommand. They are read as options
once more, so help and version are found behind `--` too. -/
def strayDetour (forms : List OptionForm) (args : List String) : Detour :=
  match checkedOptions forms args with
  | .error d => d
  | .ok _ => .usage

/-- The options of a subcommand, which takes no other arguments. -/
def subcommandOptions (forms : List OptionForm) (args : List String) :
    Except Detour (List Given) := do
  let (given, rest) ← checkedOptions forms args
  if rest.isEmpty then .ok given else .error (strayDetour forms rest)

def pathOf (given : List Given) (key : String) : Option Path :=
  (valueOf given key).map Path.ofString

def readGenerate (flags : Flags) (args : List String) : Except Detour Request := do
  let given ← subcommandOptions generateForms args
  .ok (.generate flags
    { destination := valueOf given "destination"
      source := pathOf given "source"
      manifestName := valueOf given "manifest_name"
      headingLead := valueOf given "heading_prefix"
      noPlugins := isGiven given "no_plugins"
      config := pathOf given "config" })

def readList (flags : Flags) (args : List String) : Except Detour Request := do
  let given ← subcommandOptions listForms args
  .ok (.list flags
    { source := pathOf given "source"
      manifestName := valueOf given "manifest_name"
      noPlugins := isGiven given "no_plugins"
      format := ((valueOf given "format").bind ListFormat.ofName?).getD .table
      config := pathOf given "config" })

def Request.read (args : List String) : Except Detour Request := do
  let (given, rest) ← checkedOptions programForms args
  let flags : Flags :=
    { quiet := .bool (isGiven given "quiet")
      verbose := .bool (isGiven given "verbose")
      logLevel := valueOf given "log_level" }
  match rest with
  | "generate" :: args => readGenerate flags args
  | "list" :: args => readList flags args
  | rest => .error (strayDetour programForms rest)

end CommandManual.Shell
