import CommandManual.Data.Toml.Document
import CommandManual.Settings.Basic

/-!
Loading the settings. Variables of the environment win over the settings file,
which wins over the defaults; an empty variable counts as not set.
-/

namespace CommandManual

abbrev Environment := List (String × String)

namespace Environment

def given (env : Environment) (name : String) : Option String :=
  match env.lookup name with
  | some value => if value = "" then none else some value
  | none => none

end Environment

namespace Settings

def defaultFile : String := "pyproject.toml"

/-- The settings with the variables of the environment on top. -/
def override (env : Environment) (s : Settings) : Except Fault Settings := do
  let scanPlugins ←
    match env.given "MANIFY_SCAN_PLUGINS" with
    | some word => readBool "MANIFY_SCAN_PLUGINS" (.str word)
    | none => .ok s.scanPlugins
  let logging ←
    match env.given "MANIFY_LOG_LEVEL", env.given "MANIFY_LOG_FORMAT" with
    | none, none => .ok s.logging
    | level, format =>
      logSettings (.str (level.getD s.logging.level)) (.str (format.getD s.logging.format))
        (s.logging.outputFile.map Value.str)
  .ok
    { destination := (env.given "MANIFY_DESTINATION").getD s.destination
      source := (env.given "MANIFY_SOURCE").getD s.source
      manifestName := (env.given "MANIFY_MANIFEST_NAME").getD s.manifestName
      headingLead := (env.given "MANIFY_HEADING_PREFIX").getD s.headingLead
      scanPlugins, logging }

/-- The table under a key of a table; nothing there counts as an empty table. -/
def tableAt (v : Value) (key : String) : Except Fault Value :=
  match v with
  | .table fields => .ok ((fields.lookup key).getD (.table []))
  | v => .error (.misuse (.noAttribute v.kindName "get"))

/-- The part of a document that holds the settings: the table `tool.manify`, or
the whole document when it has no table `tool` and another file name. -/
def select (fileName : String) (document : List (String × Value)) : Except Fault Value := do
  if (document.lookup "tool").isSome || fileName = defaultFile then
    tableAt (← tableAt (.table document) "tool") "manify"
  else .ok (.table document)

/-- The document in a settings file. Of what is wrong with its syntax only the file is
told; where and what it is stays out of the text. -/
def readDocument (tree : FileTree) (path : Path) : Except Fault (List (String × Value)) := do
  let content ← (tree.read path).mapError Fault.access
  let text ← content.decode.mapError Fault.undecodable
  match Toml.parse text with
  | .ok document => .ok document
  | .error .malformed => .error (.configuration "config" ("invalid TOML in " ++ path.toString))
  | .error (.longInteger digits) => .error (.longInteger digits)
  | .error .tooDeep => .error .exhausted

def ofFile (tree : FileTree) (path : Path) : Except Fault Settings := do
  let v ← select path.name (← readDocument tree path)
  if v.isTruthy then ofValue v else .ok {}

/-- The settings file: the given one, or the usual one in the directory that
relative paths start from. -/
def filePath (tree : FileTree) (path : Option Path) : Path :=
  path.getD (Path.child ⟨.slash, tree.here⟩ defaultFile)

/-- Loads the settings. A file that was asked for has to be there. -/
def load (tree : FileTree) (env : Environment) (path : Option Path) : Except Fault Settings := do
  let file := filePath tree path
  let found ← (tree.isFile file).mapError Fault.access
  if !found && path.isSome then
    .error (.configuration "config" ("file not found: " ++ file.toString))
  else
    override env (← if found then ofFile tree file else .ok {})

end Settings

end CommandManual
