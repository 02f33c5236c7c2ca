import CommandManual.Command.Descriptor
import CommandManual.Log.Trace

/-!
Manifests. A manifest is a JSON document whose section `extra` declares
commands: a list of names, which the registry resolves, and a table that binds
each command to a class in a file. A project has a manifest of its own and those
of its plugins, which are its immediate subdirectories in increasing order of
their names.
-/

namespace CommandManual.Manifest

def logger : String := "manify.docs.manifest"

def defaultName : String := "composer.json"

/-- How many arrays and objects may stand around each other in a manifest. This is
what is left of the depth to which calls may be nested where manifests are read. -/
def nestingLimit : Nat := 975

def fault {α : Type} (reason : String) : Except Fault α :=
  .error (.configuration "manifest" reason)

def accessed {α : Type} (x : Except AccessError α) : Except Fault α :=
  x.mapError Fault.access

/-! ### One manifest -/

/-- The text of a manifest, whose line ends are brought to line feeds. -/
def readText (tree : FileTree) (path : Path) : Except Fault Text :=
  match tree.read path with
  | .error e => fault ("could not read " ++ path.toString ++ ": " ++ e.message)
  | .ok content =>
    match content.decode with
    | .error e => fault ("could not read " ++ path.toString ++ ": " ++ e.message)
    | .ok text => .ok (Utf8.normalizeLines text)

/-- The value in a manifest. Integers that are too long and values that are
nested too deep are faults of their own. -/
def readValue (path : Path) (text : Text) : Except Fault Value :=
  match Json.parse nestingLimit text with
  | .ok v => .ok v
  | .error (.malformed problem position) =>
    fault ("invalid JSON in " ++ path.toString ++ ": " ++
      Json.Error.message text (.malformed problem position))
  | .error (.longInteger digits) => .error (.longInteger digits)
  | .error (.tooDeep nesting) => .error (.tooDeep nesting)

def extraSection (path : Path) : Value → Except Fault (List (String × Value))
  | .table fields =>
    match fields.lookup "extra" with
    | some (.table extra) => .ok extra
    | _ => fault ("missing 'extra' section in " ++ path.toString)
  | _ => fault (path.toString ++ " must contain a JSON object")

/-- The section of the manifest in a directory, which messages show as `shown`. -/
def sectionIn (tree : FileTree) (directory : Path) (shown name : String) :
    Except Fault (List (String × Value)) := do
  let path := directory.join (Path.ofString name)
  if !(← accessed (tree.isFile path)) then
    fault (name ++ " not found in " ++ shown)
  else
    let text ← readText tree path
    extraSection path (← readValue path text)

/-- Loads the section of the manifest in a directory, which is shown as it is
given. -/
def load (tree : FileTree) (directory name : String) : Except Fault (List (String × Value)) :=
  sectionIn tree (Path.ofString directory) directory name

def listedCommand (directory : Path) (entry : Value) : Except Fault Descriptor :=
  let invalid := fault ("invalid command entry " ++ entry.quoted ++ " in " ++ directory.toString)
  match entry with
  | .str s =>
    match Text.words s.toList with
    | [] => invalid
    | word :: _ => .ok { commandName := String.ofList word, baseDirectory := directory }
  | _ => invalid

def listedCommands (directory : Path) : Value → Except Fault (List Descriptor)
  | .list entries => entries.mapM (listedCommand directory)
  | _ => fault ("'commands' must be a list in " ++ directory.toString)

def keyedFault {α : Type} (key problem : String) : Except Fault α :=
  fault ("command '" ++ key ++ "' " ++ problem)

def keyedClass (key : String) (fields : List (String × Value)) : Except Fault String :=
  match fields.lookup "class" with
  | some (.str s) => if s = "" then keyedFault key "has no 'class'" else .ok s
  | _ => keyedFault key "has no 'class'"

def keyedFile (key : String) (fields : List (String × Value)) : Except Fault (Option Path) :=
  match fields.lookup "file" with
  | none | some .null => .ok none
  | some (.str s) =>
    if s = "" then keyedFault key "has an invalid 'file'" else .ok (some (Path.ofString s))
  | _ => keyedFault key "has an invalid 'file'"

/-- The name of a command of the table: its key, unless another one is given. -/
def keyedName (key : String) (fields : List (String × Value)) : Except Fault String :=
  let checked (s : String) : Except Fault String :=
    if s = "" then keyedFault key "has an invalid 'command'" else .ok s
  match fields.lookup "command" with
  | none | some .null => checked key
  | some (.str s) => checked s
  | _ => keyedFault key "has an invalid 'command'"

def keyedCommand (directory : Path) (key : String) : Value → Except Fault Descriptor
  | .table fields => do
    let className ← keyedClass key fields
    let sourceFile ← keyedFile key fields
    let commandName ← keyedName key fields
    .ok { commandName, className, sourceFile, baseDirectory := directory }
  | _ => keyedFault key "must be an object"

def keyedCommands (directory : Path) : Value → Except Fault (List Descriptor)
  | .table fields => fields.mapM fun (key, config) => keyedCommand directory key config
  | _ => fault ("'wp-cli-commands' must be an object in " ++ directory.toString)

/-- The commands that a section declares, those of the list first. -/
def declared (directory : Path) (extra : List (String × Value)) :
    Except Fault (List Descriptor) := do
  let listed ← ((extra.lookup "commands").map (listedCommands directory)).getD (.ok [])
  let keyed ← ((extra.lookup "wp-cli-commands").map (keyedCommands directory)).getD (.ok [])
  return listed ++ keyed

def commands (tree : FileTree) (directory : Path) (name : String) :
    Except Fault (List Descriptor) := do
  declared directory (← sectionIn tree directory directory.toString name)

def read (tree : FileTree) (directory : Path) (name : String) : Traced (List Descriptor) := do
  let found ← Traced.ofExcept (commands tree directory name)
  let path := (directory.join (Path.ofString name)).toString
  Traced.note logger .debug ("Read " ++ toString found.length ++ " command(s) from " ++ path)
    [("count", .int found.length), ("path", .str path)]
  return found

/-! ### The manifests of a project -/

def isPlugin (tree : FileTree) (name : String) (directory : Path) : Except Fault Bool := do
  if ← accessed (tree.isDirectory directory) then
    accessed (tree.isFile (directory.join (Path.ofString name)))
  else return false

/-- The directories that hold a manifest, among some in a given order. -/
def pluginsAmong (tree : FileTree) (name : String) : List Path → Except Fault (List Path)
  | [] => .ok []
  | directory :: rest => do
    let here ← isPlugin tree name directory
    let others ← pluginsAmong tree name rest
    return if here then directory :: others else others

/-- The directories of the plugins of a project, if they are asked for. -/
def pluginsOf (tree : FileTree) (source : Path) (name : String) (plugins : Bool) :
    Except Fault (List Path) :=
  if plugins then pluginsAmong tree name ((tree.list source).map source.child) else .ok []

/-- The directories whose manifests belong to a project: the project's own
first, then those of its plugins. -/
def directories (tree : FileTree) (source : Path) (name : String) (plugins : Bool) :
    Except Fault (List Path) := do
  if !(← accessed (tree.isDirectory source)) then
    .error (.configuration "source" ("not a directory: " ++ source.toString))
  else
    let own ← accessed (tree.isFile (source.join (Path.ofString name)))
    let others ← pluginsOf tree source name plugins
    let found := (if own then [source] else []) ++ others
    if found.isEmpty then fault ("no " ++ name ++ " found in " ++ source.toString)
    else .ok found

/-- Reads the manifest of a plugin. A fault of the configuration only skips the
plugin. -/
def readPlugin (tree : FileTree) (directory : Path) (name : String) :
    Traced (List Descriptor) := do
  let path := directory.toString
  match commands tree directory name with
  | .error (.configuration _ reason) =>
    Traced.note logger .info ("Skipping plugin " ++ path ++ ": " ++ reason)
      [("path", .str path), ("reason", .str reason)]
    return []
  | _ =>
    let found ← read tree directory name
    if found.isEmpty then
      Traced.note logger .debug ("Plugin " ++ path ++ " declares no commands")
        [("path", .str path)]
    return found

/-- The commands whose names are new, and all names seen so far. -/
def keepNew (directory : Path) : (seen : List String) → List Descriptor →
    Traced (List Descriptor × List String)
  | seen, [] => return ([], seen)
  | seen, d :: rest => do
    if seen.contains d.commandName then
      let path := directory.toString
      Traced.note logger .debug
        ("Ignoring duplicate command " ++ d.commandName ++ " in " ++ path)
        [("name", .str d.commandName), ("path", .str path)]
      keepNew directory seen rest
    else
      let (kept, seen) ← keepNew directory (d.commandName :: seen) rest
      return (d :: kept, seen)

end CommandManual.Manifest
