import CommandManual.Digest.Sha1
import CommandManual.Workspace

/-!
From a descriptor to a provider. A command file is carried out once and kept
under a name made from its place; while it is carried out, its directory is
searched for modules first.
-/

namespace CommandManual

namespace Script

def loaderLogger : String := "manify.docs.loader"

def digestLength : Nat := 12

/-- The name under which the module of a command file is kept. -/
def moduleName (path : Path) : String :=
  let digest := String.ofList ((Sha1.hexDigest path.toString).toList.take digestLength)
  "manify_commands_" ++ digest ++ "_" ++ path.stem

/-- The directory that has to be added to the search path for a while. -/
def toAdd? (directory : String) (memory : Memory) : Option String :=
  if memory.searchPath.contains directory then none else some directory

def Memory.search (memory : Memory) (directory : String) : Memory :=
  { memory with searchPath := directory :: memory.searchPath }

def Memory.unsearch (memory : Memory) (directory : String) : Memory :=
  { memory with searchPath := memory.searchPath.erase directory }

def Module.ofCommand (name : String) (file : Path) : Module :=
  .ofFile name file (if file.name = "__init__.py" then some [file.parent] else none)

/-- Carries out a command file as a new module. What was put in front of the search
path is taken out afterwards, if the file has left it there, and a file that ends in
an ordinary error is not kept. -/
def carryOut (tree : FileTree) (name : String) (file : Path) : Exec Nat := do
  let (index, memory) := (← get).enter (.ofCommand name file)
  let added := toAdd? file.parent.toString memory
  set (added.elim memory memory.search)
  let outcome ←
    tryCatch (Except.ok <$> runAt tree (request tree) index name file)
      fun e => return .error e
  if let some directory := added then modify fun memory => memory.unsearch directory
  match outcome with
  | .ok () => return index
  | .error e =>
    if e.isOrdinary then modify fun memory => memory.forget name
    throw e

end Script

namespace Action

open Script

def findFile (path : Path) (className : String) : Action Path := do
  let tree := (← get).tree
  if ← ofExcept ((tree.isFile path).mapError Fault.access) then
    let place ←
      ofExcept ((tree.locate .follow path).mapError fun r => .access (.refused r path.toString))
    return ⟨.slash, place⟩
  else throw (.classNotFound className (some ("Command file not found: " ++ path.toString)))

/-- What a command file that raises something comes to: a class that is not
found, unless it asks to leave the program or cannot be put into words. -/
def unloadable (path : Path) (className : String) (e : Raised) : Fault :=
  if e.isOrdinary then
    match e.formatted with
    | .ok detail =>
      .classNotFound className
        (some ("Could not load command file " ++ path.toString ++ ": " ++ detail))
    | .error e => .raised e
  else .raised e

/-- The module of a command file that was not carried out before. -/
def loadNew (path : Path) (className : String) (file : Path) : Action Nat := do
  let tree := (← get).tree
  let name := moduleName file
  match FileForm.ofName? file.name with
  | none =>
    throw (.classNotFound className
      (some ("Could not load command file: " ++ path.toString)))
  | some .library => throw (.raised (.ofCompiled (.ofLibrary file.toString (bytesAt tree file))))
  | some _ =>
    match ← ofExec (carryOut tree name file) with
    | .error e => throw (unloadable path className e)
    | .ok index =>
      note loaderLogger .debug ("Loaded command file " ++ path.toString ++ " as " ++ name)
        [("path", .str path.toString), ("module", .str name)]
      return index

/-- The module of a command file, carried out on the first request. -/
def loadFile (path : Path) (className : String) : Action Nat := do
  let file ← findFile path className
  match (← get).memory.loaded.lookup (moduleName file) with
  | some index => return index
  | none => loadNew path className file

/-- The class that a name, which may have dots, stands for in a module. -/
def resolveClass (index : Nat) (className : String) : Action Class := do
  let parts := (Text.splitWhere (· == '.') className.toList).map String.ofList
  match (← get).memory.attributePath (.module index) parts with
  | .error e =>
    throw (if e.isMissingAttribute then .classNotFound className none else .raised e)
  | .ok (.cls c) => return c
  | .ok _ => throw (.classNotFound className (some ("Not a class: " ++ className)))

/-- The module and the class of a class path: they are divided by the first
colon, or else by the last dot. -/
def splitClassPath? (classPath : String) : Option (String × String) :=
  let halves := fun (m, c) => (String.ofList m, String.ofList c)
  match Text.cut? [':'] classPath.toList with
  | some cut => some (halves cut)
  | none => (Text.cutLast? '.' classPath.toList).map halves

def importClass (classPath : String) : Action Class := do
  match splitClassPath? classPath with
  | none => throw (.classNotFound classPath none)
  | some (moduleName, className) =>
    let tree := (← get).tree
    match ← ofExec (requestAbsolute tree moduleName) with
    | .ok index => resolveClass index className
    | .error e =>
      throw (if e.isImport then .classNotFound classPath none else .ofRaised e)

/-- The provider of a command that the registry does not know, from its class path. -/
def importedProvider (d : Descriptor) : Action Provider := do
  if d.className = "" then
    throw (.classNotFound d.commandName
      (some ("No class registered for command: " ++ d.commandName)))
  else return .ofClass d (.cls (← importClass d.className))

/-- The provider that something other than a class or a known provider stands for. -/
def answeringProvider (d : Descriptor) (o : Object) : Action Provider := do
  if ← ofExcept ((Provider.answersLike (← get).memory o).mapError Fault.raised) then
    return .object o
  else
    throw (.classNotFound d.commandName
      (some ("Registered command is neither a class nor a provider: " ++ d.commandName)))

/-- The provider of a command for which the registry has a target or none. -/
def targetProvider (d : Descriptor) : Option Target → Action Provider
  | some (.object (.cls c)) => return .ofClass d (.cls c)
  | some (.provider p) => return p
  | some (.object (.value .null)) | none => importedProvider d
  | some (.object o) => answeringProvider d o

/-- The provider of a command: from its file, from the registry under the name
of the command, or from its class path. -/
def loadProvider (d : Descriptor) : Action Provider := do
  match d.sourcePath with
  | some path =>
    let index ← loadFile path d.className
    return .ofClass d (.cls (← resolveClass index d.className))
  | none => targetProvider d (← registered d.commandName)

end Action

end CommandManual
