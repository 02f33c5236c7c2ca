import CommandManual.Files.Tree
import CommandManual.Script.Call

/-!
What carrying out command files leaves behind: the modules that were made, the
names under which they are found again, and the directories that are searched
for them.
-/

namespace CommandManual.Script

structure Module where
  name : String
  /-- The file that the module was read from. -/
  file : Option String
  /-- The directories of a package, in which its submodules are searched. -/
  directories : Option (List Path) := none
  complete : Bool := false
  names : List (String × Object) := []

namespace Module

/-- The name that a module gives for itself, which a file may set. -/
def ownName? (m : Module) : Option String :=
  match m.names.lookup "__name__" with
  | some (.value (.str s)) => some s
  | _ => none

def shownName (m : Module) : String := m.ownName?.getD m.name

def parentName (name : String) : String :=
  ((Text.cutLast? '.' name.toList).map fun (parent, _) => String.ofList parent).getD ""

def package (m : Module) : Except Raised String :=
  match m.names.lookup "__package__" with
  | some (.value (.str s)) => .ok s
  | some (.value .null) | none =>
    .ok (if m.directories.isSome then m.name else parentName m.name)
  | some _ => .error .packageNotText

def startNames (name : String) (isPackage : Bool) (loader : String) : List (String × Object) :=
  [("__name__", .value (.str name)), ("__doc__", .value .null),
    ("__package__", .value (.str (if isPackage then name else parentName name))),
    ("__loader__", .other loader), ("__spec__", .other "ModuleSpec")]

/-- The module of a file, which is the file of a package when it has directories. -/
def ofFile (name : String) (file : Path) (directories : Option (List Path)) : Module where
  name
  file := some file.toString
  directories
  names :=
    startNames name directories.isSome "SourceFileLoader" ++
      (if directories.isSome then [("__path__", .other "list")] else []) ++
      [("__file__", .value (.str file.toString)), ("__cached__", .other "str"),
        ("__builtins__", .other "dict")]

/-- A module that the program offers to command files, which is complete from the
start. -/
def offered? (name : String) : Option Module :=
  (Script.offered? name).map fun m =>
    { name
      file := m.file
      directories := if m.isPackage then some [] else none
      complete := true
      names := startNames name m.isPackage "type" ++ m.members }

def ofDirectories (name : String) (directories : List Path) : Module where
  name
  file := none
  directories := some directories
  complete := true
  names :=
    startNames name true "NamespaceLoader" ++ [("__path__", .other "_NamespacePath")]

end Module

structure Memory where
  /-- All modules that were made; the position of a module is its identity. -/
  modules : List Module := []
  /-- The modules that a later request finds again. -/
  loaded : List (String × Nat) := []
  /-- The names under which modules were looked for, the last ones first. -/
  asked : List String := []
  searchPath : List String := []
  /-- What command files have changed about the search path, in order. -/
  edits : List PathEdit := []
  /-- The identity of the next class. -/
  freshId : Nat := firstOwnId

abbrev Exec := ExceptT Raised (StateM Memory)

namespace Memory

def module? (memory : Memory) (index : Nat) : Option Module := memory.modules[index]?

def modify (memory : Memory) (index : Nat) (f : Module → Module) : Memory :=
  match memory.modules[index]? with
  | some m => { memory with modules := memory.modules.set index (f m) }
  | none => memory

def bindName (memory : Memory) (index : Nat) (name : String) (o : Object) : Memory :=
  memory.modify index fun m => { m with names := assign name o m.names }

def enter (memory : Memory) (m : Module) : Nat × Memory :=
  (memory.modules.length,
    { memory with
      modules := memory.modules ++ [m]
      loaded := assign m.name memory.modules.length memory.loaded })

def ask (memory : Memory) (names : List String) : Memory :=
  { memory with asked := names ++ memory.asked }

def edit (memory : Memory) (e : PathEdit) : Memory :=
  { memory with searchPath := e.apply memory.searchPath, edits := memory.edits ++ [e] }

def forget (memory : Memory) (name : String) : Memory :=
  { memory with loaded := memory.loaded.filter fun (n, _) => n != name }

end Memory

end CommandManual.Script
