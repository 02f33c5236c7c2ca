import CommandManual.Files.Access
import CommandManual.Script.Run

/-!
Finding modules by name. A name with dots is taken part by part: the first part
is searched in the directories of the search path, each further part in those
of the package before it. A module that raises while it is carried out is not
found again.
-/

namespace CommandManual.Script

inductive Found
  /-- A directory with a file that makes it a package. -/
  | package (directory file : Path)
  | file (path : Path)
  | directory (path : Path)

def yes (x : Except AccessError Bool) : Bool :=
  match x with
  | .ok b => b
  | .error _ => false

def findIn (tree : FileTree) (name : String) (directory : Path) : Option Found :=
  let names := tree.list directory
  let inner := directory.child name
  let endings := moduleEndings.map Prod.fst
  let first (files : List Path) := files.find? fun file => yes (tree.isFile file)
  let packages :=
    if names.contains name then endings.map fun e => inner.child ("__init__" ++ e) else []
  let files := ((endings.map (name ++ ·)).filter names.contains).map directory.child
  match first packages, first files with
  | some file, _ => some (.package inner file)
  | none, some file => some (.file file)
  | none, none =>
    if names.contains name && yes (tree.isDirectory inner) then some (.directory inner) else none

/-- The first package or file in the directories; failing that, all plain
directories of that name together. -/
def findModule (tree : FileTree) (name : String) (directories : List Path) :
    Option (Path × Option (List Path)) ⊕ List Path :=
  let found := directories.filterMap (findIn tree name)
  match found.find? fun | .directory _ => false | _ => true with
  | some (.package d file) => .inl (some (file, some [d]))
  | some (.file p) => .inl (some (p, none))
  | _ =>
    match found.filterMap fun | .directory d => some d | _ => none with
    | [] => .inl none
    | portions => .inr portions

def bytesAt (tree : FileTree) (path : Path) : List UInt8 :=
  ((tree.read path).toOption.map Content.encode).getD []

/-- The items of a command file. A file in compiled form only says what is wrong
with it, and one that is neither empty nor given by its items is not looked into. -/
def itemsAt (tree : FileTree) (moduleName : String) (path : Path) : Except Raised (List Item) :=
  let bytes := bytesAt tree path
  match FileForm.ofName? path.name, tree.read path with
  | some .compiled, _ => .error (.ofCompiled (.ofCompiled moduleName path.toString bytes))
  | some .library, _ => .error (.ofCompiled (.ofLibrary path.toString bytes))
  | _, .ok (.script items) => .ok items
  | _, .ok (.text []) | _, .ok (.bytes []) => .ok []
  | _, _ => .error (.undescribed path.toString)

def runAt (tree : FileTree) (request : String → Exec Nat) (index : Nat) (moduleName : String)
    (path : Path) : Exec Unit := do
  let items ← ExceptT.mk (pure (itemsAt tree moduleName path))
  runFile ⟨index, path.name, request⟩ items

def enterModule (m : Module) : Exec Nat := do
  let (index, memory) := (← get).enter m
  set memory
  return index

/-- Makes the module `full`, whose last part is `name`, from what the program offers
or, failing that, from what the directories hold. -/
def makeModule (tree : FileTree) (request : String → Exec Nat) (full name : String)
    (directories : List Path) : Exec Nat := do
  match Module.offered? full, findModule tree name directories with
  | some m, _ => enterModule m
  | none, .inl none => throw (.ofImport (.noModule full))
  | none, .inr portions => enterModule (.ofDirectories full portions)
  | none, .inl (some (file, inside)) =>
    let (index, memory) := (← get).enter (.ofFile full file inside)
    set memory
    tryCatch (runAt tree request index full file) fun e => do
      modify fun memory => memory.forget full
      throw e
    return index

def dotted (parts : List String) : String := String.intercalate "." parts.reverse

/-- The full names of a module and of the packages that it stands in. -/
def fullNames : List String → List String
  | [] => []
  | name :: outer => dotted (name :: outer) :: fullNames outer

/-- The directories in which the submodules of a package are searched; its
parts are given last one first, and without parts it is the search path. A
package of plain directories follows the directories around it. -/
def placesOf (tree : FileTree) : List String → Exec (Option (List Path))
  | [] => do return some ((← get).searchPath.map Path.ofString)
  | name :: outer => do
    let memory ← get
    match memory.loaded.lookup (dotted (name :: outer)) with
    | none => return none
    | some index =>
      match memory.module? index with
      | none => return none
      | some m =>
        if m.file.isSome || m.directories.isNone then return m.directories
        else
          if !outer.isEmpty && (memory.loaded.lookup (dotted outer)).isNone then
            throw (.lostPackage (dotted outer))
          match findModule tree name ((← placesOf tree outer).getD []) with
          | .inr portions =>
            modify fun memory =>
              memory.modify index fun m => { m with directories := some portions }
            return some portions
          | .inl _ => return m.directories

/-- Makes the module of a dotted name, whose parts are given last one first,
after the packages that it stands in. -/
def requestParts (tree : FileTree) (request : String → Exec Nat) : List String → Exec Nat
  | [] => throw .emptyModuleName
  | name :: outer => do
    let full := dotted (name :: outer)
    if let some index := (← get).loaded.lookup full then return index
    if outer.isEmpty then makeModule tree request full name ((← placesOf tree []).getD [])
    else
      let package ← requestParts tree request outer
      if let some index := (← get).loaded.lookup full then return index
      match ← placesOf tree outer with
      | none => throw (.ofImport (.notPackage full (dotted outer)))
      | some directories =>
        let index ← makeModule tree request full name directories
        modify fun memory => memory.bindName package name (.module index)
        return index

def requestDepth : Nat := 160

def requestWithin (tree : FileTree) : (depth : Nat) → String → Exec Nat
  | 0, _ => throw .tooDeep
  | depth + 1, name => do
    let parts := ((Text.splitWhere (· == '.') name.toList).map String.ofList).reverse
    modify fun memory => memory.ask (name :: fullNames parts)
    match (← get).loaded.lookup name with
    | some index => return index
    | none =>
      if name = "" then throw .emptyModuleName
      requestParts tree (requestWithin tree depth) parts

def request (tree : FileTree) (name : String) : Exec Nat := requestWithin tree requestDepth name

def requestAbsolute (tree : FileTree) (name : String) : Exec Nat :=
  if name.toList.head? == some '.' then throw (.relativeModule name) else request tree name

end CommandManual.Script
