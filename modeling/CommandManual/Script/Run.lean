import CommandManual.Script.NewClass

/-!
Carrying out the items of a command file. A name is looked up in the class body
it is used in, then in the module, then among the names that all files know;
the body of a class inside another does not see the names of the outer body.
Private names in the body of a class stand for other names.
-/

namespace CommandManual.Script

inductive Scope
  | ofModule
  | ofClass (className : String) (names : List (String × Object))

def Scope.nameFor (scope : Scope) (name : String) : String :=
  match scope with
  | .ofModule => name
  | .ofClass className _ => privateName className name

/-- The module that is being carried out and how it asks for other modules. -/
structure Context where
  index : Nat
  /-- The base name of the file, for messages. -/
  fileName : String
  request : String → Exec Nat

def liftExcept {α : Type} (x : Except Raised α) : Exec α := ExceptT.mk (pure x)

def moduleNames (ctx : Context) : Exec (List (String × Object)) := do
  let memory ← get
  return ((memory.module? ctx.index).map Module.names).getD []

/-- What a name, as it stands after private names were replaced, means. -/
def lookupName (ctx : Context) (scope : Scope) (name : String) : Exec Object := do
  let inClass :=
    match scope with
    | .ofModule => none
    | .ofClass _ names => names.lookup name
  match inClass with
  | some o => return o
  | none =>
    match (← moduleNames ctx).lookup name with
    | some o => return o
    | none =>
      match builtin? name with
      | some o => return o
      | none => throw (.undefinedName name)

def lookupDotted (ctx : Context) (scope : Scope) (target : String) : Exec Object := do
  let parts := (Text.splitWhere (· == '.') target.toList).map String.ofList
  match parts.map scope.nameFor with
  | [] => throw (.undefinedName target)
  | name :: path =>
    let o ← lookupName ctx scope name
    liftExcept ((← get).attributePath o path)

/-- Lets a name, as it stands after private names were replaced, mean an object. -/
def bindName (ctx : Context) (scope : Scope) (name : String) (o : Object) : Exec Scope := do
  match scope with
  | .ofModule =>
    modify fun memory => memory.bindName ctx.index name o
    return .ofModule
  | .ofClass className names => return .ofClass className (assign name o names)

def bindIn (ctx : Context) (scope : Scope) (name : String) (o : Object) : Exec Scope :=
  bindName ctx scope (scope.nameFor name) o

def deleteIn (ctx : Context) (scope : Scope) (name : String) : Exec Scope := do
  let name := scope.nameFor name
  let names ←
    match scope with
    | .ofModule => moduleNames ctx
    | .ofClass _ names => pure names
  if (names.lookup name).isNone then throw (.undefinedName name)
  let names := names.filter fun (n, _) => n != name
  match scope with
  | .ofModule =>
    modify fun memory => memory.modify ctx.index fun m => { m with names }
    return .ofModule
  | .ofClass className _ => return .ofClass className names

def defined (form : MethodForm) (doc : DocValue) : Object :=
  match form with
  | .plain => .function ⟨doc, false, false⟩
  | .async => .function ⟨doc, true, false⟩
  | .static => .staticMethod ⟨doc, false, false⟩
  | .ofClass => .classMethod ⟨doc, false, false⟩
  | .property => .property ⟨doc, false, false⟩

/-! ### Modules -/

/-- The full name of a module that is named relative to a package; `up` is the
number of packages to leave. -/
def relativeTo (package : String) (up : Nat) (name : String) : Except Raised String :=
  let parts := Text.splitWhere (· == '.') package.toList
  if package = "" then .error (.ofImport .noParent)
  else if parts.length ≤ up then .error (.ofImport .beyondTop)
  else
    let base := String.intercalate "." ((parts.take (parts.length - up)).map String.ofList)
    .ok (if name = "" then base else base ++ "." ++ name)

def fullName (ctx : Context) (name : String) : Exec String := do
  let dots := (name.toList.takeWhile (· == '.')).length
  if dots = 0 then return name
  match (← get).module? ctx.index with
  | none => throw (.ofImport .noParent)
  | some m =>
    let package ← liftExcept m.package
    liftExcept (relativeTo package (dots - 1) (String.ofList (name.toList.drop dots)))

/-- Asks for the submodules among the wanted names that a package does not have
yet; one that does not exist is left to the lookup of the name. -/
def requestSubmodules (ctx : Context) (index : Nat) : List String → Exec Unit
  | [] => return ()
  | name :: rest => do
    match (← get).module? index with
    | some m =>
      let missing :=
        match (← get).attribute (.module index) name with
        | .ok _ => false
        | .error e => e.isMissingAttribute
      if m.directories.isSome && missing then
        let full := m.shownName ++ "." ++ name
        tryCatch (discard (ctx.request full)) fun e =>
          match e with
          | .ofImport (.noModule absent) => if absent = full then return () else throw e
          | e => throw e
    | none => return ()
    requestSubmodules ctx index rest

def importedName (index : Nat) (name : String) : Exec Object := do
  let memory ← get
  match memory.attribute (.module index) name with
  | .ok o => return o
  | .error e =>
    if !e.isMissingAttribute then throw e
    match memory.module? index with
    | none => throw (.ofImport (.noModule name))
    | some m =>
      let full := m.shownName ++ "." ++ name
      modify fun memory => memory.ask [full]
      match memory.loaded.lookup full with
      | some sub => return .module sub
      | none => throw (.ofImport (.noName name m.shownName m.file (!m.complete)))

def bindImported (ctx : Context) (index : Nat) : Scope → List String → Exec Scope
  | scope, [] => return scope
  | scope, name :: rest => do
    let name := scope.nameFor name
    let scope ← bindName ctx scope name (← importedName index name)
    bindImported ctx index scope rest

/-- The names that a module offers when all are asked for: those it lists, or
else those without a leading underscore. -/
def offeredNames (m : Module) : List String :=
  match m.names.lookup "__all__" with
  | some (.value (.list items)) => items.filterMap fun | .str s => some s | _ => none
  | _ => (m.names.map Prod.fst).filter isPublic

def bindOffered (ctx : Context) (index : Nat) : Scope → List String → Exec Scope
  | scope, [] => return scope
  | scope, name :: rest => do
    let o ← liftExcept ((← get).attribute (.module index) name)
    bindOffered ctx index (← bindName ctx scope name o) rest

/-- Binds what a file wants of the module `full` that it has asked for: the
package that it stands in, all that it offers, or some of its names. -/
def bindWanted (ctx : Context) (scope : Scope) (full : String) (index : Nat)
    (names : List String) : Exec Scope := do
  if names.isEmpty then
    let top := String.ofList (full.toList.takeWhile (· != '.'))
    bindIn ctx scope top (.module (← ctx.request top))
  else if names == ["*"] then
    let offered := ((← get).module? index).map offeredNames
    requestSubmodules ctx index (offered.getD [])
    bindOffered ctx index scope (offered.getD [])
  else
    requestSubmodules ctx index names
    bindImported ctx index scope names

def useModule (ctx : Context) (scope : Scope) (name : String) (names : List String) :
    Exec Scope := do
  let full ← fullName ctx (scope.nameFor name)
  let index ← ctx.request full
  bindWanted ctx scope full index names

/-! ### Items -/

/-- Calls a method of the search path, which gives nothing back. -/
def changePath (name : String) (argument : Option Value) : Exec Unit := do
  if let some e ← liftExcept (pathEdit? (← get).searchPath name argument) then
    modify fun memory => memory.edit e

def bodyStart (ctx : Context) (scope : Scope) (name : String) (doc : DocValue) :
    Exec (List (String × Object)) := do
  let home ← lookupName ctx .ofModule "__name__"
  let docs : List (String × Object) :=
    match doc with
    | .absent => []
    | doc => [("__doc__", doc.object)]
  return [("__module__", home), ("__qualname__", .value (.str (scope.nameFor name)))] ++ docs

mutual

def runItem (ctx : Context) (scope : Scope) : Item → Exec Scope
  | .define form name doc => bindIn ctx scope name (defined form doc)
  | .classBlock name bases doc members => do
    let bases ← bases.mapM (lookupDotted ctx scope)
    let kind ← liftExcept (ofClassFault (kindOfBases bases))
    let body ← runItems ctx (.ofClass name (← bodyStart ctx scope name doc)) members
    let own :=
      match body with
      | .ofClass _ names => names
      | .ofModule => []
    let made ← liftExcept (madeOf (← get).freshId name kind bases own)
    modify fun memory => { memory with freshId := memory.freshId + 1 }
    bindIn ctx scope name made
  | .lambda name => bindIn ctx scope name (.function ⟨.absent, false, false⟩)
  | .callable name => bindIn ctx scope name .callable
  | .constant name v => bindIn ctx scope name (.value v)
  | .alias name target => do bindIn ctx scope name (← lookupDotted ctx scope target)
  | .delete name => deleteIn ctx scope name
  | .useModule name names => useModule ctx scope name names
  | .throw kind message => do
    match ← lookupDotted ctx scope kind with
    | .pathMethod name => do
      changePath name message
      throw (.ofObject .notAnError)
    | o => throw (raisedBy o message)
  | .malformed => throw (.malformedFile ctx.fileName)

def runItems (ctx : Context) (scope : Scope) : List Item → Exec Scope
  | [] => return scope
  | item :: rest => do
    let scope ← runItem ctx scope item
    runItems ctx scope rest

end

/-- Carries out a file as the module at the context's index, which is complete
afterwards unless something was raised. -/
def runFile (ctx : Context) (items : List Item) : Exec Unit := do
  let _ ← runItems ctx .ofModule items
  modify fun memory => memory.modify ctx.index fun m => { m with complete := true }

end CommandManual.Script
