import CommandManual.Script.Memory

/-!
Attributes of objects. What the class of an object computes comes first, then
what the object holds itself, then the other members of its class as they are
seen on the object; last of all a class or a module may name a function that
answers for all other names.
-/

namespace CommandManual.Script

namespace Class

/-- Whether the objects of a class hold more than those of the classes after it. -/
def isSolid (c : Class) : Bool :=
  if c.isKnown then solidKinds.contains c.name
  else c.own.any fun | (_, .computed "member_descriptor" _) => true | _ => false

def solid (c : Class) : Class := (c.lineage.find? isSolid).getD Class.object

def base? (c : Class) : Option Class :=
  let decisive := (c.ancestors.find? isSolid).getD Class.object
  c.ancestors.find? fun k => k.solid.id == decisive.id

def computed? (c : Class) (name : String) : Option Object :=
  match name with
  | "__class__" => some (.cls (knownClass "type"))
  | "__name__" | "__qualname__" => some (.value (.str c.name))
  | "__base__" => some ((c.base?.map Object.cls).getD (.value .null))
  | "__doc__" =>
    some (if c.isKnown then .other "str"
      else ((c.own.lookup name).map (Object.onClass c)).getD (.value .null))
  | "__module__" => if c.isKnown then some (.other "str") else c.own.lookup name
  | "__annotations__" => some ((c.own.lookup name).getD (.other "dict"))
  | name =>
    match knownMember? "type" name with
    | some (.computed _ gives) => if gives = "" then none else some (.ofKind gives)
    | _ => none

/-- The attribute of a class: what is computed for it, what it or a class after
it in lookup order holds, or what all classes have. -/
def seen? (c : Class) (name : String) : Option Object :=
  if c.isKnown && name == "__annotations__" then none
  else
    match c.computed? name, c.attribute? name with
    | some o, _ => some o
    | none, some o => some (o.onClass c)
    | none, none =>
      ((knownClass "type").attribute? name).bind (Object.bound? (knownClass "type") (.cls c))

end Class

/-! ### Objects of other kinds -/

def DocValue.object : DocValue → Object
  | .absent => .value .null
  | .text _ => .other "str"
  | .other kind => .other kind

/-- What is known of an attribute because of what the object is made of. -/
def ownAttribute? (o : Object) (name : String) : Option Object :=
  match o, name with
  | .function f, "__doc__" | .boundMethod f _, "__doc__" | .staticMethod f, "__doc__"
  | .classMethod f, "__doc__" | .property f, "__doc__" => some f.doc.object
  | .boundMethod f _, "__func__" | .staticMethod f, "__func__" | .staticMethod f, "__wrapped__"
  | .classMethod f, "__func__" | .classMethod f, "__wrapped__" | .property f, "fget" =>
    some (.function f)
  | .boundMethod _ self, "__self__" => some self
  | .pathMethod _, "__self__" => some .searchPath
  | .searchPath, name => if pathMethods.contains name then some (.pathMethod name) else none
  | _, _ => none

/-- The attribute of an object that is no class and no module. -/
def memberSeen? (o : Object) (name : String) : Option Object :=
  let c := o.classOf
  let held := heldByKnown? c.name name
  match ownAttribute? o name, c.attribute? name with
  | some found, _ => some found
  | none, some member =>
    if member.isComputed then
      if name = "__class__" then some (.cls c) else Object.bound? c o member
    else
      match held with
      | some found => some found
      | none => Object.bound? c o member
  | none, none => held

def answerForAll (o : Object) (name : String) (otherwise : Raised) (answers : Option Object) :
    Except Raised Object :=
  match answers with
  | some member =>
    call ((Object.bound? o.classOf o member).getD member) [.value (.str name)]
  | none => .error otherwise

def Memory.missing (memory : Memory) (m : Module) (name : String) : Raised :=
  match m.ownName? with
  | none => .noModuleAttribute none name false
  | some moduleName =>
    let unfinished :=
      ((memory.loaded.lookup (moduleName ++ "." ++ name)).bind memory.module?).any fun sub =>
        !sub.complete
    if m.complete && unfinished then .unfinishedSubmodule moduleName name
    else .noModuleAttribute (some moduleName) name (!m.complete)

/-- The attribute of a module: a name in it comes before what all modules have. -/
def Memory.moduleAttribute (memory : Memory) (o : Object) (m : Module) (name : String) :
    Except Raised Object :=
  let member := (knownClass "module").attribute? name
  let own := if member.any Object.isComputed then none else m.names.lookup name
  match own, memberSeen? o name with
  | some found, _ => .ok found
  | none, some found => .ok found
  | none, none =>
    match m.names.lookup "__getattr__" with
    | some answers => call answers [.value (.str name)]
    | none => .error (memory.missing m name)

def Memory.attribute (memory : Memory) (o : Object) (name : String) : Except Raised Object :=
  match o with
  | .cls c =>
    match c.seen? name with
    | some found => .ok found
    | none => .error (.noClassAttribute c.name name)
  | .module index =>
    match memory.module? index with
    | some m => memory.moduleAttribute o m name
    | none => .error (.noModuleAttribute none name false)
  | .boundMethod f _ =>
    match memberSeen? o name, memberSeen? (.function f) name with
    | some found, _ | none, some found => .ok found
    | none, none => .error (.misuse (.noAttribute (Object.function f).kindName name))
  | o =>
    match memberSeen? o name with
    | some found => .ok found
    | none =>
      answerForAll o name (.misuse (.noAttribute o.kindName name))
        (o.classOf.declared? "__getattr__")

def Memory.attributePath (memory : Memory) (o : Object) : List String → Except Raised Object
  | [] => .ok o
  | name :: rest =>
    match memory.attribute o name with
    | .error e => .error e
    | .ok found => memory.attributePath found rest

end CommandManual.Script
