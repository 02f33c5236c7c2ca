import CommandManual.Script.Attribute
import CommandManual.Script.Linearize
import CommandManual.Text.Name

/-!
Making a class from its bases and its finished body. The checks come in a fixed
order: the kinds of the bases before the body is carried out, then what the
objects of the bases hold, the slots, the name, and the lookup order; the last
step tells the bases about the new class.
-/

namespace CommandManual.Script

/-! ### Private names -/

/-- The name that stands for a name in the body of a class: names that start
with two underscores, and do not end with two, belong to the class alone. -/
def privateName (className name : String) : String :=
  let t := name.toList
  let owner := className.toList.dropWhile (· == '_')
  if !"__".toList.isPrefixOf t || "__".toList.isSuffixOf t || t.contains '.' || owner.isEmpty then
    name
  else String.ofList ('_' :: owner ++ t)

/-! ### Bases -/

/-- The kind of class that all bases belong to; the first base that differs has
to be of a kind that inherits from the others or the other way round. -/
def commonKind : (winner : Class) → List Object → Except ClassFault Class
  | winner, [] => .ok winner
  | winner, base :: rest =>
    let kind := base.classOf
    if winner.inherits kind.id then commonKind winner rest
    else if kind.inherits winner.id then commonKind kind rest
    else .error .conflictingKinds

def kindOfBases (bases : List Object) : Except ClassFault Class :=
  match bases with
  | [] => .ok (knownClass "type")
  | base :: rest => commonKind base.classOf rest

/-- The class that decides what objects with these bases hold. -/
def decisiveOf : (winner : Class) → List Class → Except ClassFault Class
  | winner, [] => .ok winner
  | winner, base :: rest =>
    if base.isKnown && finalKinds.contains base.name then .error (.finalBase base.name)
    else if winner.inherits base.solid.id then decisiveOf winner rest
    else if base.solid.inherits winner.id then decisiveOf base.solid rest
    else .error .conflictingLayouts

def decisiveBase (bases : List Class) : Except ClassFault Class := do
  let winner ← decisiveOf Class.object bases
  .ok ((bases.find? fun b => b.solid.id == winner.id).getD Class.object)

/-! ### Slots -/

def Class.isUnsized (c : Class) : Bool :=
  c.lineage.any fun k => k.isKnown && unsizedKinds.contains k.name

/-- Known classes whose objects can be referred to weakly, though no member says so. -/
def weakKinds : List String := ["set", "frozenset", "type", "partial", "module"]

def Class.hasWeak (c : Class) : Bool :=
  (c.attribute? "__weakref__").isSome ||
    c.lineage.any fun k => k.isKnown && weakKinds.contains k.name

def Class.hasDict (c : Class) : Bool := (c.attribute? "__dict__").isSome

def listedSlots : Object → Except Raised (List Value)
  | .value (.str s) => .ok [.str s]
  | .value (.list items) => .ok items
  | .value (.table fields) => .ok (fields.map fun (k, _) => .str k)
  | o => .error (.misuse (.notIterable o.kindName))

/-- Checks slots one by one; `taken` are those that the objects have already. -/
def checkSlots : (taken : List String) → List Value → Except ClassFault (List String)
  | _, [] => .ok []
  | taken, .str s :: rest => do
    if !Text.isName s.toList then throw .slotNotName
    if taken.contains s then throw (.slotRepeated s)
    let more := if ["__dict__", "__weakref__"].contains s then s :: taken else taken
    .ok (s :: (← checkSlots more rest))
  | _, v :: _ => .error (.slotNotText v.kindName)

/-- The slots of a class with the given body, under their private names. -/
def slotNames (className : String) (base : Class) (own : List (String × Object))
    (listed : List Value) : Except ClassFault (List String) := do
  if !listed.isEmpty && base.isUnsized then throw (.slotsOnUnsized base.name)
  let taken :=
    (if base.hasDict then ["__dict__"] else []) ++
      (if base.hasWeak || base.isUnsized then ["__weakref__"] else [])
  let names := (← checkSlots taken listed).map (privateName className)
  let free := ["__dict__", "__weakref__", "__qualname__", "__classcell__"]
  let clashes (name : String) : Bool := !free.contains name && (own.lookup name).isSome
  match names.find? clashes with
  | some name => throw (.slotIsMember name)
  | none => .ok names

def slotMembers (base : Class) (slots : Option (List String)) : List (String × Object) :=
  let addDict := slots.elim (!base.hasDict) fun names => names.contains "__dict__"
  let addWeak :=
    slots.elim (!base.hasWeak && !base.isUnsized) fun names => names.contains "__weakref__"
  ((slots.getD []).filter fun n => n != "__dict__" && n != "__weakref__").map
      (fun n => (n, .computed "member_descriptor" "")) ++
    (if addDict then [("__dict__", .computed "getset_descriptor" "dict")] else []) ++
    (if addWeak then [("__weakref__", .computed "getset_descriptor" "NoneType")] else [])

/-! ### Members -/

/-- Members that become methods of the class, or static, by their name alone. -/
def settled : String × Object → String × Object
  | ("__new__", .function f) => ("__new__", .staticMethod f)
  | ("__init_subclass__", .function f) => ("__init_subclass__", .classMethod f)
  | ("__class_getitem__", .function f) => ("__class_getitem__", .classMethod f)
  | member => member

def addMissing (own more : List (String × Object)) : List (String × Object) :=
  own ++ more.filter fun (name, _) => (own.lookup name).isNone

/-- The members of a class: those of its body, and those that all classes have. -/
def membersOf (own more : List (String × Object)) : List (String × Object) :=
  let own := (own.filter fun (name, _) => name != "__qualname__").map settled
  let unhashable : List (String × Object) :=
    if (own.lookup "__eq__").isSome then [("__hash__", .value .null)] else []
  addMissing own (more ++ [("__doc__", .value .null)] ++ unhashable)

/-- Checks the name under which the body wants the class to be known. -/
def checkQualifiedName (own : List (String × Object)) : Except ClassFault Unit :=
  match own.lookup "__qualname__" with
  | some (.value (.str _)) | some (.other "str") | none => .ok ()
  | some o => .error (.nameNotText o.className)

/-! ### The whole -/

def ofClassFault {α : Type} (x : Except ClassFault α) : Except Raised α :=
  x.mapError Raised.ofClass

def slotsOf (name : String) (base : Class) (own : List (String × Object)) :
    Except Raised (Option (List String)) :=
  match own.lookup "__slots__" with
  | none => .ok none
  | some o => do .ok (some (← ofClassFault (slotNames name base own (← listedSlots o))))

def tellBases (c : Class) : Except Raised Unit :=
  match (Class.mk c.id c.name [] c.ancestors).declared? "__init_subclass__" with
  | some told => do
    let _ ← call (told.onClass c) []
    .ok ()
  | none => .ok ()

/-- The class with a fresh identity that a finished body makes. -/
def newClass (id : Nat) (name : String) (bases : List Class) (own : List (String × Object)) :
    Except Raised Class := do
  let base ← ofClassFault (decisiveBase bases)
  let slots ← slotsOf name base own
  ofClassFault (checkQualifiedName own)
  let ancestors ← ofClassFault (lookupOrder bases)
  let c : Class := .mk id name (membersOf own (slotMembers base slots)) ancestors
  tellBases c
  .ok c

def madeOf (id : Nat) (name : String) (kind : Class) (bases : List Object)
    (own : List (String × Object)) : Except Raised Object :=
  match kind.name with
  | "type" => do .ok (.cls (← newClass id name (bases.filterMap Object.asClass?) own))
  | "property" => .ok (.other "property")
  | kind => .error (.ofClass (.unusableBase (Object.shownKind kind)))

end CommandManual.Script
