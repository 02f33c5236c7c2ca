import CommandManual.Script.Item

/-!
The objects that command files work with. A class holds its own members in the
order of their first definition, and the classes it inherits from in the order
of attribute lookup, so that a class is a value that never changes.
-/

namespace CommandManual.Script

structure Function where
  doc : DocValue
  isAsync : Bool := false
  /-- Whether it belongs to a known class and not to a command file. -/
  native : Bool := false
deriving DecidableEq, Repr

mutual

inductive Object
  | function (f : Function)
  | staticMethod (f : Function)
  | classMethod (f : Function)
  /-- A method together with what it is called on. -/
  | boundMethod (f : Function) (self : Object)
  | property (f : Function)
  | callable
  | value (v : Value)
  | module (index : Nat)
  /-- A member that gives each object of its class something of another kind. -/
  | computed (kind gives : String)
  /-- Something of which only the kind is known. -/
  | other (kind : String)
  /-- An object of a class. -/
  | objectOf (c : Class)
  /-- The list of the directories that are searched for modules. -/
  | searchPath
  /-- A method of that list which changes it. -/
  | pathMethod (name : String)
  | cls (c : Class)

/-- A class with its identity, its name, its own members, and the classes
after it in lookup order. -/
inductive Class
  | mk (id : Nat) (name : String) (own : List (String × Object)) (ancestors : List Class)

end

instance : Inhabited Object := ⟨.callable⟩

instance : Inhabited Class := ⟨.mk 0 "object" [] []⟩

namespace Class

def id : Class → Nat
  | mk id _ _ _ => id

def name : Class → String
  | mk _ name _ _ => name

def own : Class → List (String × Object)
  | mk _ _ own _ => own

def ancestors : Class → List Class
  | mk _ _ _ ancestors => ancestors

def lineage (c : Class) : List Class := c :: c.ancestors

def object : Class := .mk 0 "object" [] []

/-- What the members of a class and of those it inherits from hold under a name. -/
def find? (c : Class) (name : String) : Option Object :=
  c.lineage.findSome? fun k => k.own.lookup name

/-- Whether a class is, or inherits from, the class with the given identity. -/
def inherits (c : Class) (id : Nat) : Bool := c.lineage.any fun k => k.id == id

end Class

namespace Object

def shownKind (kind : String) : String := if kind = "partial" then "functools.partial" else kind

def className : Object → String
  | function f => if f.native then "builtin_function_or_method" else "function"
  | staticMethod _ => "staticmethod"
  | classMethod _ => "classmethod"
  | boundMethod .. => "method"
  | property _ => "property"
  | callable => "partial"
  | value v => v.kindName
  | module _ => "module"
  | computed kind _ => kind
  | other kind => kind
  | objectOf c => c.name
  | searchPath => "list"
  | pathMethod _ => "builtin_function_or_method"
  | cls _ => "type"

def kindName (o : Object) : String := shownKind o.className

def ofKind (kind : String) : Object := if kind = "NoneType" then value .null else other kind

/-- What is seen of a member of a class from outside the class. -/
def onClass (c : Class) : Object → Object
  | staticMethod f => function f
  | classMethod f => boundMethod f (cls c)
  | computed kind _ => other kind
  | other "classmethod_descriptor" => other "builtin_function_or_method"
  | o => o

/-- What is seen of a member of the class `c` on its object `self`, unless a
computed member has nothing to give. -/
def bound? (c : Class) (self : Object) : Object → Option Object
  | function f => some (boundMethod f self)
  | staticMethod f => some (function f)
  | classMethod f => some (boundMethod f (cls c))
  | property _ => some (value .null)
  | computed _ gives => if gives = "" then none else some (ofKind gives)
  | other "method_descriptor" | other "classmethod_descriptor" =>
    some (other "builtin_function_or_method")
  | other "wrapper_descriptor" => some (other "method-wrapper")
  | o => some o

/-- Whether a member takes precedence over what an object holds itself. -/
def isComputed : Object → Bool
  | property _ | computed .. => true
  | _ => false

def asMethod? : Object → Option Function
  | function f => some f
  | staticMethod f => some f
  | classMethod f => some f
  | _ => none

def asClass? : Object → Option Class
  | cls c => some c
  | _ => none

end Object

/-! ### Public methods -/

def isPublic (name : String) : Bool := name.toList.head? != some '_'

/-- The public methods among members, without the names already seen. -/
def collectMethods (seen : List String) : List (String × Object) → List (String × Function)
  | [] => []
  | (name, o) :: rest =>
    if !isPublic name || seen.contains name then collectMethods seen rest
    else
      match o.asMethod? with
      | some f => (name, f) :: collectMethods (name :: seen) rest
      | none => collectMethods seen rest

/-- The public methods of a class: its own in order of declaration, then the
inherited ones in lookup order, each name once. -/
def Class.publicMethods (c : Class) : List (String × Function) :=
  collectMethods [] (c.lineage.flatMap Class.own)

end CommandManual.Script
