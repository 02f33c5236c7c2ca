import CommandManual.Script.Offered
import CommandManual.Text.Digits

/-!
Calling objects and making objects of classes. The functions of command files
take all arguments and give nothing back, so what matters is which member of a
class is called, and whether a known class takes the arguments. The text of an
error that a command file raises is found in the same way.
-/

namespace CommandManual.Script

/-! ### Arguments of known classes -/

def textOf? : Object → Option String
  | .value (.str s) => some s
  | _ => none

def valueOf? : Object → Option Value
  | .value v => some v
  | _ => none

/-- The first class in lookup order that has a member of some name. -/
def Class.holder? (c : Class) (name : String) : Option Class :=
  c.lineage.find? fun k => (k.member? name).isSome

def holderName (c : Class) (name : String) : String :=
  ((c.holder? name).map Class.name).getD "object"

/-- Why a known class does not make an object from arguments: the class of the
error and what it says. -/
def refusedByNew? (className : String) (args : List Object) : Option (String × String) :=
  let given := args.length
  let count := toString given
  let text := (args.head?.bind textOf?).map String.toList
  let kind := (args.head?.map Object.kindName).getD "NoneType"
  let isWhole := ["int", "bool"].contains kind
  match className with
  | "int" =>
    text.bind fun t =>
      if Text.isInteger t then none
      else some ("ValueError",
        "invalid literal for int() with base 10: " ++ Text.quoted (String.ofList t))
  | "float" =>
    text.bind fun t =>
      if Text.isDecimal t then none
      else some ("ValueError",
        "could not convert string to float: " ++ Text.quoted (String.ofList t))
  | "complex" =>
    text.bind fun t =>
      if Text.isDecimal t then none
      else some ("ValueError", "complex() arg is a malformed string")
  | "bytes" => text.map fun _ => ("TypeError", "string argument without an encoding")
  | "memoryview" =>
    some ("TypeError",
      if given = 0 then "memoryview() missing required argument 'object' (pos 1)"
      else "memoryview: a bytes-like object is required, not '" ++ kind ++ "'")
  | "range" =>
    if given = 0 then some ("TypeError", "range expected at least 1 argument, got 0")
    else if isWhole then none
    else some ("TypeError", "'" ++ kind ++ "' object cannot be interpreted as an integer")
  | "slice" =>
    if given = 0 then some ("TypeError", "slice expected at least 1 argument, got 0") else none
  | "enumerate" =>
    if given = 0 then
      some ("TypeError", "enumerate() missing required argument 'iterable' (pos 1)")
    else none
  | "reversed" =>
    if given = 0 then some ("TypeError", "reversed expected 1 argument, got 0") else none
  | "filter" =>
    if given < 2 then some ("TypeError", "filter expected 2 arguments, got " ++ count) else none
  | "map" =>
    if given < 2 then some ("TypeError", "map() must have at least two arguments.") else none
  | "type" =>
    if given = 3 then none
    else some ("TypeError", "type.__new__() takes exactly 3 arguments (" ++ count ++ " given)")
  | "BaseExceptionGroup" =>
    if given = 2 then none
    else some ("TypeError",
      "BaseExceptionGroup.__new__() takes exactly 2 arguments (" ++ count ++ " given)")
  | "partial" =>
    some ("TypeError",
      if given = 0 then "type 'partial' takes at least one argument"
      else "the first argument must be callable")
  | _ => none

/-- Why a known class does not set up a new object with arguments. -/
def refusedByInit? (className : String) (args : List Object) : Option (String × String) :=
  let given := args.length
  let exactly (n : Nat) : Option (String × String) :=
    some ("TypeError", "function takes exactly " ++ toString n ++ " arguments (" ++
      toString given ++ " given)")
  match className with
  | "UnicodeDecodeError" | "UnicodeEncodeError" => exactly 5
  | "UnicodeTranslateError" => exactly 4
  | "dict" =>
    match args.head?.bind textOf? with
    | some s =>
      if s = "" then none
      else some ("ValueError",
        "dictionary update sequence element #0 has length 1; 2 is required")
    | none => none
  | "bytearray" =>
    if given = 0 then none else some ("TypeError", "string argument without an encoding")
  | "classmethod" | "staticmethod" =>
    if given = 0 then some ("TypeError", className ++ " expected 1 argument, got 0") else none
  | "super" =>
    some (if given = 0 then ("RuntimeError", "super(): no arguments")
      else ("TypeError", "super() argument 1 must be a type, not str"))
  | "module" =>
    if given = 0 then some ("TypeError", "module() missing required argument 'name' (pos 1)")
    else none
  | _ => none

/-! ### Making and calling -/

abbrev Caller := Object → List Object → Except Raised Object

/-- The kind of problems whose way of being set up a class has. -/
def Class.problemInit? (c : Class) : Option ProblemKind :=
  (c.holder? "__init__").bind fun k => ProblemKind.all.find? fun kind => k.id == problemId kind

/-- Sets up a new object of the class `c` with the arguments it was made from. -/
def setUp (call : Caller) (c : Class) (args : List Object) : Except Raised Object := do
  let self := Object.objectOf c
  match c.declared? "__init__", c.problemInit? with
  | some _, some kind =>
    if kind.fits args.length then .ok self else .error (.misuse (kind.misfit args.length))
  | some init, none =>
    match ← call ((Object.bound? c self init).getD init) args with
    | .value .null => .ok self
    | result => .error (.ofObject (.initResult result.kindName))
  | none, _ =>
    match refusedByInit? (holderName c "__init__") args with
    | some (kind, detail) => .error (.ofObject (.refusedArguments kind detail))
    | none => .ok self

/-- Makes an object of a class. What a command file puts in the place of making
it is given back as it is, unless it is an object of that class. -/
def construct (call : Caller) (c : Class) (args : List Object) : Except Raised Object := do
  match c.declared? "__new__" with
  | some make =>
    match ← call (make.onClass c) (.cls c :: args) with
    | .objectOf k => if k.inherits c.id then setUp call k args else .ok (.objectOf k)
    | made => .ok made
  | none =>
    let maker := holderName c "__new__"
    if c.isKnown && c.name == "type" && args.length < 2 then
      match args with
      | o :: _ => .ok (.cls o.classOf)
      | [] => .error (.ofObject (.refusedArguments "TypeError" "type() takes 1 or 3 arguments"))
    else if maker == "object" && !args.isEmpty && holderName c "__init__" == "object" then
      .error (.ofObject (.takesNoArguments c.name))
    else
      match refusedByNew? maker args with
      | some (kind, detail) => .error (.ofObject (.refusedArguments kind detail))
      | none => setUp call c args

def Function.result (f : Function) : Object :=
  if f.isAsync then .other "coroutine" else .value .null

def callWithin : (depth : Nat) → Caller
  | 0, _, _ => .error .tooDeep
  | depth + 1, o, args =>
    match o with
    | .function f | .staticMethod f | .boundMethod f _ => .ok f.result
    | .callable => .ok (.value .null)
    | .cls c => construct (callWithin depth) c args
    | .objectOf c =>
      match (c.declared? "__call__").bind (Object.bound? c o) with
      | some call => callWithin depth call args
      | none => .error (.misuse (.notCallable o.kindName))
    | .pathMethod _ => .error .unfollowed
    | .other "Quitter" => .error (.thrown (knownClass "SystemExit") (args.head?.bind valueOf?))
    | o =>
      if (o.classOf.attribute? "__call__").isSome then .ok (.value .null)
      else .error (.misuse (.notCallable o.kindName))

def callDepth : Nat := 940

def call (o : Object) (args : List Object) : Except Raised Object := callWithin callDepth o args

/-- What a member that command files gave to the class of an object answers on
the object. -/
def askDeclared (c : Class) (name : String) (args : List Object) :
    Option (Except Raised Object) :=
  (c.declared? name).map fun member =>
    call ((Object.bound? c (.objectOf c) member).getD member) args

/-! ### Raising -/

def raisedBy (o : Object) (message : Option Value) : Raised :=
  match call o (message.toList.map Object.value) with
  | .error r => r
  | .ok (.objectOf c) =>
    if c.isError "BaseException" then .thrown c message else .ofObject .notAnError
  | .ok _ => .ofObject .notAnError

/-- The argument that an error keeps of those it was made from. A problem of the
program's own keeps what it says; one that is made from one argument names a class. -/
def keptMessage (c : Class) (message : Option Value) : Option Value :=
  if c.problemInit? = some .classNotFound then
    message.map fun v => .str (ProblemKind.absentClass v.display)
  else if c.isError "OSError" && (c.declared? "__init__").isSome then none
  else message

def knownText (c : Class) (message : Option Value) : String :=
  let kept := keptMessage c message
  let shown (default : String) : String := (kept.map Value.display).getD default
  match holderName c "__str__" with
  | "KeyError" => (kept.map Value.quoted).getD ""
  | "SyntaxError" => if (c.declared? "__init__").isSome then "None" else shown "None"
  | "UnicodeDecodeError" | "UnicodeEncodeError" | "UnicodeTranslateError" => ""
  | _ => shown ""

/-- The text that an object gives of itself, or what is wrong with it. -/
def textOrFault (fault : String → ObjectFault) (o : Object) : Except Raised String :=
  match textOf? o with
  | some s => .ok s
  | none => .error (.ofObject (fault o.kindName))

namespace Raised

def text : Raised → Except Raised String
  | thrown c message =>
    match askDeclared c "__str__" [] with
    | some answer => do textOrFault .shownAs (← answer)
    | none => .ok (knownText c message)
  | r => .ok r.detail

def formatted : Raised → Except Raised String
  | thrown c message =>
    match askDeclared c "__format__" [.value (.str "")] with
    | some answer => do textOrFault .formattedAs (← answer)
    | none => (thrown c message).text
  | r => .ok r.detail

def message (r : Raised) : String :=
  match r.text with
  | .ok s => s
  | .error _ => ""

/-- What the program is left with: nothing, unless an error that asks for it
was made with a message. -/
def exitMessage? : Raised → Option Value
  | thrown c message => if (c.declared? "__init__").isSome then none else message
  | _ => none

end Raised

/-! ### Objects as truth values and as lists -/

def truth (o : Object) : Except Raised Bool := do
  let c := o.classOf
  match o with
  | .value v => .ok v.isTruthy
  | _ =>
    match askDeclared c "__bool__" [], askDeclared c "__len__" [] with
    | some answer, _ =>
      match ← answer with
      | .value (.bool b) => .ok b
      | result => .error (.ofObject (.truthOf result.kindName))
    | none, some answer => do .error (.ofObject (.sizeOf (← answer).kindName))
    | none, none =>
      .ok ((c.attribute? "__bool__").isNone && (c.attribute? "__len__").isNone)

/-- Goes through an object that a call has given; those that can be gone through
hold nothing. -/
def goThrough (o : Object) : Except Raised Unit := do
  let c := o.classOf
  match c.declared? "__iter__", askDeclared c "__iter__" [] with
  | some (.value .null), _ => .error (.misuse (.notIterable o.kindName))
  | _, some answer => do .error (.ofObject (.notAnIterator (← answer).kindName))
  | _, none =>
    if (c.attribute? "__iter__").isSome then .ok ()
    else
      match askDeclared c "__getitem__" [.value (.int 0)] with
      | some answer => do .error (.misuse (.noAttribute (← answer).kindName "subcommand_name"))
      | none => .error (.misuse (.notIterable o.kindName))

end CommandManual.Script
