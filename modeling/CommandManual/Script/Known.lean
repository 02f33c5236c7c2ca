import CommandManual.Script.KnownTable
import CommandManual.Script.Object
import CommandManual.Text.Basic

/-!
The classes that every command file knows by name or comes to know through its
objects. Their place in the hierarchy is given here; their members are read from
a table, and only when something is looked up in them.
-/

namespace CommandManual.Script

/-- The known error classes with the class each one inherits from, which stands
before it. -/
def errorParents : List (String × String) :=
  [("BaseException", "object"), ("Exception", "BaseException"),
    ("ArithmeticError", "Exception"), ("AssertionError", "Exception"),
    ("AttributeError", "Exception"), ("BaseExceptionGroup", "BaseException"),
    ("OSError", "Exception"), ("BlockingIOError", "OSError"), ("ConnectionError", "OSError"),
    ("BrokenPipeError", "ConnectionError"), ("BufferError", "Exception"),
    ("Warning", "Exception"), ("BytesWarning", "Warning"), ("ChildProcessError", "OSError"),
    ("ConnectionAbortedError", "ConnectionError"),
    ("ConnectionRefusedError", "ConnectionError"), ("ConnectionResetError", "ConnectionError"),
    ("DeprecationWarning", "Warning"), ("EOFError", "Exception"),
    ("EncodingWarning", "Warning"), ("ExceptionGroup", "BaseExceptionGroup"),
    ("FileExistsError", "OSError"), ("FileNotFoundError", "OSError"),
    ("FloatingPointError", "ArithmeticError"), ("FutureWarning", "Warning"),
    ("GeneratorExit", "BaseException"), ("ImportError", "Exception"),
    ("ImportWarning", "Warning"), ("SyntaxError", "Exception"),
    ("IndentationError", "SyntaxError"), ("LookupError", "Exception"),
    ("IndexError", "LookupError"), ("InterruptedError", "OSError"),
    ("IsADirectoryError", "OSError"), ("KeyError", "LookupError"),
    ("KeyboardInterrupt", "BaseException"), ("MemoryError", "Exception"),
    ("ModuleNotFoundError", "ImportError"), ("NameError", "Exception"),
    ("NotADirectoryError", "OSError"), ("RuntimeError", "Exception"),
    ("NotImplementedError", "RuntimeError"), ("OverflowError", "ArithmeticError"),
    ("PendingDeprecationWarning", "Warning"), ("PermissionError", "OSError"),
    ("ProcessLookupError", "OSError"), ("RecursionError", "RuntimeError"),
    ("ReferenceError", "Exception"), ("ResourceWarning", "Warning"),
    ("RuntimeWarning", "Warning"), ("StopAsyncIteration", "Exception"),
    ("StopIteration", "Exception"), ("SyntaxWarning", "Warning"), ("SystemError", "Exception"),
    ("SystemExit", "BaseException"), ("TabError", "IndentationError"),
    ("TimeoutError", "OSError"), ("TypeError", "Exception"), ("UnboundLocalError", "NameError"),
    ("ValueError", "Exception"), ("UnicodeError", "ValueError"),
    ("UnicodeDecodeError", "UnicodeError"), ("UnicodeEncodeError", "UnicodeError"),
    ("UnicodeTranslateError", "UnicodeError"), ("UnicodeWarning", "Warning"),
    ("UserWarning", "Warning"), ("ZeroDivisionError", "ArithmeticError")]

/-- The other known classes with the class each one inherits from. -/
def kindParents : List (String × String) :=
  [("int", "object"), ("bool", "int"), ("memoryview", "object"), ("bytearray", "object"),
    ("bytes", "object"), ("classmethod", "object"), ("complex", "object"), ("dict", "object"),
    ("enumerate", "object"), ("filter", "object"), ("float", "object"), ("frozenset", "object"),
    ("property", "object"), ("list", "object"), ("map", "object"), ("range", "object"),
    ("reversed", "object"), ("set", "object"), ("slice", "object"), ("staticmethod", "object"),
    ("str", "object"), ("super", "object"), ("tuple", "object"), ("type", "object"),
    ("zip", "object"), ("NoneType", "object"), ("function", "object"), ("method", "object"),
    ("partial", "object"), ("module", "object"), ("getset_descriptor", "object"),
    ("wrapper_descriptor", "object"), ("method_descriptor", "object"),
    ("classmethod_descriptor", "object"), ("method-wrapper", "object"),
    ("builtin_function_or_method", "object"), ("member_descriptor", "object"),
    ("mappingproxy", "object"), ("ModuleSpec", "object"), ("_LoaderBasics", "object"),
    ("SourceLoader", "_LoaderBasics"), ("FileLoader", "SourceLoader"),
    ("SourceFileLoader", "FileLoader"), ("code", "object"), ("ellipsis", "object"),
    ("NotImplementedType", "object")]

def secondParents : List (String × String) := [("ExceptionGroup", "Exception")]

def errorAliases : List (String × String) :=
  [("EnvironmentError", "OSError"), ("IOError", "OSError")]

def knownParents : List (String × String) := errorParents ++ kindParents

def firstFreeId : Nat := knownParents.length + 1

def finalKinds : List String :=
  ["bool", "memoryview", "range", "slice", "NoneType", "function", "method",
    "getset_descriptor", "wrapper_descriptor", "method_descriptor", "classmethod_descriptor",
    "method-wrapper", "builtin_function_or_method", "member_descriptor", "mappingproxy", "code",
    "ellipsis", "NotImplementedType"]

/-- Known classes whose objects hold more than those of the class they inherit
from, so that a class cannot inherit from two of them in different lines. -/
def solidKinds : List String :=
  ["int", "bytearray", "bytes", "classmethod", "complex", "dict", "enumerate", "filter",
    "float", "frozenset", "property", "list", "map", "reversed", "set", "staticmethod", "str",
    "super", "tuple", "type", "zip", "BaseException", "BaseExceptionGroup", "SystemExit",
    "AttributeError", "ImportError", "NameError", "OSError", "StopIteration", "SyntaxError",
    "UnicodeDecodeError", "UnicodeEncodeError", "UnicodeTranslateError", "partial", "module"]

def unsizedKinds : List String := ["int", "bool", "bytes", "tuple", "type"]

/-! ### Members -/

/-- An entry of the table: a name, and after an equals sign a kind. -/
def tableEntry (t : Text) : String × String :=
  let name := t.takeWhile (· != '=')
  (String.ofList name, String.ofList (t.drop (name.length + 1)))

def kindOfLetter : Char → String
  | 'w' => "wrapper_descriptor"
  | 'm' => "method_descriptor"
  | 'b' => "builtin_function_or_method"
  | 'c' => "classmethod_descriptor"
  | 'g' => "getset_descriptor"
  | 'd' => "member_descriptor"
  | _ => "property"

/-- What texts and bytes say about the tables that replace their characters. -/
def maketransDoc (className : String) : DocValue :=
  if className = "str" then
    .text ("Return a translation table usable for str.translate().\n\n" ++
      "If there is only one argument, it must be a dictionary mapping Unicode\n" ++
      "ordinals (integers) or characters to Unicode ordinals, strings or None.\n" ++
      "Character keys will be then converted to ordinals.\n" ++
      "If there are two arguments, they must be strings of equal length, and\n" ++
      "in the resulting dictionary, each character in x will be mapped to the\n" ++
      "character at the same position in y. If there is a third argument, it\n" ++
      "must be a string, whose characters will be mapped to None in the result.").toList
  else
    .text ("Return a translation table useable for the bytes or bytearray translate method.\n\n" ++
      "The returned table will be one where each byte in frm is mapped to the byte at\n" ++
      "the same position in to.\n\n" ++
      "The bytes objects frm and to must be of the same length.").toList

def tableObject (className : String) (letter : Char) (kind : String) : Object :=
  match letter with
  | 'f' => .function ⟨.absent, false, false⟩
  | 's' => .staticMethod ⟨maketransDoc className, false, true⟩
  | 'k' => .classMethod ⟨.absent, false, false⟩
  | 'g' | 'd' | 'p' => .computed (kindOfLetter letter) kind
  | 'v' | 'i' => .ofKind kind
  | letter => .other (kindOfLetter letter)

def lineMembers (className : String) (line : Char × String) : List (String × Object) :=
  (Text.words line.2.toList).map fun w =>
    let (name, kind) := tableEntry w
    (name, tableObject className line.1 kind)

/-- The members of a known class in the lines with some letters. -/
def tableMembers (className : String) (chosen : Char → Bool) : List (String × Object) :=
  (((knownTable.lookup className).getD []).filter fun line => chosen line.1).flatMap
    (lineMembers className)

def knownMember? (className name : String) : Option Object :=
  (tableMembers className (· != 'i')).lookup name

def heldByKnown? (className name : String) : Option Object :=
  (tableMembers className (· == 'i')).lookup name

/-! ### Classes -/

def ownMethods (className : String) : List (String × Object) :=
  tableMembers className ['f', 's', 'k'].contains

/-- Builds the classes of a table whose parents come first; identities count up. -/
def buildKnown : (next : Nat) → (known : List (String × Class)) → List (String × String) →
    List (String × Class)
  | _, known, [] => known
  | next, known, (name, parent) :: rest =>
    let lineageOf (parent : String) : List Class :=
      ((known.lookup parent).map Class.lineage).getD [Class.object]
    let ancestors :=
      match secondParents.lookup name with
      | none => lineageOf parent
      | some second =>
        (lineageOf parent).filter (fun c => !(lineageOf second).any fun k => k.id == c.id) ++
          lineageOf second
    buildKnown (next + 1) (known ++ [(name, .mk next name (ownMethods name) ancestors)]) rest

def knownByName : List (String × Class) := buildKnown 1 [] knownParents

/-- The known class of a name; other names mean a class without members. -/
def knownClass (name : String) : Class :=
  if name = "object" then Class.object
  else (knownByName.lookup name).getD (.mk firstFreeId name [] [Class.object])

def Object.classOf : Object → Class
  | .objectOf c => c
  | o => knownClass o.className

namespace Class

def isKnown (c : Class) : Bool := c.id < firstFreeId

/-- Whether a class is, or inherits from, a known error class. -/
def isError (c : Class) (errorName : String) : Bool :=
  c.lineage.any fun k => k.name == errorName && k.isKnown

def member? (c : Class) (name : String) : Option Object :=
  match c.own.lookup name with
  | some o => some o
  | none => if c.isKnown then knownMember? c.name name else none

def attribute? (c : Class) (name : String) : Option Object :=
  c.lineage.findSome? fun k => k.member? name

/-- What command files have put under a name, before anything that is known. -/
def declared? (c : Class) (name : String) : Option Object :=
  match c.lineage.find? fun k => (k.member? name).isSome with
  | some k => if k.isKnown then none else k.own.lookup name
  | none => none

end Class

/-! ### Names -/

def nativeFunctions : List String :=
  ["__build_class__", "__import__", "abs", "all", "any", "ascii", "bin", "breakpoint",
    "callable", "chr", "compile", "delattr", "dir", "divmod", "eval", "exec", "format",
    "getattr", "globals", "hasattr", "hash", "hex", "id", "input", "isinstance", "issubclass",
    "iter", "aiter", "len", "locals", "max", "min", "next", "anext", "oct", "ord", "pow",
    "print", "repr", "round", "setattr", "sorted", "sum", "vars", "open"]

def builtin? (name : String) : Option Object :=
  if name == "object" then some (.cls Class.object)
  else
    match knownByName.lookup ((errorAliases.lookup name).getD name) with
    | some c => if hiddenKinds.contains name then none else some (.cls c)
    | none =>
      match name with
      | "None" => some (.value .null)
      | "True" | "__debug__" => some (.value (.bool true))
      | "False" => some (.value (.bool false))
      | "Ellipsis" => some (.other "ellipsis")
      | "NotImplemented" => some (.other "NotImplementedType")
      | "__name__" | "__doc__" | "__package__" => some (.other "str")
      | "__spec__" => some (.other "ModuleSpec")
      | "__loader__" => some (.other "type")
      | "exit" | "quit" => some (.other "Quitter")
      | name =>
        if nativeFunctions.contains name then some (.other "builtin_function_or_method") else none
where
  /-- Known classes that have no name in command files. -/
  hiddenKinds : List String := (kindParents.map Prod.fst).drop namedKinds
  namedKinds : Nat := 25

end CommandManual.Script
