import CommandManual.Data.TimePattern
import CommandManual.Script.Known
import CommandManual.Text.Format

/-!
What the fields of a template reach: values, the parts and members of values,
the classes that values belong to, and the time, which is laid out by a pattern.
-/

namespace CommandManual

inductive Reached
  | value (v : Value)
  | cls (c : Script.Class)
  | classes (cs : List Script.Class)
  /-- A class of containers together with what it may hold. -/
  | container (c : Script.Class) (part : Value)
  /-- A member that values of some kind have in common. -/
  | method (kind name : String)
  /-- The time that stands in the name of a file. -/
  | clock (t : Timestamp)
  /-- The point in time that such a time holds. -/
  | moment (t : Timestamp)

namespace Reached

def kindDoc : String → Option String
  | "int" =>
    some ("int([x]) -> integer\nint(x, base=10) -> integer\n\n" ++
      "Convert a number or string to an integer, or return 0 if no arguments\n" ++
      "are given.  If x is a number, return x.__int__().  For floating point\n" ++
      "numbers, this truncates towards zero.\n\n" ++
      "If x is not a number or if base is given, then x must be a string,\n" ++
      "bytes, or bytearray instance representing an integer literal in the\n" ++
      "given base.  The literal can be preceded by '+' or '-' and be surrounded\n" ++
      "by whitespace.  The base defaults to 10.  Valid bases are 0 and 2-36.\n" ++
      "Base 0 means to interpret the base from the string as an integer literal.\n" ++
      ">>> int('0b100', base=0)\n4")
  | "bool" =>
    some ("bool(x) -> bool\n\n" ++
      "Returns True when the argument x is true, False otherwise.\n" ++
      "The builtins True and False are the only two instances of the class bool.\n" ++
      "The class bool is a subclass of the class int, and cannot be subclassed.")
  | "float" => some "Convert a string or number to a floating point number, if possible."
  | "str" =>
    some ("str(object='') -> str\nstr(bytes_or_buffer[, encoding[, errors]]) -> str\n\n" ++
      "Create a new string object from the given object. If encoding or\n" ++
      "errors is specified, then the object must expose a data buffer\n" ++
      "that will be decoded using the given encoding and error handler.\n" ++
      "Otherwise, returns the result of object.__str__() (if defined)\nor repr(object).\n" ++
      "encoding defaults to sys.getdefaultencoding().\nerrors defaults to 'strict'.")
  | "list" =>
    some ("Built-in mutable sequence.\n\n" ++
      "If no argument is given, the constructor creates a new empty list.\n" ++
      "The argument must be an iterable if specified.")
  | "dict" =>
    some ("dict() -> new empty dictionary\n" ++
      "dict(mapping) -> new dictionary initialized from a mapping object's\n" ++
      "    (key, value) pairs\n" ++
      "dict(iterable) -> new dictionary initialized as if via:\n" ++
      "    d = \x7b\x7d\n    for k, v in iterable:\n        d[k] = v\n" ++
      "dict(**kwargs) -> new dictionary initialized with the name=value pairs\n" ++
      "    in the keyword argument list.  For example:  dict(one=1, two=2)")
  | "type" =>
    some ("type(object) -> the object's type\n" ++
      "type(name, bases, dict, **kwds) -> a new type")
  | "object" =>
    some ("The base class of the class hierarchy.\n\n" ++
      "When called, it accepts no arguments and returns a new featureless\n" ++
      "instance that has no instance attributes and cannot be given any.\n")
  | "tuple" =>
    some ("Built-in immutable sequence.\n\n" ++
      "If no argument is given, the constructor returns an empty tuple.\n" ++
      "If iterable is specified the tuple is initialized from iterable's items.\n\n" ++
      "If the argument is a tuple, the return value is the same object.")
  | _ => none

def docOf (kind : String) : Reached := .value ((kindDoc kind).map Value.str |>.getD .null)

def className (c : Script.Class) : String := "<class '" ++ c.name ++ "'>"

def kindName : Reached → String
  | value v => v.kindName
  | cls _ => "type"
  | classes _ => "tuple"
  | container .. => "types.GenericAlias"
  | method kind _ => kind
  | clock _ => "FileDateFormatter"
  | moment _ => "datetime"

def quoted : Reached → String
  | value v => v.quoted
  | cls c => className c
  | classes [c] => "(" ++ className c ++ ",)"
  | classes cs => "(" ++ String.intercalate ", " (cs.map className) ++ ")"
  | container c part => c.name ++ "[" ++ part.quoted ++ "]"
  | method kind name => "<" ++ kind ++ " " ++ name ++ ">"
  | clock _ => "<FileDateFormatter>"
  | moment t => t.constructorForm

def display : Reached → String
  | value v => v.display
  | moment t => t.iso
  | found => found.quoted

/-- The pattern of a time in the name of a file that is given without one. -/
def clockPattern : Text := "%Y-%m-%d_%H-%M-%S_%f".toList

def formatTime (t : Timestamp) (pattern : Text) : Except TemplateError Text :=
  (t.laidOut? pattern).elim
    (.error (.malformed
      ("Invalid time format: the provided format string contains more than six successive 'S' " ++
        "characters. This may be due to an attempt to use nanosecond precision, which is not " ++
        "supported.")))
    .ok

def format (found : Reached) (spec : Text) : Except TemplateError Text :=
  match found with
  | value v => v.format spec
  | clock t => formatTime t (if spec.isEmpty then clockPattern else spec)
  | moment t => formatTime t spec
  | found =>
    if spec.isEmpty then .ok found.display.toList
    else
      .error (.wrongKind
        ("unsupported format string passed to " ++ found.kindName ++ ".__format__"))

def shared? (c : Script.Class) (name : String) : Option Reached :=
  (c.attribute? name).bind fun o =>
    (Script.Object.bound? c (.other c.name) o).map fun o => method o.kindName name

def ofValue? (v : Value) (name : String) : Option Reached :=
  let number (n : Int) : Option Reached := some (.value (.int n))
  match v, name with
  | .int n, "real" | .int n, "numerator" => number n
  | .bool b, "real" | .bool b, "numerator" => number (if b then 1 else 0)
  | .int _, "imag" | .bool _, "imag" => number 0
  | .int _, "denominator" | .bool _, "denominator" => number 1
  | .float x, "real" => some (.value (.float x))
  | .float _, "imag" => some (.value (.float (.finite false 0 0)))
  | v, "__class__" => some (.cls (Script.knownClass v.kindName))
  | v, "__doc__" => some (docOf v.kindName)
  | v, name => shared? (Script.knownClass v.kindName) name

def ofClass? (c : Script.Class) (name : String) : Option Reached :=
  match name with
  | "__name__" | "__qualname__" => some (.value (.str c.name))
  | "__module__" => some (.value (.str "builtins"))
  | "__class__" => some (.cls (Script.knownClass "type"))
  | "__base__" => some ((c.ancestors.head?.map Reached.cls).getD (.value .null))
  | "__bases__" => some (.classes (c.ancestors.take 1))
  | "__mro__" => some (.classes c.lineage)
  | "__doc__" => some (docOf c.name)
  | "__annotations__" | "__abstractmethods__" => none
  | name =>
    match c.attribute? name with
    | some o => some (.method (o.onClass c).kindName name)
    | none => shared? (Script.knownClass "type") name

def member (found : Reached) (name : String) : Except TemplateError Reached :=
  let missing := TemplateError.misuse (.noAttribute found.kindName name)
  match found with
  | value v => (ofValue? v name).elim (.error missing) .ok
  | cls c => (ofClass? c name).elim (.error (.noClassMember c.name name)) .ok
  | found =>
    let c := Script.knownClass found.kindName
    match name, found with
    | "__class__", _ => .ok (.cls c)
    | "__name__", method _ own => .ok (.value (.str own))
    | "__doc__", classes _ => .ok (docOf "tuple")
    | "__doc__", clock _ => .ok (.value .null)
    | "datetime", clock t => .ok (.moment t)
    | name, _ => (shared? c name).elim (.error missing) .ok

def withoutParts (found : Reached) (key : Value) : Except TemplateError Reached :=
  match found with
  | cls c =>
    if ["list", "dict", "tuple", "type"].contains c.name then .ok (.container c key)
    else .error (.wrongKind ("type '" ++ c.name ++ "' is not subscriptable"))
  | found => .error (.wrongKind ("'" ++ found.kindName ++ "' object is not subscriptable"))

def atIndex (found : Reached) (n : Nat) : Except TemplateError Reached :=
  match found with
  | value (.list items) =>
    items[n]?.elim (.error (.noIndex "list index out of range")) fun v => .ok (.value v)
  | value (.str s) =>
    s.toList[n]?.elim (.error (.noIndex "string index out of range")) fun c =>
      .ok (.value (.str (String.ofList [c])))
  | value (.table _) => .error (.noKey (toString n))
  | classes cs =>
    cs[n]?.elim (.error (.noIndex "tuple index out of range")) fun c => .ok (.cls c)
  | found => found.withoutParts (.int n)

def atKey (found : Reached) (key : String) : Except TemplateError Reached :=
  match found with
  | value (.table fields) =>
    (fields.lookup key).elim (.error (.noKey (Text.quoted key))) fun v => .ok (.value v)
  | value (.list _) => .error (.wrongKind "list indices must be integers or slices, not str")
  | value (.str _) => .error (.wrongKind "string indices must be integers, not 'str'")
  | classes _ => .error (.wrongKind "tuple indices must be integers or slices, not str")
  | found => found.withoutParts (.str key)

end Reached

end CommandManual
