import CommandManual.Data.Misuse
import CommandManual.Script.Compiled
import CommandManual.Script.Known
import CommandManual.Text.Quoted

/-!
What can go wrong while a command file is carried out, and the class of errors
that each cause belongs to.
-/

namespace CommandManual.Script

inductive ClassFault
  /-- A base that is no class; its kind decides what is said. -/
  | unusableBase (kind : String)
  /-- Bases that belong to different kinds of classes. -/
  | conflictingKinds
  | finalBase (name : String)
  /-- Bases whose objects cannot be one object. -/
  | conflictingLayouts
  | slotsOnUnsized (baseName : String)
  | slotNotText (kind : String)
  | slotNotName
  /-- A slot that the objects have anyway. -/
  | slotRepeated (name : String)
  | slotIsMember (name : String)
  | nameNotText (kind : String)
  | duplicateBase (name : String)
  | inconsistentBases (names : List String)
deriving DecidableEq, Repr

namespace ClassFault

/-- What the kind of an object that is no class says when it is used as a base. -/
def baseMessage : String → String
  | "int" => "int() takes at most 2 arguments (3 given)"
  | "module" => "module() takes at most 2 arguments (3 given)"
  | "mappingproxy" => "mappingproxy() takes at most 1 argument (3 given)"
  | "str" => "str() argument 'encoding' must be str, not tuple"
  | "bytes" => "bytes() argument 'encoding' must be str, not tuple"
  | "function" => "function() argument 'code' must be code, not str"
  | "functools.partial" => "the first argument must be callable"
  | "NoneType" => "NoneType takes no arguments"
  | "NotImplementedType" => "NotImplementedType takes no arguments"
  | "ellipsis" => "EllipsisType takes no arguments"
  | "staticmethod" => "staticmethod expected 1 argument, got 3"
  | "classmethod" => "classmethod expected 1 argument, got 3"
  | "method" => "method expected 2 arguments, got 3"
  | "code" => "code expected at least 16 arguments, got 3"
  | "ModuleSpec" => "ModuleSpec.__init__() takes 3 positional arguments but 4 were given"
  | "SourceFileLoader" => "FileLoader.__init__() takes 3 positional arguments but 4 were given"
  | kind =>
    if uncreatable.contains kind then "cannot create '" ++ kind ++ "' instances"
    else kind ++ " expected at most 1 argument, got 3"
where
  /-- Kinds whose objects only arise by themselves. -/
  uncreatable : List String :=
    ["getset_descriptor", "wrapper_descriptor", "method_descriptor", "classmethod_descriptor",
      "method-wrapper", "builtin_function_or_method", "member_descriptor"]

def kindName : ClassFault → String
  | slotIsMember _ => "ValueError"
  | _ => "TypeError"

def message : ClassFault → String
  | unusableBase kind => baseMessage kind
  | conflictingKinds =>
    "metaclass conflict: the metaclass of a derived class must be a (non-strict) " ++
      "subclass of the metaclasses of all its bases"
  | finalBase name => "type '" ++ name ++ "' is not an acceptable base type"
  | conflictingLayouts => "multiple bases have instance lay-out conflict"
  | slotsOnUnsized baseName =>
    "nonempty __slots__ not supported for subtype of '" ++ baseName ++ "'"
  | slotNotText kind => "__slots__ items must be strings, not '" ++ kind ++ "'"
  | slotNotName => "__slots__ must be identifiers"
  | slotRepeated name => name ++ " slot disallowed: we already got one"
  | slotIsMember name => Text.quoted name ++ " in __slots__ conflicts with class variable"
  | nameNotText kind => "type __qualname__ must be a str, not " ++ kind
  | duplicateBase name => "duplicate base class " ++ name
  | inconsistentBases names =>
    "Cannot create a consistent method resolution\norder (MRO) for bases " ++
      String.intercalate ", " names

end ClassFault

/-- Why an object cannot be made, or does not answer as it should. -/
inductive ObjectFault
  | takesNoArguments (className : String)
  /-- Arguments that a known class refuses, with the class of the error. -/
  | refusedArguments (errorKind detail : String)
  /-- Something that is given back where nothing may be. -/
  | initResult (kind : String)
  | shownAs (kind : String)
  | formattedAs (kind : String)
  | truthOf (kind : String)
  | sizeOf (kind : String)
  | notAnIterator (kind : String)
  /-- Something raised that is no error. -/
  | notAnError
deriving DecidableEq, Repr

namespace ObjectFault

def kindName : ObjectFault → String
  | refusedArguments errorKind _ => errorKind
  | _ => "TypeError"

def message : ObjectFault → String
  | takesNoArguments className => className ++ "() takes no arguments"
  | refusedArguments _ detail => detail
  | initResult kind => "__init__() should return None, not '" ++ kind ++ "'"
  | shownAs kind => "__str__ returned non-string (type " ++ kind ++ ")"
  | formattedAs kind => "__format__ must return a str, not " ++ kind
  | truthOf kind => "__bool__ should return bool, returned " ++ kind
  | sizeOf kind => "'" ++ kind ++ "' object cannot be interpreted as an integer"
  | notAnIterator kind => "iter() returned non-iterator of type '" ++ kind ++ "'"
  | notAnError => "exceptions must derive from BaseException"

end ObjectFault

inductive ImportFault
  | noModule (name : String)
  | notPackage (name parent : String)
  | noName (name moduleName : String) (file : Option String) (partly : Bool)
  /-- A relative name in a file that is in no package. -/
  | noParent
  /-- A relative name with too many dots. -/
  | beyondTop
deriving DecidableEq, Repr

namespace ImportFault

def kindName : ImportFault → String
  | noModule _ | notPackage .. => "ModuleNotFoundError"
  | _ => "ImportError"

def message : ImportFault → String
  | noModule name => "No module named " ++ Text.quoted name
  | notPackage name parent =>
    "No module named " ++ Text.quoted name ++ "; " ++ Text.quoted parent ++ " is not a package"
  | noName name moduleName file partly =>
    let source :=
      if file.isSome && partly then
        "partially initialized module " ++ Text.quoted moduleName ++
          " (most likely due to a circular import)"
      else Text.quoted moduleName
    "cannot import name " ++ Text.quoted name ++ " from " ++ source ++
      " (" ++ file.getD "unknown location" ++ ")"
  | noParent => "attempted relative import with no known parent package"
  | beyondTop => "attempted relative import beyond top-level package"

end ImportFault

inductive Raised
  | undefinedName (name : String)
  | misuse (m : Misuse)
  | noClassAttribute (className member : String)
  | noModuleAttribute (moduleName : Option String) (member : String) (partly : Bool)
  /-- A submodule that is still being carried out. -/
  | unfinishedSubmodule (moduleName member : String)
  | ofClass (f : ClassFault)
  | ofObject (f : ObjectFault)
  | ofImport (f : ImportFault)
  | ofCompiled (f : CompiledFault)
  | malformedFile (fileName : String)
  /-- A package that is no longer known, but one of its parts is. -/
  | lostPackage (name : String)
  | emptyModuleName
  | relativeModule (name : String)
  | packageNotText
  | tooDeep
  /-- A command file that is not given by its items. -/
  | undescribed (file : String)
  /-- A change of the search path that is not followed: only what a command file does
  to it by itself is, one entry at a time. -/
  | unfollowed
  /-- An error that a command file raises by itself. -/
  | thrown (c : Class) (message : Option Value)

namespace Raised

def kindName : Raised → String
  | undefinedName _ => "NameError"
  | misuse m => m.kindName
  | noClassAttribute .. | noModuleAttribute .. | unfinishedSubmodule .. => "AttributeError"
  | ofClass f => f.kindName
  | ofObject f => f.kindName
  | ofImport f => f.kindName
  | ofCompiled f => f.kindName
  | malformedFile _ => "SyntaxError"
  | lostPackage _ => "KeyError"
  | emptyModuleName => "ValueError"
  | relativeModule _ | packageNotText => "TypeError"
  | tooDeep => "RecursionError"
  | undescribed _ | unfollowed => "NotImplementedError"
  | thrown c _ => c.name

/-- What is said about it, unless a command file has worded it. -/
def detail : Raised → String
  | undefinedName name => "name '" ++ name ++ "' is not defined"
  | misuse m => m.message
  | noClassAttribute className member =>
    "type object '" ++ className ++ "' has no attribute '" ++ member ++ "'"
  | noModuleAttribute moduleName member partly =>
    match moduleName with
    | none => "module has no attribute '" ++ member ++ "'"
    | some moduleName =>
      if partly then
        "partially initialized module '" ++ moduleName ++ "' has no attribute '" ++
          member ++ "' (most likely due to a circular import)"
      else "module '" ++ moduleName ++ "' has no attribute '" ++ member ++ "'"
  | unfinishedSubmodule moduleName member =>
    "cannot access submodule '" ++ member ++ "' of module '" ++ moduleName ++
      "' (most likely due to a circular import)"
  | ofClass f => f.message
  | ofObject f => f.message
  | ofImport f => f.message
  | ofCompiled f => f.message
  | malformedFile fileName => "invalid syntax (" ++ fileName ++ ", line 1)"
  | lostPackage name => Text.quoted name
  | emptyModuleName => "Empty module name"
  | relativeModule name =>
    "the 'package' argument is required to perform a relative import for " ++ Text.quoted name
  | packageNotText => "package must be a string"
  | tooDeep => "maximum recursion depth exceeded"
  | undescribed file => "the items of " ++ file ++ " are not given"
  | unfollowed => "this change of the search path is not followed"
  | thrown _ message => (message.map Value.display).getD ""

/-- Whether it is an error of the usual kind, and no request to leave the program. -/
def isOrdinary : Raised → Bool
  | thrown c _ => c.isError "Exception"
  | _ => true

def isImport : Raised → Bool
  | ofImport _ => true
  | ofCompiled f => f.kindName == "ImportError"
  | thrown c _ => c.isError "ImportError"
  | _ => false

def isMissingAttribute : Raised → Bool
  | thrown c _ => c.isError "AttributeError"
  | r => r.kindName == "AttributeError"

end Raised

end CommandManual.Script
