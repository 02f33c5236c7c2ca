import CommandManual.ProblemKind
import CommandManual.Script.Errors

/-!
What the program itself offers to command files: the classes of its own problems,
which they may raise and inherit from, and the search path, which they may change.
-/

namespace CommandManual.Script

/-! ### The classes of problems -/

def problemId : ProblemKind → Nat
  | .general => firstFreeId + 1
  | .configuration => firstFreeId + 2
  | .classNotFound => firstFreeId + 3
  | .fileWrite => firstFreeId + 4

def firstOwnId : Nat := firstFreeId + 5

def problemMembers : List (String × Object) :=
  [("__module__", .value (.str "manify.core.exceptions")), ("__doc__", .other "str")]

def generalProblemClass : Class :=
  .mk (problemId .general) ProblemKind.general.name
    (problemMembers ++ [("__weakref__", .computed "getset_descriptor" "NoneType")])
    (knownClass "Exception").lineage

/-- The class of the problems of a kind. All but the general one are set up in a
way of their own. -/
def problemClass : ProblemKind → Class
  | .general => generalProblemClass
  | kind =>
    .mk (problemId kind) kind.name
      (problemMembers ++ [("__init__", .function { doc := .text "Initialize.".toList })])
      generalProblemClass.lineage

/-- The problem of the program's own that an error counts as. One that ends the
work on one command comes before one of the configuration. -/
def Raised.problem? : Raised → Option ProblemKind
  | thrown c _ =>
    [.classNotFound, .fileWrite, .configuration].find? fun kind => c.inherits (problemId kind)
  | _ => none

/-! ### The search path -/

/-- A change of the search path that a command file makes. An entry that is no text
is never searched and does not count as an entry. -/
inductive PathEdit
  | append (entry : String)
  | remove (entry : String)
deriving DecidableEq, Repr

def PathEdit.apply : PathEdit → List String → List String
  | append entry, path => path ++ [entry]
  | remove entry, path => path.erase entry

def pathMethods : List String :=
  ["append", "remove", "insert", "extend", "pop", "clear", "reverse", "sort", "__iadd__",
    "__imul__", "__setitem__", "__delitem__", "__init__"]

/-- What calling a method of the search path changes about it. Only the methods that
add or remove one entry are followed. -/
def pathEdit? (path : List String) (name : String) (argument : Option Value) :
    Except Raised (Option PathEdit) :=
  let refused (kind detail : String) : Except Raised (Option PathEdit) :=
    .error (.ofObject (.refusedArguments kind detail))
  match name, argument with
  | "append", some (.str entry) => .ok (some (.append entry))
  | "append", some _ => .ok none
  | "remove", some (.str entry) =>
    if path.contains entry then .ok (some (.remove entry))
    else refused "ValueError" "list.remove(x): x not in list"
  | "remove", some _ => refused "ValueError" "list.remove(x): x not in list"
  | "append", none | "remove", none =>
    refused "TypeError" ("list." ++ name ++ "() takes exactly one argument (0 given)")
  | _, _ => .error .unfollowed

/-! ### Modules -/

structure OfferedModule where
  members : List (String × Object)
  isPackage : Bool := false
  /-- Where it comes from, unless it belongs to the interpreter. -/
  file : Option String := some "<program>"

/-- The modules that the program offers, by their full names. Of the interpreter there is only
`sys`, and of it only the search path: files that import other modules of the interpreter, or
change what `sys` holds, are not described. -/
def offered? (name : String) : Option OfferedModule :=
  let problems := ProblemKind.all.map fun kind => (kind.name, Object.cls (problemClass kind))
  match name with
  | "sys" => some { members := [("path", .searchPath)], file := none }
  | "manify" | "manify.core" => some { members := problems, isPackage := true }
  | "manify.core.exceptions" => some { members := problems }
  | _ => none

end CommandManual.Script
