import CommandManual.Data.Misuse

/-!
The kinds of problems that the program has names for, and the arguments that a
problem of each kind is made from.
-/

namespace CommandManual

inductive ProblemKind
  /-- Any problem, with whatever is said about it. -/
  | general
  | configuration
  | classNotFound
  | fileWrite
deriving DecidableEq, Repr

namespace ProblemKind

def all : List ProblemKind := [general, configuration, classNotFound, fileWrite]

def name : ProblemKind → String
  | general => "ManifyError"
  | configuration => "ConfigurationError"
  | classNotFound => "ClassNotFoundError"
  | fileWrite => "FileWriteError"

def required : ProblemKind → List String
  | general => []
  | configuration => ["component", "reason"]
  | classNotFound => ["class_name"]
  | fileWrite => ["path", "reason"]

def misfit (kind : ProblemKind) (given : Nat) : Misuse :=
  .argumentCount kind.name kind.required 2 given

def fits : ProblemKind → Nat → Bool
  | general, _ => true
  | kind, given => kind.required.length ≤ given && given ≤ 2

/-- What is said about a class of some name that is not found. -/
def absentClass (name : String) : String := "Class not found: " ++ name

end ProblemKind

end CommandManual
