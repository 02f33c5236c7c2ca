import CommandManual.Fault
import CommandManual.ProblemKind

/-!
Problems that are made by hand, from values of any kind: what is said, and the
values that are kept beside it.
-/

namespace CommandManual

structure Problem where
  message : String
  details : List (String × Value) := []
deriving Repr

namespace Problem

/-- What is said by some values: one speaks for itself, several stand in
parentheses. -/
def saying : List Value → String
  | [] => ""
  | [v] => v.display
  | vs => "(" ++ String.intercalate ", " (vs.map Value.quoted) ++ ")"

def configuration (component reason : Value) : Problem where
  message := (Fault.configuration component.display reason.display).message
  details := [("component", component), ("reason", reason)]

/-- A reason that does not count as given is kept, and the usual text is used. -/
def classNotFound (className reason : Value) : Problem where
  message :=
    (Fault.classNotFound className.display
      (if reason.isTruthy then some reason.display else none)).message
  details := [("class_name", className), ("reason", reason)]

def fileWrite (path : String) (reason : Value) : Problem where
  message := (Fault.fileWrite path reason.display).message
  details := [("path", .str (Path.ofString path).toString), ("reason", reason)]

def make (kind : ProblemKind) (args : List Value) : Except Fault Problem :=
  match kind, args with
  | .general, args => .ok { message := saying args }
  | .configuration, [component, reason] => .ok (configuration component reason)
  | .classNotFound, [className] => .ok (classNotFound className .null)
  | .classNotFound, [className, reason] => .ok (classNotFound className reason)
  | .fileWrite, [.str path, reason] => .ok (fileWrite path reason)
  | .fileWrite, [path, _] => .error (.misuse (.notPath path.kindName))
  | kind, args => .error (.misuse (kind.misfit args.length))

end Problem

end CommandManual
