import CommandManual.Command.Descriptor
import CommandManual.Docs.Extract

/-!
Providers pair a command with the documentation of its subcommands. It comes
from a class, from a fixed list, or from an object that answers like a
provider. The functions of command files do nothing when they are called, so what
asking an object raises is an error of the interpreter, never a problem of the
program's own.
-/

namespace CommandManual

inductive Provider
  | ofClass (descriptor : Descriptor) (o : Script.Object)
  | fixed (descriptor : Descriptor) (docs : List MethodDoc)
  /-- An object that has the members of a provider. -/
  | object (o : Script.Object)

/-- What a provider answers when it is asked for its documentation. -/
inductive DocsAnswer
  | docs (docs : List MethodDoc)
  /-- An object that should hold the documentation. -/
  | object (o : Script.Object)

open Script in
/-- The attribute of an object, unless it has none of that name. -/
def Script.Memory.attribute? (memory : Memory) (o : Object) (name : String) :
    Except Raised (Option Object) :=
  match memory.attribute o name with
  | .ok found => .ok (some found)
  | .error e => if e.isMissingAttribute then .ok none else .error e

namespace Provider

/-- Whether an object can stand for a provider: it has a descriptor, and
something to ask for its documentation. -/
def answersLike (memory : Script.Memory) (o : Script.Object) : Except Script.Raised Bool := do
  match ← memory.attribute? o "descriptor", ← memory.attribute? o "method_docs" with
  | none, _ | _, none | _, some (.value .null) => .ok false
  | some _, some _ => .ok true

def kindName : Provider → String
  | ofClass .. => "ClassCommandProvider"
  | fixed .. => "StaticCommandProvider"
  | object o => o.className

def commandName (memory : Script.Memory) : Provider → Except Fault Value
  | ofClass d _ => .ok (.str d.commandName)
  | fixed d _ => .ok (.str d.commandName)
  | object o =>
    match memory.attributePath o ["descriptor", "command_name"] with
    | .ok (.value v) => .ok v
    | .ok _ => .ok .null
    | .error r => .error (.raised r)

def methodDocs (memory : Script.Memory) : Provider → Traced DocsAnswer
  | ofClass _ o => do return .docs (← (← Traced.ofExcept (memory.classFor o)).methodDocs)
  | fixed _ docs => return .docs docs
  | object o =>
    let answer := memory.attribute o "method_docs" >>= fun member => Script.call member []
    Traced.ofExcept ((answer.map DocsAnswer.object).mapError Fault.raised)

end Provider

/-- The documentation in an answer; an object that can be gone through holds none. -/
def DocsAnswer.list : DocsAnswer → Except Fault (List MethodDoc)
  | docs known => .ok known
  | object o => ((Script.goThrough o).map fun _ => []).mapError Fault.raised

def DocsAnswer.isEmpty : DocsAnswer → Except Fault Bool
  | docs known => .ok known.isEmpty
  | object o => ((Script.truth o).map not).mapError Fault.raised

end CommandManual
