import CommandManual.Docs.MethodDoc
import CommandManual.Log.Trace
import CommandManual.Script.Attribute

/-!
The documentation of a class: the documentation of each public method that has
some, in the order of the methods.
-/

namespace CommandManual

namespace Script

def extractorLogger : String := "manify.docs.extractors"

def Function.methodDoc? (f : Function) (name : String) : Except Fault (Option MethodDoc) :=
  match f.doc with
  | .absent => .ok none
  | .text t => .ok (MethodDoc.ofDocblock? name.toList t)
  | .other kind => .error (.misuse (.noAttribute kind "expandtabs"))

def collectDocs (className : String) : List (String × Function) → Traced (List MethodDoc)
  | [] => return []
  | (name, f) :: rest => do
    match ← Traced.ofExcept (f.methodDoc? name) with
    | some doc =>
      let docs ← collectDocs className rest
      return doc :: docs
    | none =>
      Traced.note extractorLogger .debug
        ("Skipping undocumented method " ++ className ++ "." ++ name)
        [("cls", .str className), ("name", .str name)]
      collectDocs className rest

def Class.methodDocs (c : Class) : Traced (List MethodDoc) :=
  collectDocs c.name c.publicMethods

/-- The class that an object has to be for its methods to be known. -/
def Memory.classFor (memory : Memory) (o : Object) : Except Fault Class :=
  match o with
  | .cls c => .ok c
  | o =>
    match memory.attribute o "__mro__" with
    | .error r => .error (.raised r)
    | .ok found => .error (.misuse (.notIterable found.kindName))

end Script

end CommandManual
