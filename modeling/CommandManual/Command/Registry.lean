import CommandManual.Command.Provider

/-!
The registry of commands: what is known under each command name. Commands that
installed packages advertise are taken in on the first request for a name that
is not known, or when they are asked for; they never replace what is there.
-/

namespace CommandManual

inductive Target
  | provider (p : Provider)
  /-- A class, or something that may answer like a provider. -/
  | object (o : Script.Object)

structure EntryPoint where
  name : String
  /-- Where the command is found, for messages. -/
  value : String
  group : String
  outcome : Except Script.Raised Target

structure Registry where
  targets : List (String × Target) := []
  /-- Whether the advertised commands were taken in since the last clearing. -/
  consulted : Bool := false

namespace Registry

def logger : String := "manify.docs.registry"

def defaultGroup : String := "manify.commands"

def has (r : Registry) (name : String) : Bool := (r.targets.lookup name).isSome

def register (r : Registry) (name : String) (target : Target) : Registry :=
  { r with targets := assign name target r.targets }

def unregister (r : Registry) (name : String) : Registry :=
  { r with targets := r.targets.filter fun (n, _) => n != name }

def names (r : Registry) : List String :=
  Text.sortNames (r.targets.map Prod.fst)

def clear (_ : Registry) : Registry := {}

/-- The registry after entry points were taken in, how many were, which ones
failed and how, and what stopped it early. -/
structure Intake where
  registry : Registry
  count : Nat := 0
  /-- The entry points that failed, with what is said about each. -/
  failures : List (EntryPoint × String) := []
  stopped : Option Script.Raised := none

/-- Takes in entry points in order. A known name is left alone, and so is an
entry point that fails in an ordinary way. The text of such a failure is made for the
log as by a sink that takes it, so that an error without a text ends the intake. -/
def takeIn : List EntryPoint → Intake → Intake
  | [], i => i
  | e :: rest, i =>
    if i.registry.has e.name then takeIn rest i
    else
      match e.outcome with
      | .ok target =>
        takeIn rest { i with registry := i.registry.register e.name target, count := i.count + 1 }
      | .error raised =>
        if !raised.isOrdinary then { i with stopped := some raised }
        else
          match raised.formatted with
          | .ok detail => takeIn rest { i with failures := i.failures ++ [(e, detail)] }
          | .error raised => { i with stopped := some raised }

def loadEntryPoints (r : Registry) (entries : List EntryPoint) : Intake :=
  takeIn entries { registry := { r with consulted := true } }

/-- Looks up a name; on the first miss the entry points are taken in. -/
def get (r : Registry) (entries : List EntryPoint) (name : String) :
    Option Target × Option Intake :=
  if !r.has name && !r.consulted then
    let i := r.loadEntryPoints entries
    (i.registry.targets.lookup name, some i)
  else (r.targets.lookup name, none)

def noteFailures : List (EntryPoint × String) → Traced Unit
  | [] => return ()
  | (e, detail) :: rest => do
    Traced.note logger .warning
      ("Failed to load command entry point " ++ e.name ++ " (" ++ e.value ++ "): " ++ detail)
      [("name", .str e.name), ("value", .str e.value), ("error", .str detail)]
    noteFailures rest

end Registry

end CommandManual
