import CommandManual.Fault
import CommandManual.Log.Record

/-!
Work that leaves log records behind, also when it ends in a fault.
-/

namespace CommandManual

abbrev Traced := ExceptT Fault (StateM (List Log.Record))

namespace Traced

def note (logger : String) (level : Log.Level) (message : String)
    (values : List (String × Value)) : Traced Unit :=
  modify fun records => records ++ [Log.Record.named logger level message values]

def ofExcept {α : Type} (x : Except Fault α) : Traced α := ExceptT.mk (pure x)

def outcome {α : Type} (x : Traced α) : Except Fault α × List Log.Record :=
  StateT.run (ExceptT.run x) []

def result {α : Type} (x : Traced α) : Except Fault α := x.outcome.1

end Traced

end CommandManual
