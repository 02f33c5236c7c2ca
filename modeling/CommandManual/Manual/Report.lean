import CommandManual.Data.Fields

/-!
What a run of the generator tells: how many commands it found, the pages it
wrote, and a warning for each command that it had to leave out.
-/

namespace CommandManual

structure Report where
  commandsFound : Int := 0
  generated : List Path := []
  warnings : List String := []
deriving DecidableEq, Repr

namespace Report

def generatedCount (r : Report) : Nat := r.generated.length

def succeeded (r : Report) : Bool := 0 < r.generatedCount

def ofFields (v : Value) : Checked Report :=
  ((Checked.ap (.ok Report.mk) (Field.withDefault Field.integer "commands_found" 0 v)).ap
    (Field.withDefault (Field.list Field.path) "generated" [] v)).ap
    (Field.withDefault (Field.list Field.text) "warnings" [] v)

end Report

end CommandManual
