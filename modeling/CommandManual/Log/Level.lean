import CommandManual.Data.Value

/-!
Log levels. The known levels have names; any other number names a level of its
own.
-/

namespace CommandManual.Log

structure Level where
  name : String
  number : Nat
deriving DecidableEq, Repr

namespace Level

def trace : Level := ⟨"TRACE", 5⟩

def debug : Level := ⟨"DEBUG", 10⟩

def info : Level := ⟨"INFO", 20⟩

def success : Level := ⟨"SUCCESS", 25⟩

def warning : Level := ⟨"WARNING", 30⟩

def error : Level := ⟨"ERROR", 40⟩

def critical : Level := ⟨"CRITICAL", 50⟩

def known : List Level := [trace, debug, info, success, warning, error, critical]

def ofNumber (n : Nat) : Level := ⟨"Level " ++ toString n, n⟩

end Level

inductive LevelError
  | unknown (name : String)
  | negative (n : Int)
  | wrongKind (kind : String)
  /-- A record of another library whose level is no integer. -/
  | notInteger
deriving DecidableEq, Repr

namespace LevelError

def kindName : LevelError → String
  | wrongKind _ | notInteger => "TypeError"
  | _ => "ValueError"

def message : LevelError → String
  | unknown name => "Level '" ++ name ++ "' does not exist"
  | negative n => "Invalid level value, it should be a positive integer, not: " ++ toString n
  | wrongKind kind => "Invalid level, it should be an integer or a string, not: '" ++ kind ++ "'"
  | notInteger => "level must be an integer"

end LevelError

namespace Level

def ofName (name : String) : Except LevelError Level :=
  match known.find? fun l => l.name == name with
  | some l => .ok l
  | none => .error (.unknown name)

def ofInt (n : Int) : Except LevelError Level :=
  if n < 0 then .error (.negative n) else .ok (ofNumber n.toNat)

end Level

inductive LevelChoice
  | named (name : String)
  | numbered (n : Int)
  /-- Something that is neither a name nor a number. -/
  | other (kind : String)
deriving DecidableEq, Repr

namespace LevelChoice

def ofValue : Value → LevelChoice
  | .str name => named name
  | .int n => numbered n
  | .bool b => numbered (if b then 1 else 0)
  | v => other v.kindName

def resolve : LevelChoice → Except LevelError Level
  | named name => Level.ofName name
  | numbered n => Level.ofInt n
  | other kind => .error (.wrongKind kind)

end LevelChoice

end CommandManual.Log
