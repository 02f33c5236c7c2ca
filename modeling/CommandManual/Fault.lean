import CommandManual.Data.Fields
import CommandManual.Data.Json.Reader
import CommandManual.Files.Access
import CommandManual.Log.Level
import CommandManual.ProblemKind
import CommandManual.Script.Call
import CommandManual.Text.Template

/-!
Everything that can end an operation. Faults of the configuration end a whole
run; a class that is not found, or a page that cannot be written, only ends the
work on one command.
-/

namespace CommandManual

inductive Fault
  | configuration (component reason : String)
  | classNotFound (className : String) (reason : Option String)
  | fileWrite (path reason : String)
  | invalid (errors : List FieldError)
  | access (e : AccessError)
  | undecodable (e : Utf8.Error)
  | longInteger (digits : Nat)
  /-- An integer that is too long to be shown. -/
  | unshownInteger
  | tooDeep (nesting : Json.Nesting)
  /-- Settings that are nested too deep. -/
  | exhausted
  | raised (r : Script.Raised)
  /-- An error of a command file that counts as a problem of the program's own. -/
  | signalled (kind : ProblemKind) (r : Script.Raised)
  | misuse (m : Misuse)
  | level (e : Log.LevelError)
  | template (e : TemplateError)
  | markup (detail : String)
  /-- A part of a color that should be a number. -/
  | notANumber (part : String)
  /-- A value that is not one of the choices of an option. -/
  | notAChoice (v : Value) (choices : String)

namespace Fault

def message : Fault → String
  | configuration component reason =>
    "Configuration error in '" ++ component ++ "': " ++ reason
  | classNotFound className reason =>
    match reason with
    | some reason => if reason = "" then ProblemKind.absentClass className else reason
    | none => ProblemKind.absentClass className
  | fileWrite path reason => "Could not write file: " ++ path ++ " (" ++ reason ++ ")"
  | invalid errors =>
    String.intercalate ", " (errors.map fun e => e.location ++ " " ++ e.problem.code)
  | access e => e.message
  | undecodable e => e.message
  | longInteger digits => Json.longIntegerMessage digits
  | unshownInteger =>
    "Exceeds the limit (4300 digits) for integer string conversion; " ++
      "use sys.set_int_max_str_digits() to increase the limit"
  | tooDeep nesting => Json.Error.message [] (.tooDeep nesting)
  | exhausted => "maximum recursion depth exceeded"
  | raised r => r.message
  | signalled _ r => r.message
  | misuse m => m.message
  | level e => e.message
  | template e => e.message
  | markup detail => detail
  | notANumber part => "invalid literal for int() with base 10: " ++ Text.quoted part
  | notAChoice v choices => v.quoted ++ " is not a valid " ++ choices

/-- The fault that an error of a command file is to whoever called it. -/
def ofRaised (r : Script.Raised) : Fault :=
  match r.problem? with
  | some kind => signalled kind r
  | none => raised r

def endsOneCommand : Fault → Bool
  | classNotFound .. => true
  | fileWrite .. => true
  | signalled kind _ => kind == .classNotFound || kind == .fileWrite
  | _ => false

def isConfiguration : Fault → Bool
  | configuration .. => true
  | _ => false

/-- Whether a run ends with an explanation: for a fault of the configuration, and for an
error of a command file that counts as one. -/
def isExplained : Fault → Bool
  | configuration .. => true
  | signalled kind _ => kind == .configuration
  | _ => false

/-- The text of a fault that is shown to the user. An error of a command file words
itself, which can fail. -/
def worded : Fault → Except Fault String
  | signalled _ r => r.text.mapError raised
  | f => .ok f.message

end Fault

end CommandManual
