import CommandManual.Log.Level
import CommandManual.Text.Template

/-!
Log records: a message with its level, where it comes from, and named values
beside it.
-/

namespace CommandManual.Log

structure Record where
  level : Level
  /-- The name of the place that logged, for records that name no module. -/
  source : String
  message : String
  extra : List (String × Value)
deriving Repr

namespace Record

def module? (r : Record) : Option Value := r.extra.lookup "module"

end Record

/-- The values beside a message: those of the logger, then those of the call. -/
def withValues (bound values : List (String × Value)) : List (String × Value) :=
  values.foldl (fun extra (k, v) => assign k v extra) bound

/-- The text of a message. With values a message is a template that they fill in;
without values it is taken as it is. -/
def messageText (message : Value) (values : List (String × Value)) :
    Except TemplateError String :=
  if values.isEmpty then .ok message.display
  else
    match message with
    | .str s => Template.fill s (values.map fun (k, v) => (k, .value v))
    | v => .error (.misuse (.noAttribute v.kindName "format"))

def Record.named (loggerName : String) (level : Level) (text : String)
    (values : List (String × Value)) : Record where
  level
  source := loggerName
  message := text
  extra := withValues [("module", .str loggerName)] values

def Record.make (loggerName : String) (level : Level) (message : Value)
    (values : List (String × Value)) : Except TemplateError Record := do
  .ok (.named loggerName level (← messageText message values) values)

end CommandManual.Log
