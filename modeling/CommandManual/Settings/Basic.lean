import CommandManual.Fault
import CommandManual.Text.Casing

/-!
The settings of the program, and how they are read from a table. A value of any
kind stands for its text where a text is wanted; level names are brought to
upper case and format names to lower case.
-/

namespace CommandManual

structure LogSettings where
  level : String := "WARNING"
  format : String := "structured"
  /-- The file that receives the log as well. -/
  outputFile : Option String := none
deriving DecidableEq, Repr

structure Settings where
  /-- The directory that receives the pages. -/
  destination : String := "docs/"
  /-- The directory of the project. -/
  source : String := "."
  manifestName : String := "composer.json"
  /-- The first word of every heading. -/
  headingLead : String := "wp"
  /-- Whether the manifests of plugins are read. -/
  scanPlugins : Bool := true
  logging : LogSettings := {}
deriving DecidableEq, Repr

namespace Settings

def keys : List String :=
  ["destination", "source", "manifest_name", "heading_prefix", "scan_plugins", "logging"]

def levels : List String := ["TRACE", "DEBUG", "INFO", "WARNING", "ERROR", "CRITICAL"]

def formats : List String := ["console", "json", "structured", "rich"]

def trueWords : List String := ["true", "1", "yes", "on", "enabled"]

def falseWords : List String := ["false", "0", "no", "off", "disabled"]

def upper (s : String) : String := String.ofList (Text.toUpper s.toList)

def lower (s : String) : String := String.ofList (Text.toLower s.toList)

/-- The text that a value stands for; integers that are too long have none. -/
def textOf (v : Value) : Except Fault String :=
  if v.hasLongInteger then .error .unshownInteger else .ok v.display

def readBool (name : String) (v : Value) : Except Fault Bool := do
  match v with
  | .bool b => .ok b
  | v =>
    let word := String.ofList (Text.trim (Text.toLower (← textOf v).toList))
    if trueWords.contains word then .ok true
    else if falseWords.contains word then .ok false
    else .error (.configuration name ("invalid boolean value " ++ v.quoted))

def logSettings (level format : Value) (outputFile : Option Value) :
    Except Fault LogSettings := do
  let level := upper (← textOf level)
  if !levels.contains level then
    throw (.configuration "logging.level" ("unknown level " ++ Text.quoted level))
  let format := lower (← textOf format)
  if !formats.contains format then
    throw (.configuration "logging.format" ("unknown format " ++ Text.quoted format))
  let outputFile ← (outputFile.filter Value.isTruthy).mapM textOf
  .ok { level, format, outputFile }

def textOr (fields : List (String × Value)) (key default : String) : Except Fault String :=
  ((fields.lookup key).map textOf).getD (.ok default)

def readLogging (v : Value) : Except Fault LogSettings :=
  match v with
  | .table fields =>
    logSettings ((fields.lookup "level").getD (.str "WARNING"))
      ((fields.lookup "format").getD (.str "structured")) (fields.lookup "output_file")
  | v => .error (.misuse (.noAttribute v.kindName "get"))

/-! ### Unknown keys -/

def sortTexts (texts : List String) : List String := Text.sortNames texts

def unknownKeys {α : Type} (names : List String) : Except Fault α :=
  .error (.configuration "tool.manify" ("unknown keys: " ++ String.intercalate ", " names))

def isLess (x y : Int × Nat) : Bool :=
  if x.2 = 0 && y.2 = 0 then x.1 < y.1 else x.1 * y.2 < y.1 * x.2

/-- The kind of the least of some values that are no texts: numbers are
compared, other values are taken to be of one kind. -/
def leastKind (values : List Value) : String :=
  let least := values.foldl
    (fun least v =>
      match least.bind Value.ratio?, v.ratio? with
      | some x, some y => if isLess y x then some v else least
      | _, _ => if least.isNone then some v else least)
    (none : Option Value)
  (least.map Value.kindName).getD "NoneType"

/-- What a list says when it stands in place of the table: its members count
as keys. -/
def ofList {α : Type} (items : List Value) : Except Fault α :=
  let compound := items.find? fun | .list _ | .table _ => true | _ => false
  let known : Value → Bool
    | .str s => keys.contains s
    | _ => false
  let texts := items.filterMap fun | .str s => if keys.contains s then none else some s | _ => none
  let others := items.filter fun | .str _ => false | _ => true
  match compound with
  | some v => .error (.misuse (.notHashable v.kindName))
  | none =>
    if items.all known then .error (.misuse (.noAttribute "list" "get"))
    else if others.isEmpty then unknownKeys (sortTexts texts.eraseDups)
    else .error (.misuse (.notText 0 (leastKind others)))

/-- What a text says when it stands in place of the table: its characters count
as keys. -/
def ofText {α : Type} (s : String) : Except Fault α :=
  if s = "" then .error (.misuse (.noAttribute "str" "get"))
  else unknownKeys (sortTexts (s.toList.map fun c => String.ofList [c]).eraseDups)

/-! ### The whole table -/

def ofTable (fields : List (String × Value)) : Except Fault Settings := do
  let unknown := (fields.map Prod.fst).filter fun k => !keys.contains k
  if !unknown.isEmpty then unknownKeys (sortTexts unknown)
  else
    let defaults : Settings := {}
    let logging := (fields.lookup "logging").getD (.table [])
    match logging with
    | .table _ =>
      .ok
        { destination := ← textOr fields "destination" defaults.destination
          source := ← textOr fields "source" defaults.source
          manifestName := ← textOr fields "manifest_name" defaults.manifestName
          headingLead := ← textOr fields "heading_prefix" defaults.headingLead
          scanPlugins :=
            ← readBool "scan_plugins" ((fields.lookup "scan_plugins").getD (.bool true))
          logging := ← readLogging logging }
    | _ => .error (.configuration "tool.manify.logging" "must be a table")

/-- Settings from the value that stands where their table should. -/
def ofValue : Value → Except Fault Settings
  | .table fields => ofTable fields
  | .list items => ofList items
  | .str s => ofText s
  | v => .error (.misuse (.notIterable v.kindName))

end Settings

end CommandManual
