import CommandManual.Data.Value
import CommandManual.Text.Normal

/-!
Command files as lists of items that are carried out in order. The body of a
class is such a list too.
-/

namespace CommandManual.Script

inductive DocValue
  | absent
  | text (t : Text)
  /-- Something of another kind that counts as given. -/
  | other (kind : String)
deriving DecidableEq, Repr

inductive MethodForm
  | plain
  | async
  | static
  | ofClass
  | property
deriving DecidableEq, Repr

inductive Item
  | define (form : MethodForm) (name : String) (doc : DocValue)
  | classBlock (name : String) (bases : List String) (doc : DocValue) (members : List Item)
  /-- A function without a docblock. -/
  | lambda (name : String)
  /-- Something that can be called and is no function. -/
  | callable (name : String)
  | constant (name : String) (value : Value)
  | alias (name target : String)
  | delete (name : String)
  /-- Binds names of a module, or the module itself when no name is given. -/
  | useModule (module : String) (names : List String)
  | throw (kind : String) (message : Option Value)
  /-- Makes the whole file unreadable. -/
  | malformed
deriving Repr

namespace Item

def docOf (v : Value) : DocValue :=
  match v with
  | .str s => .text s.toList
  | v => if v.isTruthy then .other v.kindName else .absent

/-- The text under a key; names are brought to their normal form. -/
def text (key : String) (v : Value) : String :=
  match v.get? key with
  | some (.str s) => Text.normalName s
  | _ => ""

def texts (key : String) (v : Value) : List String :=
  match v.get? key with
  | some (.list items) => items.filterMap fun | .str s => some (Text.normalName s) | _ => none
  | _ => []

def methodForm? : String → Option MethodForm
  | "method" => some .plain
  | "async" => some .async
  | "static" => some .static
  | "classmethod" => some .ofClass
  | "property" => some .property
  | _ => none

def messageOf (v : Value) : Option Value :=
  match v.get? "message" with
  | some .null => none
  | given => given

/-- The item that a table describes, with classes nested at most `depth` deep. -/
def ofValue? : (depth : Nat) → Value → Option Item
  | 0, _ => none
  | depth + 1, v =>
    let name := text "name" v
    let kind := text "kind" v
    match methodForm? kind with
    | some form => some (.define form name (docOf ((v.get? "doc").getD .null)))
    | none =>
      match kind with
      | "class" =>
        let members :=
          match v.get? "members" with
          | some (.list items) => items.filterMap (ofValue? depth)
          | _ => []
        some (.classBlock name (texts "bases" v) (docOf ((v.get? "doc").getD .null)) members)
      | "lambda" => some (.lambda name)
      | "partial" => some (.callable name)
      | "value" => some (.constant name ((v.get? "value").getD .null))
      | "alias" => some (.alias name (text "target" v))
      | "del" => some (.delete name)
      | "import" => some (.useModule (text "module" v) (texts "names" v))
      | "raise" =>
        some (.throw (text "type" v) (messageOf v))
      | "syntax_error" => some .malformed
      | _ => none

def listOfValue (v : Value) : List Item :=
  match v with
  | .list items => items.filterMap (ofValue? 1000)
  | _ => []

end Item

end CommandManual.Script
