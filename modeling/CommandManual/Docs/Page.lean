import CommandManual.Data.Misuse
import CommandManual.Docs.MethodDoc

/-!
The page of a command: a heading for each subcommand, its short description,
and its options and examples in fenced blocks.
-/

namespace CommandManual

structure Page where
  commandName : String
  content : Text := []
deriving DecidableEq, Repr

namespace Page

/-- The name of the file that holds the page; the command name stands in it as it is. -/
def fileName (page : Page) : String := page.commandName ++ ".md"

def fence : Text := "```".toList

def fenced (content : Text) : Text :=
  '\n' :: fence ++ '\n' :: Text.trim content ++ '\n' :: fence ++ "\n\n".toList

/-- The heading of a subcommand; its first word is left out when empty, and so
are the names. -/
def heading (lead : Text) (commandName subcommandName : Text) : Text :=
  "# ".toList ++
    Text.joinWith [' '] ([lead, commandName, subcommandName].filter fun part => !part.isEmpty)

/-- The first part of a heading that counts as given and is no text, with its
position among those that do. -/
def notText? (parts : List Value) : Option Misuse :=
  let given := parts.filter Value.isTruthy
  let isText : Value → Bool := fun | .str _ => true | _ => false
  let before := given.takeWhile isText
  (given[before.length]?).map fun v => Misuse.notText before.length v.kindName

/-- A marker with its fenced block, or nothing for an empty text. -/
def block (marker content : Text) : Text :=
  if content.isEmpty then [] else marker ++ fenced content

def methodSection (lead commandName : Text) (doc : MethodDoc) : Text :=
  heading lead commandName doc.subcommandName ++ "\n\n".toList ++
    doc.shortDescription ++ "\n\n".toList ++
    block Docblock.optionsMarker doc.optionsText ++
    block Docblock.examplesMarker doc.examplesText ++ ['\n']

/-- The page with one section for each documented subcommand, in order. -/
def ofDocs (lead commandName : String) (docs : List MethodDoc) : Page where
  commandName
  content := docs.flatMap (methodSection lead.toList commandName.toList)

def ofFields (v : Value) : Checked Page :=
  (Checked.ap (.ok Page.mk) (Field.required Field.text "command_name" v)).ap
    (Field.withDefault (fun l x => (Field.text l x).map String.toList) "content" [] v)

end Page

end CommandManual
