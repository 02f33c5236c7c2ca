import CommandManual.Data.Fields
import CommandManual.Docs.Docblock
import CommandManual.Text.Indent

/-!
What the manual tells about one method, and how it is read off the method's
docblock.
-/

namespace CommandManual

structure MethodDoc where
  methodName : Text
  subcommandName : Text
  shortDescription : Text := []
  optionsText : Text := []
  examplesText : Text := []
deriving DecidableEq, Repr

/-- The documentation in a docblock; a blank docblock has none. -/
def MethodDoc.ofDocblock? (methodName doc : Text) : Option MethodDoc :=
  let block := Text.dedent doc
  if block.all Text.isBlank then none
  else
    let (options, examples) := Docblock.splitSections (Docblock.longDescription block)
    some
      { methodName
        subcommandName := Docblock.subcommandName block methodName
        shortDescription := Docblock.shortDescription block
        optionsText := Docblock.cleanOptions options
        examplesText := Docblock.cleanExamples examples }

def MethodDoc.ofFields (v : Value) : Checked MethodDoc :=
  let text (location : String) (x : Value) : Checked Text :=
    (Field.text location x).map String.toList
  ((((Checked.ap (.ok MethodDoc.mk) (Field.required text "method_name" v)).ap
    (Field.required text "subcommand_name" v)).ap
    (Field.withDefault text "short_description" [] v)).ap
    (Field.withDefault text "options_text" [] v)).ap
    (Field.withDefault text "examples_text" [] v)

end CommandManual
