import CommandManual.Text.Search

/-!
The docblock of a command method. Its first line describes the method in
short, the lines up to the first tag line describe it at length, and the tag
`@subcommand` may give the method another name on the command line. The long
description holds the options and, after a marker, the examples.
-/

namespace CommandManual.Docblock

def optionsMarker : Text := "## OPTIONS".toList

def examplesMarker : Text := "## EXAMPLES".toList

def subcommandTag : Text := "@subcommand".toList

def isTagLine (line : Text) : Bool := line.head? == some '@'

def shortDescription (doc : Text) : Text :=
  let first := doc.firstLine
  if isTagLine first then [] else first

/-- The lines between the first line and the first tag line, trimmed. A
docblock without a short description has no long one either. -/
def longDescription (doc : Text) : Text :=
  if (shortDescription doc).isEmpty then []
  else Text.trim (Text.unlines ((Text.lines doc).tail.takeWhile fun l => !isTagLine l))

/-- The word that follows the tag and at least one blank at the front of a text. -/
def tagValue? (t : Text) : Option Text :=
  match Text.after? subcommandTag t with
  | some (b :: rest) =>
    if Text.isBlank b then
      let value := (rest.dropWhile Text.isBlank).takeWhile fun c => !Text.isBlank c
      if value.isEmpty then none else some value
    else none
  | _ => none

def findTagValue? : Text → Option Text
  | [] => none
  | c :: r =>
    match tagValue? (c :: r) with
    | some value => some value
    | none => findTagValue? r

def subcommandName (doc methodName : Text) : Text :=
  (findTagValue? doc).getD methodName

/-- Options and examples of a long description, cut at the first examples marker. -/
def splitSections (body : Text) : Text × Text :=
  (Text.cut? examplesMarker body).getD (body, [])

def cleanOptions (options : Text) : Text :=
  Text.trim (Text.eraseAll optionsMarker options)

def cleanExamples (examples : Text) : Text :=
  Text.trim (Text.unlines ((Text.lines examples).map Text.trim))

end CommandManual.Docblock
