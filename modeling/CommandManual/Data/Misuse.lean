/-!
What is said when a value is used in a way that its kind does not allow.
-/

namespace CommandManual

inductive Misuse
  | noAttribute (kind member : String)
  | notIterable (kind : String)
  | notCallable (kind : String)
  | notHashable (kind : String)
  /-- A member of a list of texts is no text. -/
  | notText (position : Nat) (kind : String)
  /-- Something that is searched for a pattern is no text. -/
  | notSearchable (kind : String)
  /-- Something that is put after a text is no text. -/
  | notAppendable (kind : String)
  /-- Something that should name a file is no text. -/
  | notPath (kind : String)
  /-- Something is made from too few or too many arguments. -/
  | argumentCount (made : String) (required : List String) (most given : Nat)
deriving DecidableEq, Repr

namespace Misuse

/-- What is said about a wrong number of arguments. The thing that is made counts
as an argument too. -/
def countMessage (required : List String) (most given : Nat) : String :=
  let absent := required.drop given
  if absent.isEmpty then
    let least := if required.length = most then "" else
      "from " ++ toString (required.length + 1) ++ " to "
    "takes " ++ least ++ toString (most + 1) ++ " positional arguments but " ++
      toString (given + 1) ++ " were given"
  else
    "missing " ++ toString absent.length ++ " required positional argument" ++
      (if absent.length = 1 then ": " else "s: ") ++
      String.intercalate " and " (absent.map fun name => "'" ++ name ++ "'")

def kindName : Misuse → String
  | noAttribute .. => "AttributeError"
  | _ => "TypeError"

def message : Misuse → String
  | noAttribute kind member => "'" ++ kind ++ "' object has no attribute '" ++ member ++ "'"
  | notIterable kind => "'" ++ kind ++ "' object is not iterable"
  | notCallable kind => "'" ++ kind ++ "' object is not callable"
  | notHashable kind => "unhashable type: '" ++ kind ++ "'"
  | notText position kind =>
    "sequence item " ++ toString position ++ ": expected str instance, " ++ kind ++ " found"
  | argumentCount made required most given =>
    made ++ ".__init__() " ++ countMessage required most given
  | notSearchable kind => "expected string or bytes-like object, got '" ++ kind ++ "'"
  | notAppendable kind => "can only concatenate str (not \"" ++ kind ++ "\") to str"
  | notPath kind => "expected str, bytes or os.PathLike object, not " ++ kind

end Misuse

end CommandManual
