import CommandManual.Data.Value

/-!
Writing JSON, on one line or with one member on each line. Texts keep their
characters except for quotes, backslashes and controls.
-/

namespace CommandManual.Json

def stringChar (c : Char) : String :=
  if c = '"' then "\\\""
  else if c = '\\' then "\\\\"
  else if c = '\n' then "\\n"
  else if c = '\r' then "\\r"
  else if c = '\t' then "\\t"
  else if c = '\x08' then "\\b"
  else if c = '\x0c' then "\\f"
  else if c.toNat < 0x20 then "\\u" ++ Text.hexPadded 4 c.toNat
  else String.ofList [c]

def quote (s : String) : String := "\"" ++ String.join (s.toList.map stringChar) ++ "\""

def floatText : Binary64 → String
  | .nan => "NaN"
  | .infinite negative => if negative then "-Infinity" else "Infinity"
  | x => x.toText

def scalarText : Value → String
  | .null => "null"
  | .bool b => if b then "true" else "false"
  | .int n => toString n
  | .float x => floatText x
  | v => quote v.display

mutual

def compact : Value → String
  | .list items => "[" ++ String.intercalate ", " (compactItems items) ++ "]"
  | .table fields => "\x7b" ++ String.intercalate ", " (compactFields fields) ++ "\x7d"
  | v => scalarText v

def compactItems : List Value → List String
  | [] => []
  | v :: vs => compact v :: compactItems vs

def compactFields : List (String × Value) → List String
  | [] => []
  | (k, v) :: fs => (quote k ++ ": " ++ compact v) :: compactFields fs

end

/-- Members on lines of their own between two brackets, or the brackets alone. -/
def bracketed (openText closeText : String) (level : Nat) (members : List String) : String :=
  if members.isEmpty then openText ++ closeText
  else
    let margin (n : Nat) : String := "\n" ++ String.ofList (List.replicate (2 * n) ' ')
    openText ++ margin (level + 1) ++ String.intercalate ("," ++ margin (level + 1)) members ++
      margin level ++ closeText

mutual

/-- A value with its members on lines of their own, two blanks deeper at each level. -/
def indented (level : Nat) : Value → String
  | .list items => bracketed "[" "]" level (indentedItems (level + 1) items)
  | .table fields => bracketed "\x7b" "\x7d" level (indentedFields (level + 1) fields)
  | v => scalarText v

def indentedItems (level : Nat) : List Value → List String
  | [] => []
  | v :: vs => indented level v :: indentedItems level vs

def indentedFields (level : Nat) : List (String × Value) → List String
  | [] => []
  | (k, v) :: fs => (quote k ++ ": " ++ indented level v) :: indentedFields level fs

end

end CommandManual.Json
