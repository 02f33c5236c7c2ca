import CommandManual.Data.Value
import CommandManual.Text.Basic

/-!
Reading JSON. A reader takes the rest of the document with the position it
stands at, and stops at the first character that cannot continue a value; the
error tells what was expected there. Numbers may also be `NaN`, `Infinity` and
`-Infinity`, integers have at most 4300 digits, and a repeated key keeps its
first place with its last value.
-/

namespace CommandManual.Json

inductive Problem
  | value
  | propertyName
  | colon
  | comma
  | extraData
  | unterminated
  | control
  | escape
  | codePoint
  | byteOrderMark
deriving DecidableEq, Repr

def Problem.message : Problem → String
  | value => "Expecting value"
  | propertyName => "Expecting property name enclosed in double quotes"
  | colon => "Expecting ':' delimiter"
  | comma => "Expecting ',' delimiter"
  | extraData => "Extra data"
  | unterminated => "Unterminated string starting at"
  | control => "Invalid control character at"
  | escape => "Invalid \\escape"
  | codePoint => "Invalid \\uXXXX escape"
  | byteOrderMark => "Unexpected UTF-8 BOM (decode using utf-8-sig)"

inductive Nesting
  | array
  | object
deriving DecidableEq, Repr

inductive Error
  | malformed (problem : Problem) (position : Nat)
  | longInteger (digits : Nat)
  | tooDeep (nesting : Nesting)
deriving DecidableEq, Repr

def lineAndColumn (doc : Text) (position : Nat) : Nat × Nat :=
  let before := doc.take position
  (before.count '\n' + 1, (before.reverse.takeWhile (· != '\n')).length + 1)

def longIntegerMessage (digits : Nat) : String :=
  "Exceeds the limit (4300 digits) for integer string conversion: value has " ++
    toString digits ++ " digits; use sys.set_int_max_str_digits() to increase the limit"

def Error.message (doc : Text) : Error → String
  | malformed problem position =>
    let (line, column) := lineAndColumn doc position
    problem.message ++ ": line " ++ toString line ++ " column " ++ toString column ++
      " (char " ++ toString position ++ ")"
  | longInteger digits => longIntegerMessage digits
  | tooDeep nesting =>
    "maximum recursion depth exceeded while decoding a JSON " ++
      (match nesting with | .array => "array" | .object => "object") ++
      " from a unicode string"

structure Cursor where
  rest : Text
  position : Nat

abbrev Reader (α : Type) := Cursor → Except Error (α × Cursor)

def Cursor.drop (n : Nat) (cur : Cursor) : Cursor := ⟨cur.rest.drop n, cur.position + n⟩

def isSpace (c : Char) : Bool := c = ' ' || c = '\t' || c = '\n' || c = '\r'

def Cursor.skipSpace (cur : Cursor) : Cursor :=
  cur.drop (cur.rest.takeWhile isSpace).length

def fail {α : Type} (problem : Problem) (position : Nat) : Except Error α :=
  .error (.malformed problem position)

/-! ### Strings -/

def hexDigit? (c : Char) : Option Nat :=
  if '0' ≤ c && c ≤ '9' then some (c.toNat - 48)
  else if 'a' ≤ c && c ≤ 'f' then some (c.toNat - 87)
  else if 'A' ≤ c && c ≤ 'F' then some (c.toNat - 55)
  else none

def hexFour? (t : Text) : Option Nat :=
  match t.take 4 |>.mapM hexDigit? with
  | some [a, b, c, d] => some (((a * 16 + b) * 16 + c) * 16 + d)
  | _ => none

def isHighSurrogate (n : Nat) : Bool := 0xd800 ≤ n && n ≤ 0xdbff

def isLowSurrogate (n : Nat) : Bool := 0xdc00 ≤ n && n ≤ 0xdfff

/-- The character for a code unit on its own. A surrogate that is no part of a pair
is none: documents that write one are outside of what is described here, and the
replacement character stands for it. -/
def charOfUnit (n : Nat) : Char :=
  if isHighSurrogate n || isLowSurrogate n then Char.ofNat 0xfffd else Char.ofNat n

/-- The character of an escape `\u`, after whose letter `digits` follows, and
how many characters after the backslash belong to it. A surrogate pair takes
two escapes. The backslash stands at `position`, and a closing quote is owed. -/
def unicodeEscape (position : Nat) (digits : Text) : Except Error (Char × Nat) :=
  if (digits.take 5).length < 5 then fail .codePoint (position + 1)
  else
    match hexFour? digits with
    | none => fail .codePoint (position + 1)
    | some high =>
      match isHighSurrogate high, digits.drop 4 with
      | true, '\\' :: 'u' :: more =>
        if (more.take 5).length < 5 then .ok (charOfUnit high, 5)
        else
          match hexFour? more with
          | none => fail .codePoint (position + 7)
          | some low =>
            if isLowSurrogate low then
              .ok (Char.ofNat (0x10000 + (high - 0xd800) * 0x400 + (low - 0xdc00)), 11)
            else .ok (charOfUnit high, 5)
      | _, _ => .ok (charOfUnit high, 5)

/-- The character of an escape and how many characters after the backslash at
`position` belong to it; `opening` is where the string starts. -/
def escapeAt (opening position : Nat) : Text → Except Error (Char × Nat)
  | [] => fail .unterminated opening
  | c :: r =>
    if c = 'u' then unicodeEscape position r
    else if c = '"' || c = '\\' || c = '/' then .ok (c, 1)
    else if c = 'b' then .ok ('\x08', 1)
    else if c = 'f' then .ok ('\x0c', 1)
    else if c = 'n' then .ok ('\n', 1)
    else if c = 'r' then .ok ('\r', 1)
    else if c = 't' then .ok ('\t', 1)
    else fail .escape position

/-- The characters of a string up to its closing quote; `skip` characters of an
escape are still to be passed over. -/
def stringBody (opening : Nat) : (skip position : Nat) → Text → Except Error (Text × Cursor)
  | _, _, [] => fail .unterminated opening
  | skip + 1, position, _ :: r => stringBody opening skip (position + 1) r
  | 0, position, c :: r =>
    if c = '"' then .ok ([], ⟨r, position + 1⟩)
    else if c = '\\' then do
      let (e, used) ← escapeAt opening position r
      let (t, cur) ← stringBody opening used (position + 1) r
      .ok (e :: t, cur)
    else if c.toNat ≤ 0x1f then fail .control position
    else do
      let (t, cur) ← stringBody opening 0 (position + 1) r
      .ok (c :: t, cur)

def string : Reader String := fun cur => do
  let (t, cur) ← stringBody cur.position 0 (cur.position + 1) (cur.rest.drop 1)
  .ok (String.ofList t, cur)

/-! ### Numbers -/

def isDigit (c : Char) : Bool := '0' ≤ c && c ≤ '9'

def natOfDigits (t : Text) : Nat := t.foldl (fun n c => n * 10 + (c.toNat - 48)) 0

/-- The digits of the whole part: a zero alone, or digits that start otherwise. -/
def wholeDigits (t : Text) : Text :=
  match t with
  | '0' :: _ => ['0']
  | t => t.takeWhile isDigit

/-- The digits after a point, when there is a point with a digit. -/
def fractionDigits : Text → Text
  | '.' :: r => r.takeWhile isDigit
  | _ => []

def exponentPart : Text → Option (Int × Nat)
  | e :: r =>
    if e = 'e' || e = 'E' then
      let (negative, signLength, digits) :=
        match r with
        | '-' :: r => (true, 1, r.takeWhile isDigit)
        | '+' :: r => (false, 1, r.takeWhile isDigit)
        | r => (false, 0, r.takeWhile isDigit)
      if digits.isEmpty then none
      else
        let n : Int := natOfDigits digits
        some (if negative then -n else n, 1 + signLength + digits.length)
    else none
  | [] => none

def number : Reader Value := fun cur =>
  let negative := cur.rest.head? == some '-'
  let unsigned := if negative then cur.drop 1 else cur
  let whole := wholeDigits unsigned.rest
  if whole.isEmpty then fail .value cur.position
  else
    let afterWhole := unsigned.drop whole.length
    let fraction := fractionDigits afterWhole.rest
    let afterFraction :=
      if fraction.isEmpty then afterWhole else afterWhole.drop (fraction.length + 1)
    match fraction.isEmpty, exponentPart afterFraction.rest with
    | true, none =>
      if whole.length > 4300 then .error (.longInteger whole.length)
      else
        let n : Int := natOfDigits whole
        .ok (.int (if negative then -n else n), afterWhole)
    | _, exponent =>
      let (e, used) := exponent.getD (0, 0)
      let x := Binary64.ofDecimal negative (natOfDigits (whole ++ fraction)) (e - fraction.length)
      .ok (.float x, afterFraction.drop used)

/-! ### Values -/

def constants : List (String × Value) :=
  [("null", .null), ("true", .bool true), ("false", .bool false), ("NaN", .float .nan),
    ("Infinity", .float (.infinite false)), ("-Infinity", .float (.infinite true))]

def constant? (cur : Cursor) : Option (Value × Cursor) :=
  constants.findSome? fun (word, v) =>
    if word.toList.isPrefixOf cur.rest then some (v, cur.drop word.length) else none

/-- The members of an array or object, up to and with the closing character;
each step of `fuel` reads one member and the comma after it. -/
def members {α : Type} (close : Char) (member : Reader α) : Nat → Reader (List α)
  | 0, cur => fail .value cur.position
  | fuel + 1, cur => do
    let (x, cur) ← member cur
    let cur := cur.skipSpace
    match cur.rest with
    | c :: _ =>
      if c = close then .ok ([x], cur.drop 1)
      else if c = ',' then do
        let (xs, cur) ← members close member fuel (cur.drop 1).skipSpace
        .ok (x :: xs, cur)
      else fail .comma cur.position
    | [] => fail .comma cur.position

def field (value : Reader Value) : Reader (String × Value) := fun cur =>
  if cur.rest.head? == some '"' then do
    let (key, cur) ← string cur
    let cur := cur.skipSpace
    if cur.rest.head? == some ':' then do
      let (v, cur) ← value (cur.drop 1).skipSpace
      .ok ((key, v), cur)
    else fail .colon cur.position
  else fail .propertyName cur.position

/-- The members after the opening character, which may be none. -/
def collection {α : Type} (close : Char) (member : Reader α) : Reader (List α) := fun cur =>
  let cur := (cur.drop 1).skipSpace
  if cur.rest.head? == some close then .ok ([], cur.drop 1)
  else members close member (cur.rest.length + 1) cur

/-- The fields of an object: the last value of a key at its first place. -/
def mergeFields (fields : List (String × Value)) : List (String × Value) :=
  fields.foldl (fun acc (k, v) => assign k v acc) []

/-- A value with at most `depth` arrays and objects around each other. -/
def value : (depth : Nat) → Reader Value
  | 0, cur =>
    match cur.rest with
    | '\x7b' :: _ => .error (.tooDeep .object)
    | '[' :: _ => .error (.tooDeep .array)
    | _ => scalar cur
  | depth + 1, cur =>
    match cur.rest with
    | '\x7b' :: _ => do
      let (fields, cur) ← collection '\x7d' (field (value depth)) cur
      .ok (.table (mergeFields fields), cur)
    | '[' :: _ => do
      let (items, cur) ← collection ']' (value depth) cur
      .ok (.list items, cur)
    | _ => scalar cur
where
  scalar : Reader Value := fun cur =>
    match cur.rest with
    | [] => fail .value cur.position
    | '"' :: _ => do
      let (s, cur) ← string cur
      .ok (.str s, cur)
    | _ =>
      match constant? cur with
      | some found => .ok found
      | none => number cur

/-- The value of a whole document, in which at most `depth` arrays and objects stand
around each other. -/
def parse (depth : Nat) (doc : Text) : Except Error Value :=
  if doc.head? == some (Char.ofNat 0xfeff) then fail .byteOrderMark 0
  else do
    let (v, cur) ← value depth (Cursor.mk doc 0).skipSpace
    let cur := cur.skipSpace
    if cur.rest.isEmpty then .ok v else fail .extraData cur.position

end CommandManual.Json
