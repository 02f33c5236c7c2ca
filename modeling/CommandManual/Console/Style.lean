import CommandManual.Console.ColorNames
import CommandManual.Text.Casing
import CommandManual.Text.Digits
import CommandManual.Text.Search

/-!
Styles of console text and their normal form, by which a closing tag finds the
tag that it closes.
-/

namespace CommandManual.Console

/-- The attributes of a style in the order of the normal form, each with the
words that set it. -/
def styleAttributes : List (String × List String) :=
  [("bold", ["bold", "b"]), ("dim", ["dim", "d"]), ("italic", ["italic", "i"]),
    ("underline", ["underline", "u"]), ("blink", ["blink"]), ("blink2", ["blink2"]),
    ("reverse", ["reverse", "r"]), ("conceal", ["conceal", "c"]), ("strike", ["strike", "s"]),
    ("underline2", ["underline2", "uu"]), ("frame", ["frame"]), ("encircle", ["encircle"]),
    ("overline", ["overline", "o"])]

def attributeOf? (word : String) : Option String :=
  (styleAttributes.find? fun (_, words) => words.contains word).map Prod.fst

def lower (s : String) : String := String.ofList (Text.toLower s.toList)

def isHexDigit (c : Char) : Bool := c.isDigit || ('a' ≤ c && c ≤ 'f')

/-- The number between an opening text and a closing parenthesis. -/
def inParentheses? (start : String) (t : Text) : Option Text :=
  match Text.after? start.toList t with
  | some rest => if rest.getLast? == some ')' then some rest.dropLast else none
  | none => none

def isSmallNumber (t : Text) : Bool :=
  !t.isEmpty && t.all Char.isDigit && (String.ofList t).toNat?.any (· ≤ 255)

inductive StyleError
  | notAStyle
  /-- A part of a color that should be a number. -/
  | notANumber (part : String)
deriving DecidableEq, Repr

/-- Whether a color of three parts is well formed; parts may be too large, but
each has to be a number. -/
def isTriplet (t : Text) : Except StyleError Bool := do
  let parts := Text.splitWhere (· == ',') t
  let areNumbers := parts.flatten.all fun c => (Text.digitValue? c).isSome
  if t.isEmpty || parts.length != 3 || !areNumbers then
    return false
  let numbers ← parts.mapM fun p =>
    match Text.natOfDigits? p with
    | some n => .ok n
    | none => .error (.notANumber (String.ofList p))
  return numbers.all (· ≤ 255)

def color (s : String) : Except StyleError String := do
  let name := String.ofList (Text.trim (lower s).toList)
  let t := name.toList
  let known :=
    name == "default" || colorNames.contains name ||
      (match Text.after? ['#'] t with
        | some hex => hex.length == 6 && hex.all isHexDigit
        | none => false) ||
      (match inParentheses? "color(" t with
        | some n => n.length ≤ 3 && isSmallNumber n
        | none => false)
  let triplet ← ((inParentheses? "rgb(" t).map isTriplet).getD (.ok false)
  if known || triplet then .ok name else .error .notAStyle

structure Style where
  attributes : List (String × Bool) := []
  color : Option String := none
  background : Option String := none
  link : Option String := none

def setAttribute (name : String) (on : Bool) (s : Style) : Style :=
  { s with attributes := (s.attributes.filter fun (n, _) => n != name) ++ [(name, on)] }

def styleOfWords : List String → Style → Except StyleError Style
  | [], s => .ok s
  | piece :: rest, s =>
    let word := lower piece
    match word, rest with
    | "on", next :: rest => do
      let c ← color next
      styleOfWords rest { s with background := some c }
    | "not", next :: rest =>
      match attributeOf? next with
      | some a => styleOfWords rest (setAttribute a false s)
      | none => .error .notAStyle
    | "link", next :: rest => styleOfWords rest { s with link := some next }
    | "on", [] | "not", [] | "link", [] => .error .notAStyle
    | word, rest =>
      match attributeOf? word with
      | some a => styleOfWords rest (setAttribute a true s)
      | none => do
        let c ← color word
        styleOfWords rest { s with color := some c }

def Style.text (s : Style) : String :=
  let attributes := styleAttributes.filterMap fun (name, _) =>
    (s.attributes.lookup name).map fun on => if on then name else "not " ++ name
  let words := attributes ++ s.color.toList ++
    (s.background.map fun c => ["on", c]).getD [] ++ (s.link.map fun l => ["link", l]).getD []
  if words.isEmpty then "none" else String.intercalate " " words

/-- The normal form of the text of a tag; a text that is no style is trimmed
and brought to lower case. What should be a number and is none is an error. -/
def normalStyle (t : Text) : Except String String :=
  let words := (Text.words t).map String.ofList
  if words == ["none"] then .ok "none"
  else
    match styleOfWords words {} with
    | .ok s => .ok s.text
    | .error .notAStyle => .ok (String.ofList (Text.toLower (Text.trim t)))
    | .error (.notANumber part) => .error part

end CommandManual.Console
