import CommandManual.Text.Basic
import CommandManual.Text.Name
import CommandManual.Text.Quoted

/-!
Tokens of the expressions in the parameters of console tags: numbers, texts, names
and marks, with the brackets that stay open. A text that cannot be cut into tokens is
refused here, before the order of its tokens is looked at.
-/

namespace CommandManual.Console.Expression

inductive Token
  | number
  | text
  /-- A text of bytes. -/
  | bytes
  | name (s : String)
  | mark (s : String)
deriving DecidableEq, Repr

def invalid : String := "invalid syntax"

/-- Characters that run together; those beyond ASCII are looked at afterwards. -/
def isNameChar (c : Char) : Bool := c.isAlphanum || c = '_' || 0x80 ≤ c.toNat

def longMarks : List String :=
  ["...", "**=", "//=", ">>=", "<<=", "**", "//", ">>", "<<", "<=", ">=", "==", "!=", "->", "+=",
    "-=", "*=", "/=", "%=", "@=", "&=", "|=", "^=", ":="]

def markOf (t : Text) : String :=
  (longMarks.find? fun m => t.take m.length == m.toList).getD (String.ofList (t.take 1))

/-- What follows a text between quotes, after the quote that opens it. -/
def textEnd? (quote : Text) : Text → Option Text
  | [] => none
  | c :: r =>
    if (c :: r).take quote.length == quote then some ((c :: r).drop quote.length)
    else if c = '\n' && quote.length = 1 then none
    else if c = '\\' then
      match r with
      | [] => none
      | _ :: r => textEnd? quote r
    else textEnd? quote r

def textRest (quote : Char) (r : Text) : Except String Text :=
  let triple := r.take 2 == [quote, quote]
  let mark := if triple then [quote, quote, quote] else [quote]
  match textEnd? mark (if triple then r.drop 2 else r) with
  | some rest => .ok rest
  | none =>
    .error ("unterminated " ++ (if triple then "triple-quoted " else "") ++
      "string literal (detected at line " ++
      toString (if triple then r.count '\n' + 1 else 1) ++ ")")

/-- Digits with single underscores between them, and the rest. -/
def digitRun : Text → Text × Text
  | '_' :: c :: r =>
    if c.isDigit then
      let (digits, rest) := digitRun (c :: r)
      ('_' :: digits, rest)
    else ([], '_' :: c :: r)
  | c :: r =>
    if c.isDigit then
      let (digits, rest) := digitRun r
      (c :: digits, rest)
    else ([], c :: r)
  | [] => ([], [])

def wordsAfterNumber : List String := ["and", "else", "for", "not", "or"]

def afterNumber (kind : String) (r : Text) : Except String Text :=
  let word := String.ofList (r.takeWhile isNameChar)
  let short := String.ofList (r.take 2)
  let runsOn := r.head?.any fun c => c.toNat < 0x80 && isNameChar c
  if wordsAfterNumber.contains word || ["if", "in", "is"].contains short || !runsOn then .ok r
  else .error ("invalid " ++ kind ++ " literal")

/-- What follows the digits of a number with a base, of which one is wanted where
`needed`, and where an underscore may stand if `mark`. -/
def basedRest (kind : String) (isDigit : Char → Bool) :
    (needed mark : Bool) → Text → Except String Text
  | needed, _, [] => if needed then .error ("invalid " ++ kind ++ " literal") else .ok []
  | needed, mark, c :: r =>
    if isDigit c then basedRest kind isDigit false true r
    else if c = '_' && mark then basedRest kind isDigit true false r
    else if c.isDigit then
      .error ("invalid digit '" ++ String.ofList [c] ++ "' in " ++ kind ++ " literal")
    else if needed then .error ("invalid " ++ kind ++ " literal")
    else afterNumber kind (c :: r)

def isHexDigit (c : Char) : Bool :=
  c.isDigit || ('a' ≤ c && c ≤ 'f') || ('A' ≤ c && c ≤ 'F')

def decimalRest (t : Text) : Except String Text := do
  let (whole, r) := digitRun t
  let (fraction, r) : Option Text × Text :=
    match r with
    | '.' :: r => let (digits, r) := digitRun r; (some digits, r)
    | r => (none, r)
  let hasPower := r.head? == some 'e' || r.head? == some 'E'
  let r : Text :=
    if hasPower then
      let digits := if (r.drop 1).head? == some '-' || (r.drop 1).head? == some '+' then r.drop 2
        else r.drop 1
      if digits.head?.any Char.isDigit then (digitRun digits).2 else r
    else r
  let (imaginary, r) : Bool × Text :=
    match r with
    | c :: r' => if c = 'j' || c = 'J' then (true, r') else (false, r)
    | [] => (false, r)
  let padded := whole.head? == some '0' && whole.any fun c => '1' ≤ c && c ≤ '9'
  if padded && fraction.isNone && !hasPower && !imaginary then
    .error ("leading zeros in decimal integer literals are not permitted; " ++
      "use an 0o prefix for octal integers")
  else afterNumber (if imaginary then "imaginary" else "decimal") r

def numberRest (t : Text) : Except String Text :=
  match t with
  | '0' :: c :: r =>
    match c.toLower with
    | 'x' => basedRest "hexadecimal" isHexDigit true true r
    | 'o' => basedRest "octal" (fun d => '0' ≤ d && d ≤ '7') true true r
    | 'b' => basedRest "binary" (fun d => d = '0' || d = '1') true true r
    | _ => decimalRest t
  | t => decimalRest t

def textLeads : List String := ["r", "b", "u", "f", "br", "rb", "fr", "rf"]

def isQuote (c : Char) : Bool := c = Text.singleQuote || c = Text.doubleQuote

/-- A text after the letters in front of it and its opening quote. -/
def ledText (lead : Text) (quote : Char) (r : Text) : Except String (Token × Text) := do
  let rest ← textRest quote r
  let body := r.take (r.length - rest.length)
  if !lead.contains 'b' then return (.text, rest)
  else if body.all fun c => c.toNat < 0x80 then return (.bytes, rest)
  else throw "bytes can only contain ASCII literal characters"

def strangeChar (c : Char) : String :=
  let digits := (Text.hexPadded 4 c.toNat).toUpper
  if Text.isPrintable c then "invalid character '" ++ String.ofList [c] ++ "' (U+" ++ digits ++ ")"
  else "invalid non-printable character U+" ++ digits

/-- The first token of a text that starts with no blank, and the rest. -/
def token (c : Char) (r : Text) : Except String (Token × Text) := do
  if isQuote c then return (.text, ← textRest c r)
  if c.isDigit || (c = '.' && r.head?.any Char.isDigit) then
    return (.number, ← numberRest (c :: r))
  if isNameChar c then
    let name := c :: r.takeWhile isNameChar
    let lead := name.map Char.toLower
    match r.drop (name.length - 1) with
    | quote :: rest =>
      if isQuote quote && textLeads.contains (String.ofList lead) then
        return ← ledText lead quote rest
    | [] => pure ()
    if let some stranger := Text.strangerInName? name then throw (strangeChar stranger)
    return (.name (String.ofList name), r.drop (name.length - 1))
  let mark := markOf (c :: r)
  return (.mark mark, (c :: r).drop mark.length)

def deepest : Nat := 200

def closerOf (c : Char) : Char := if c = '(' then ')' else '}'

def nest (openers : List Char) : Token → Except String (List Char)
  | .mark "(" => enter '('
  | .mark "\x7b" => enter '\x7b'
  | .mark ")" => close ')' openers
  | .mark "\x7d" => close '\x7d' openers
  | _ => .ok openers
where
  enter (c : Char) : Except String (List Char) :=
    if deepest ≤ openers.length then .error "too many nested parentheses"
    else .ok (c :: openers)
  close (c : Char) : List Char → Except String (List Char)
    | [] => .error ("unmatched '" ++ String.ofList [c] ++ "'")
    | o :: rest =>
      if closerOf o = c then .ok rest
      else
        .error ("closing parenthesis '" ++ String.ofList [c] ++
          "' does not match opening parenthesis '" ++ String.ofList [o] ++ "'")

/-- The tokens of a text and the brackets that stay open. Nothing is read after a
backslash. -/
def tokens : (fuel : Nat) → (openers : List Char) → Text → Except String (List Token × List Char)
  | 0, openers, _ => .ok ([], openers)
  | _, openers, [] => .ok ([], openers)
  | fuel + 1, openers, c :: r => do
    if c = ' ' || c = '\t' || c = '\x0c' || (c = '\n' && !openers.isEmpty) then
      tokens fuel openers r
    else if c = '#' then tokens fuel openers (r.dropWhile (· != '\n'))
    else if c = '\\' then .ok ([.mark "\\"], openers)
    else
      let (t, rest) ← token c r
      let (more, openers) ← tokens fuel (← nest openers t) rest
      .ok (t :: more, openers)

end CommandManual.Console.Expression
