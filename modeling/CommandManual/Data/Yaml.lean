import CommandManual.Text.Quoted
import CommandManual.Text.Search

/-!
Writing lists of flat records as YAML. A text is written plain where a reader
would take it for a text again, else between single quotes, and between double
quotes where it holds characters beyond printable ASCII or blanks that single
quotes would lose. Long texts are folded after eighty columns.
-/

namespace CommandManual.Yaml

def foldColumn : Nat := 80

def continuationIndent : Nat := 4

/-! ### Texts that would be read as something else -/

def isDigit (c : Char) : Bool := c.isDigit

def isDigitOrMark (c : Char) : Bool := c.isDigit || c = '_'

def words (s : String) : List String := (Text.words s.toList).map String.ofList

def boolWords : List String :=
  words "yes Yes YES no No NO true True TRUE false False FALSE on On ON off Off OFF"

def nullWords : List String := "" :: words "~ null Null NULL"

def otherWords : List String := words "<< = ! & *"

def dropSign : Text → Text
  | '-' :: r => r
  | '+' :: r => r
  | t => t

def isExponent : Text → Bool
  | [] => true
  | e :: sign :: digits =>
    (e = 'e' || e = 'E') && (sign = '-' || sign = '+') && !digits.isEmpty && digits.all isDigit
  | _ => false

/-- A minute or second: one digit, or two of which the first is at most five. -/
def isSixtieth (t : Text) : Bool :=
  match t with
  | [d] => isDigit d
  | [a, b] => '0' ≤ a && a ≤ '5' && isDigit b
  | _ => false

/-- Numbers by sixties: a first number, then colons with minutes or seconds. -/
def isSixties (first : Text → Bool) (t : Text) : Bool :=
  match Text.splitWhere (· == ':') t with
  | head :: part :: parts => first head && (part :: parts).all isSixtieth
  | _ => false

def isInteger (t : Text) : Bool :=
  let body := dropSign t
  let decimal (u : Text) : Bool :=
    match u with
    | d :: r => '1' ≤ d && d ≤ '9' && r.all isDigitOrMark
    | [] => false
  match body with
  | ['0'] => true
  | '0' :: 'b' :: r => !r.isEmpty && r.all fun c => c = '0' || c = '1' || c = '_'
  | '0' :: 'x' :: r =>
    !r.isEmpty && r.all fun c =>
      isDigitOrMark c || ('a' ≤ c && c ≤ 'f') || ('A' ≤ c && c ≤ 'F')
  | '0' :: r => r.all fun c => ('0' ≤ c && c ≤ '7') || c = '_'
  | body => decimal body || isSixties decimal body

def isFloat (t : Text) : Bool :=
  let body := dropSign t
  let number (u : Text) : Bool :=
    match u with
    | d :: r => isDigit d && r.all isDigitOrMark
    | [] => false
  let whole := body.takeWhile (· != '.')
  let places := body.drop (whole.length + 1)
  let hasPoint := body.any (· == '.')
  let afterPlaces := places.dropWhile isDigitOrMark
  (hasPoint && number whole && isExponent afterPlaces) ||
    (hasPoint && body == t && whole.isEmpty &&
      (match places with | d :: _ => isDigit d | [] => false) && isExponent afterPlaces) ||
    (hasPoint && places.all isDigitOrMark && isSixties number whole) ||
    [".inf".toList, ".Inf".toList, ".INF".toList].contains body ||
    [".nan".toList, ".NaN".toList, ".NAN".toList].contains t

/-- The rest of a text after between `least` and `most` digits. -/
def afterDigits (least most : Nat) (t : Text) : List Text :=
  let count := min most (t.takeWhile isDigit).length
  if count < least then []
  else (List.range (count + 1 - least)).map fun n => t.drop (least + n)

def afterChar (p : Char → Bool) (t : Text) : List Text :=
  match t with
  | c :: r => if p c then [r] else []
  | [] => []

def isGap (c : Char) : Bool := c = ' ' || c = '\t'

/-- A zone: nothing, or blanks with `Z` or a distance in hours and minutes. -/
def isZone (t : Text) : Bool :=
  t.isEmpty ||
    (let u := t.dropWhile isGap
     u == ['Z'] ||
      (((afterChar (fun c => c = '-' || c = '+') u).flatMap (afterDigits 1 2)).any fun r =>
        r.isEmpty || ((afterChar (· == ':') r).flatMap (afterDigits 2 2)).any List.isEmpty))

def isTimestamp (t : Text) : Bool :=
  let date (least : Nat) : List Text :=
    ((((afterDigits 4 4 t).flatMap (afterChar (· == '-'))).flatMap (afterDigits least 2)).flatMap
      (afterChar (· == '-'))).flatMap (afterDigits least 2)
  let gap (u : Text) : List Text :=
    afterChar (fun c => c = 'T' || c = 't') u ++
      (if (u.takeWhile isGap).isEmpty then [] else [u.dropWhile isGap])
  let clock (u : Text) : List Text :=
    ((((afterDigits 1 2 u).flatMap (afterChar (· == ':'))).flatMap (afterDigits 2 2)).flatMap
      (afterChar (· == ':'))).flatMap (afterDigits 2 2)
  let fraction (u : Text) : List Text :=
    u :: (afterChar (· == '.') u).flatMap fun r =>
      (List.range ((r.takeWhile isDigit).length + 1)).map r.drop
  (date 2).any List.isEmpty ||
    ((((date 1).flatMap gap).flatMap clock).flatMap fraction).any isZone

/-- Whether a plain text would be read as something else than a text. -/
def isResolved (s : String) : Bool :=
  let t := s.toList
  boolWords.contains s || nullWords.contains s || otherWords.contains s ||
    isInteger t || isFloat t || isTimestamp t

/-! ### Choice of style -/

inductive Style
  | plain
  | single
  | double
deriving DecidableEq, Repr

def isBreak (c : Char) : Bool :=
  c = '\n' || c.toNat == 0x85 || c.toNat == 0x2028 || c.toNat == 0x2029

def isSeparator (c : Char) : Bool :=
  c.toNat == 0 || c = ' ' || c = '\t' || c = '\r' || isBreak c

def isPlainAscii (c : Char) : Bool := 0x20 ≤ c.toNat && c.toNat ≤ 0x7e

/-- Whether the rest of a text, after the character `before`, holds a mark that
has a meaning of its own outside quotes. -/
def hasIndicator (before : Option Char) : Text → Bool
  | [] => false
  | c :: r =>
    let closed := match r with | [] => true | d :: _ => isSeparator d
    let here :=
      match before with
      | none =>
        "#,[]\x7b\x7d&*!|>'\"%@".toList.contains c || c.toNat == 0x60 ||
          ((c = '?' || c = ':' || c = '-') && closed)
      | some b => (c = ':' && closed) || (c = '#' && isSeparator b)
    here || hasIndicator (some c) r

/-- Whether one character class is followed by another somewhere. -/
def hasPair (p q : Char → Bool) : Text → Bool
  | a :: b :: r => (p a && q b) || hasPair p q (b :: r)
  | _ => false

def styleOf (s : String) : Style :=
  let t := s.toList
  let isSpace := fun c => c = ' '
  let special := t.any fun c => !(c = '\n' || isPlainAscii c)
  let edges := [t.head?, t.getLast?].any fun c => c.any fun c => isSpace c || isBreak c
  let markers := Text.startsWith "---".toList t || Text.startsWith "...".toList t
  let plain :=
    !(edges || special || t.any isBreak || markers || hasIndicator none t || isResolved s)
  if plain then .plain
  else if special || hasPair isBreak isSpace t || hasPair isSpace isBreak t then .double
  else .single

/-! ### Writing -/

def newLine : Text := '\n' :: List.replicate continuationIndent ' '

def runsOf (cls : Char → Nat) : Text → List Text
  | [] => []
  | c :: r =>
    match runsOf cls r with
    | (d :: run) :: runs =>
      if cls c = cls d then (c :: d :: run) :: runs else [c] :: (d :: run) :: runs
    | runs => [c] :: runs

/-- Writes runs of blanks and words from a column on; a single blank beyond the
fold column becomes a new line. -/
def writePlain : (column : Nat) → List Text → Text
  | _, [] => []
  | column, run :: rest =>
    if run == [' '] && column > foldColumn then
      newLine ++ writePlain continuationIndent rest
    else run ++ writePlain (column + run.length) rest

/-- Writes runs between single quotes: a quote is doubled, a line break leaves an
empty line, and a single blank inside the text may become a new line. -/
def writeSingle : (isFirst : Bool) → (column : Nat) → List Text → Text
  | _, _, [] => []
  | isFirst, column, run :: rest =>
    match run with
    | '\n' :: _ =>
      '\n' :: run ++ List.replicate continuationIndent ' ' ++
        writeSingle false continuationIndent rest
    | '\x27' :: _ =>
      let doubled := run ++ run
      doubled ++ writeSingle false (column + doubled.length) rest
    | run =>
      if run == [' '] && column > foldColumn && !isFirst && !rest.isEmpty then
        newLine ++ writeSingle false continuationIndent rest
      else run ++ writeSingle false (column + run.length) rest

def escapeLetters : List (Nat × Char) :=
  [(0, '0'), (7, 'a'), (8, 'b'), (9, 't'), (10, 'n'), (11, 'v'), (12, 'f'), (13, 'r'),
    (0x1b, 'e'), (0x22, '\x22'), (0x5c, '\\'), (0x85, 'N'), (0xa0, '_'), (0x2028, 'L'),
    (0x2029, 'P')]

def escape? (c : Char) : Option Text :=
  let n := c.toNat
  let upper (s : String) : Text := s.toList.map Char.toUpper
  match escapeLetters.lookup n with
  | some letter => some ['\\', letter]
  | none =>
    if isPlainAscii c then none
    else if n ≤ 0xff then some ("\\x".toList ++ upper (Text.hexPadded 2 n))
    else if n ≤ 0xffff then some ("\\u".toList ++ upper (Text.hexPadded 4 n))
    else some ("\\U".toList ++ upper (Text.hexPadded 8 n))

/-- Writes characters between double quotes from a column on. `held` characters
before the next one, in reverse, are not written yet; `isFirst` holds for the
first character of the text. -/
def writeDouble : (isFirst : Bool) → (column : Nat) → (held : Text) → Text → Text
  | _, _, held, [] => held.reverse
  | isFirst, column, held, c :: r =>
    let inside := !isFirst && !r.isEmpty
    match escape? c with
    | some e =>
      let written := held.reverse ++ e
      let column := column + written.length
      if inside && column > foldColumn + 1 then
        let shield := if r.head? == some ' ' then ['\\'] else []
        written ++ '\\' :: newLine ++ shield ++
          writeDouble false (continuationIndent + shield.length) [] r
      else written ++ writeDouble false column [] r
    | none =>
      if inside && (c = ' ' || held.isEmpty) && column + held.length > foldColumn then
        let shield := if c = ' ' then ['\\'] else []
        held.reverse ++ '\\' :: newLine ++ shield ++
          writeDouble false (continuationIndent + shield.length) [c] r
      else writeDouble false column (c :: held) r

def writeText (column : Nat) (s : String) : Text :=
  let t := s.toList
  match styleOf s with
  | .plain => ' ' :: writePlain (column + 1) (runsOf (fun c => if c = ' ' then 0 else 1) t)
  | .single =>
    let cls (c : Char) : Nat :=
      if c = ' ' then 0 else if c = '\n' then 1 else if c = '\x27' then 2 else 3
    " '".toList ++ writeSingle true (column + 2) (runsOf cls t) ++ ['\x27']
  | .double => " \"".toList ++ writeDouble true (column + 2) [] t ++ ['"']

def writeField (start : Text) (key : String) (value : Option String) : Text :=
  let head := start ++ key.toList ++ [':']
  head ++ (match value with
    | some s => writeText head.length s
    | none => " null".toList) ++ ['\n']

def writeRecord : List (String × Option String) → Text
  | [] => "- \x7b\x7d\n".toList
  | (key, value) :: rest =>
    writeField ['-', ' '] key value ++ rest.flatMap fun (k, v) => writeField [' ', ' '] k v

def writeRecords (records : List (List (String × Option String))) : Text :=
  if records.isEmpty then "[]\n".toList else records.flatMap writeRecord

end CommandManual.Yaml
