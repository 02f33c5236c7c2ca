import CommandManual.Data.Value
import CommandManual.Text.Search

/-!
Reading TOML values: strings of four kinds, numbers, dates and times, arrays and
inline tables. What a reader leaves of the text is part of its result.
-/

namespace CommandManual.Toml

inductive Error
  | malformed
  | longInteger (digits : Nat)
  /-- The values are nested deeper than the reader goes. -/
  | tooDeep
deriving DecidableEq, Repr

abbrev Reader (α : Type) := Text → Except Error (α × Text)

def isSpace (c : Char) : Bool := c = ' ' || c = '\t'

def isSpaceOrBreak (c : Char) : Bool := isSpace c || c = '\n'

def skipSpace (t : Text) : Text := t.dropWhile isSpace

def isControl (c : Char) : Bool := (c.toNat < 0x20 && c != '\t') || c.toNat = 0x7f

def skipComment : Text → Except Error Text
  | '#' :: r =>
    let comment := r.takeWhile (· != '\n')
    if comment.any isControl then .error .malformed else .ok (r.drop comment.length)
  | t => .ok t

def skipFiller : (fuel : Nat) → Text → Except Error Text
  | 0, t => .ok t
  | fuel + 1, t =>
    match t.dropWhile isSpaceOrBreak with
    | '#' :: r =>
      match skipComment ('#' :: r) with
      | .error e => .error e
      | .ok rest => skipFiller fuel rest
    | rest => .ok rest

/-! ### Strings -/

def hexValue? (c : Char) : Option Nat :=
  if c.isDigit then some (c.toNat - 48)
  else if 'a' ≤ c && c ≤ 'f' then some (c.toNat - 87)
  else if 'A' ≤ c && c ≤ 'F' then some (c.toNat - 55)
  else none

def hexChar (count : Nat) : Reader Char := fun t =>
  match (t.take count).mapM hexValue? with
  | none => .error .malformed
  | some digits =>
    let code := digits.foldl (fun n d => n * 16 + d) 0
    if digits.length = count && code.isValidChar then .ok (Char.ofNat code, t.drop count)
    else .error .malformed

def escapeLetters : List (Char × Char) :=
  [('b', '\x08'), ('t', '\t'), ('n', '\n'), ('f', '\x0c'), ('r', '\r'), ('"', '"'), ('\\', '\\')]

/-- Drops the blanks after a backslash at the end of a line, and the line end. -/
def joinLines (t : Text) : Except Error Text :=
  match skipSpace t with
  | [] => .ok []
  | '\n' :: r => .ok (r.dropWhile isSpaceOrBreak)
  | _ => .error .malformed

def escape (multiline : Bool) : Reader Text
  | [] => .error .malformed
  | c :: r =>
    if multiline && isSpaceOrBreak c then do .ok ([], ← joinLines (c :: r))
    else if c = 'u' then do
      let (d, rest) ← hexChar 4 r
      .ok ([d], rest)
    else if c = 'U' then do
      let (d, rest) ← hexChar 8 r
      .ok ([d], rest)
    else
      match escapeLetters.lookup c with
      | some d => .ok ([d], r)
      | none => .error .malformed

/-- The rest of a string with escapes, up to the quotes that end it. -/
def escapedBody (multiline : Bool) : (fuel : Nat) → Reader Text
  | 0, _ => .error .malformed
  | _, [] => .error .malformed
  | fuel + 1, c :: r =>
    if c = '"' && !multiline then .ok ([], r)
    else if c = '"' && Text.startsWith ['"', '"'] r then .ok ([], r.drop 2)
    else if c = '\\' then do
      let (here, rest) ← escape multiline r
      let (body, rest) ← escapedBody multiline fuel rest
      .ok (here ++ body, rest)
    else if isControl c && !(multiline && c = '\n') then .error .malformed
    else do
      let (body, rest) ← escapedBody multiline fuel r
      .ok (c :: body, rest)

def apostrophe : Char := '\x27'

/-- The rest of a string without escapes, up to the mark that ends it. -/
def literalBody (multiline : Bool) (mark : Text) : Reader Text := fun t =>
  match Text.cut? mark t with
  | none => .error .malformed
  | some (body, rest) =>
    if body.any fun c => isControl c && !(multiline && c = '\n') then .error .malformed
    else .ok (body, rest)

/-- Up to two quotes that come before the three that end a string of lines. -/
def finalQuotes (quote : Char) (body rest : Text) : Text × Text :=
  let extra := (rest.take 2).takeWhile (· == quote)
  (body ++ extra, rest.drop extra.length)

def dropFirstBreak : Text → Text
  | '\n' :: r => r
  | t => t

def lineString : Reader Text
  | [] => .error .malformed
  | c :: r =>
    if c = '"' then escapedBody false (r.length + 1) r
    else if c = apostrophe then literalBody false [apostrophe] r
    else .error .malformed

def string : Reader Text := fun t =>
  let triple (q : Char) := Text.after? [q, q, q] t
  match triple '"', triple apostrophe with
  | some r, _ => do
    let (body, rest) ← escapedBody true (t.length + 1) (dropFirstBreak r)
    .ok (finalQuotes '"' body rest)
  | none, some r => do
    let (body, rest) ← literalBody true [apostrophe, apostrophe, apostrophe] (dropFirstBreak r)
    .ok (finalQuotes apostrophe body rest)
  | none, none => lineString t

/-! ### Keys -/

def isBareKey (c : Char) : Bool := c.isAlphanum || c = '-' || c = '_'

def keyPart : Reader String := fun t =>
  let bare := t.takeWhile isBareKey
  if bare.isEmpty then do
    let (name, rest) ← lineString t
    .ok (String.ofList name, rest)
  else .ok (String.ofList bare, t.drop bare.length)

def key : (fuel : Nat) → Reader (List String)
  | 0, _ => .error .malformed
  | fuel + 1, t => do
    let (name, rest) ← keyPart t
    match skipSpace rest with
    | '.' :: r =>
      let (names, rest) ← key fuel (skipSpace r)
      .ok (name :: names, rest)
    | rest => .ok ([name], rest)

/-! ### Dates and times -/

def natOf (digits : Text) : Nat := digits.foldl (fun n c => n * 10 + (c.toNat - 48)) 0

def fixedNumber? (count low high : Nat) (t : Text) : Option (Nat × Text) :=
  let digits := t.take count
  let n := natOf digits
  if digits.length = count && digits.all Char.isDigit && low ≤ n && n ≤ high then
    some (n, t.drop count)
  else none

/-- The digits of a fraction as millionths; those after the sixth are dropped. -/
def fraction (t : Text) : Nat × Text :=
  match t with
  | '.' :: r =>
    let digits := r.takeWhile Char.isDigit
    if digits.isEmpty then (0, t)
    else
      let six := digits.take 6
      (natOf six * Binary64.tenTo (6 - six.length), r.drop digits.length)
  | t => (0, t)

def timeOfDay? (t : Text) : Option (TimeOfDay × Text) := do
  let (hour, t) ← fixedNumber? 2 0 23 t
  let t ← Text.after? [':'] t
  let (minute, t) ← fixedNumber? 2 0 59 t
  let t ← Text.after? [':'] t
  let (second, t) ← fixedNumber? 2 0 59 t
  let (microsecond, t) := fraction t
  return (⟨hour, minute, second, microsecond⟩, t)

def date? (t : Text) : Option (Date × Text) := do
  let (year, t) ← fixedNumber? 4 0 9999 t
  let t ← Text.after? ['-'] t
  let (month, t) ← fixedNumber? 2 1 12 t
  let t ← Text.after? ['-'] t
  let (day, t) ← fixedNumber? 2 1 31 t
  return (⟨year, month, day⟩, t)

def offset? : Text → Option (Int × Text)
  | [] => none
  | c :: r =>
    if c = 'Z' || c = 'z' then some (0, r)
    else if c = '+' || c = '-' then do
      let (hour, t) ← fixedNumber? 2 0 23 r
      let t ← Text.after? [':'] t
      let (minute, t) ← fixedNumber? 2 0 59 t
      let distance : Int := hour * 60 + minute
      return (if c = '-' then -distance else distance, t)
    else none

def moment? (t : Text) : Option (Date × Option (TimeOfDay × Option Int) × Text) := do
  let (date, t) ← date? t
  let time :=
    match t with
    | c :: r => if c = 'T' || c = 't' || c = ' ' then timeOfDay? r else none
    | [] => none
  match time with
  | none => return (date, none, t)
  | some (time, t) =>
    match offset? t with
    | none => return (date, some (time, none), t)
    | some (offset, t) => return (date, some (time, some offset), t)

/-! ### Numbers -/

/-- Goes on with digits, before each of which one underscore may stand. -/
def moreDigits (p : Char → Bool) : Text → Text × Text
  | [] => ([], [])
  | [c] => if p c then ([c], []) else ([], [c])
  | c :: d :: r =>
    if p c then
      let (digits, rest) := moreDigits p (d :: r)
      (c :: digits, rest)
    else if c = '_' && p d then
      let (digits, rest) := moreDigits p r
      (d :: digits, rest)
    else ([], c :: d :: r)

def digits? (p : Char → Bool) : Text → Option (Text × Text)
  | [] => none
  | c :: r =>
    if p c then
      let (digits, rest) := moreDigits p r
      some (c :: digits, rest)
    else none

def isHexDigit (c : Char) : Bool := (hexValue? c).isSome

def isOctalDigit (c : Char) : Bool := '0' ≤ c && c ≤ '7'

def isBinaryDigit (c : Char) : Bool := c = '0' || c = '1'

def inBase (base : Nat) (digits : Text) : Int :=
  digits.foldl (fun n c => n * base + (hexValue? c).getD 0) 0

def basedInteger? (t : Text) : Option (Int × Text) :=
  let read (base : Nat) (p : Char → Bool) (r : Text) : Option (Int × Text) :=
    (digits? p r).map fun (digits, rest) => (inBase base digits, rest)
  match t with
  | '0' :: 'x' :: r => read 16 isHexDigit r
  | '0' :: 'o' :: r => read 8 isOctalDigit r
  | '0' :: 'b' :: r => read 2 isBinaryDigit r
  | _ => none

def sign : Text → Bool × Text
  | '-' :: r => (true, r)
  | '+' :: r => (false, r)
  | t => (false, t)

/-- The digits before the point: a single zero, or no zero in front. -/
def wholeDigits? : Text → Option (Text × Text)
  | '0' :: r => some (['0'], r)
  | t => digits? Char.isDigit t

def fractionDigits (t : Text) : Text × Text :=
  match t with
  | '.' :: r => (digits? Char.isDigit r).getD ([], t)
  | t => ([], t)

def exponent? (t : Text) : Option (Int × Text) :=
  match t with
  | [] => none
  | c :: r =>
    if c = 'e' || c = 'E' then
      let (negative, r) := sign r
      (digits? Char.isDigit r).map fun (digits, rest) =>
        (if negative then -(natOf digits : Int) else natOf digits, rest)
    else none

def integerLimit : Nat := 4300

def decimal? (t : Text) : Option (Except Error Value × Text) := do
  let (negative, r) := sign t
  let (whole, rest) ← wholeDigits? r
  let (fraction, rest) := fractionDigits rest
  match exponent? rest with
  | some (exponent, rest) =>
    return (.ok (.float (Binary64.ofDecimal negative (natOf (whole ++ fraction))
      (exponent - fraction.length))), rest)
  | none =>
    if fraction.isEmpty then
      if whole.length > integerLimit then return (.error (.longInteger whole.length), rest)
      else
        let n : Int := natOf whole
        return (.ok (.int (if negative then -n else n)), rest)
    else
      return (.ok (.float (Binary64.ofDecimal negative (natOf (whole ++ fraction))
        (-(fraction.length : Int)))), rest)

def namedNumber? (t : Text) : Option (Value × Text) :=
  let (negative, r) := sign t
  match Text.after? "inf".toList r, Text.after? "nan".toList r with
  | some rest, _ => some (.float (.infinite negative), rest)
  | none, some rest => some (.float .nan, rest)
  | none, none => none

/-! ### Values -/

def readNumber : Reader Value := fun t =>
  match basedInteger? t, decimal? t, namedNumber? t with
  | some (n, rest), _, _ => .ok (.int n, rest)
  | none, some (v, rest), _ => do .ok (← v, rest)
  | none, none, some result => .ok result
  | none, none, none => .error .malformed

def scalar : Reader Value := fun t =>
  match t with
  | [] => .error .malformed
  | c :: _ =>
    if c = '"' || c = apostrophe then do
      let (s, rest) ← string t
      .ok (.str (String.ofList s), rest)
    else
      match Text.after? "true".toList t, Text.after? "false".toList t with
      | some rest, _ => .ok (.bool true, rest)
      | _, some rest => .ok (.bool false, rest)
      | none, none =>
        match moment? t with
        | some (date, time, rest) =>
          if !date.isValid then .error .malformed
          else
            match time with
            | none => .ok (.date date, rest)
            | some (time, offset) => .ok (.timestamp ⟨date, time, offset⟩, rest)
        | none =>
          match timeOfDay? t with
          | some (time, rest) => .ok (.time time, rest)
          | none => readNumber t

/-- The members of an array, after its bracket; a comma may follow the last. -/
def arrayMembers (value : Reader Value) : (fuel : Nat) → Reader (List Value)
  | 0, _ => .error .malformed
  | fuel + 1, t => do
    match ← skipFiller (t.length + 1) t with
    | ']' :: rest => .ok ([], rest)
    | t =>
      let (v, rest) ← value t
      match ← skipFiller (rest.length + 1) rest with
      | ']' :: rest => .ok ([v], rest)
      | ',' :: rest =>
        let (vs, rest) ← arrayMembers value fuel rest
        .ok (v :: vs, rest)
      | _ => .error .malformed

def keyValue (value : Reader Value) : Reader (List String × Value) := fun t => do
  match ← key (t.length + 1) t with
  | (names, '=' :: rest) =>
    let (v, rest) ← value (skipSpace rest)
    .ok ((names, v), rest)
  | _ => .error .malformed

def tablePairs (value : Reader Value) : (fuel : Nat) → Reader (List (List String × Value))
  | 0, _ => .error .malformed
  | fuel + 1, t => do
    let (pair, rest) ← keyValue value t
    match skipSpace rest with
    | '\x7d' :: rest => .ok ([pair], rest)
    | ',' :: rest =>
      let (pairs, rest) ← tablePairs value fuel (skipSpace rest)
      .ok (pair :: pairs, rest)
    | _ => .error .malformed

end CommandManual.Toml
