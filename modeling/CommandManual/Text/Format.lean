import CommandManual.Data.Misuse
import CommandManual.Data.Value
import CommandManual.Number.Places
import CommandManual.Text.Digits

/-!
Format specifications: how a value is laid out in a column, with fill,
alignment, sign, grouping of digits, precision and form.
-/

namespace CommandManual

inductive TemplateError
  /-- The template or a specification in it is not well formed for its value. -/
  | malformed (detail : String)
  /-- A name is not among the values; the text is the name as messages show it. -/
  | noKey (shown : String)
  | noIndex (detail : String)
  | wrongKind (detail : String)
  | misuse (m : Misuse)
  | noClassMember (className member : String)
  | noCharacter
  /-- A number beyond the range of machine integers; their name is given. -/
  | beyondMachine (machine : String)
  | infiniteNumber
  | longInteger
deriving DecidableEq, Repr

namespace TemplateError

def kindName : TemplateError → String
  | malformed _ => "ValueError"
  | noKey _ => "KeyError"
  | noIndex _ => "IndexError"
  | wrongKind _ => "TypeError"
  | misuse m => m.kindName
  | noClassMember .. => "AttributeError"
  | noCharacter | beyondMachine _ | infiniteNumber | longInteger => "OverflowError"

def message : TemplateError → String
  | malformed detail => detail
  | noKey shown => shown
  | noIndex detail => detail
  | wrongKind detail => detail
  | misuse m => m.message
  | noClassMember className member =>
    "type object '" ++ className ++ "' has no attribute '" ++ member ++ "'"
  | noCharacter => "%c arg not in range(0x110000)"
  | beyondMachine machine => "Python int too large to convert to C " ++ machine
  | infiniteNumber => "cannot convert float infinity to integer"
  | longInteger => "int too large to convert to float"

end TemplateError

structure FormatSpec where
  fill : Char := ' '
  align : Option Char := none
  sign : Option Char := none
  noNegativeZero : Bool := false
  alternate : Bool := false
  width : Nat := 0
  grouping : Option Char := none
  precision : Option Nat := none
  form : Option Char := none
deriving DecidableEq, Repr

namespace FormatSpec

def isAlign (c : Char) : Bool := c = '<' || c = '>' || c = '=' || c = '^'

def isDigit (c : Char) : Bool := '0' ≤ c && c ≤ '9'

/-- The number at the front of a text, after digits that gave `n`, and the rest.
Digits of all scripts count; a number that is too large is refused as soon as
it is. -/
def numberFrom : (n : Nat) → Text → Except TemplateError (Nat × Text)
  | n, [] => .ok (n, [])
  | n, c :: r =>
    match Text.digitValue? c with
    | none => .ok (n, c :: r)
    | some d =>
      if n * 10 + d > 9223372036854775807 then
        .error (.malformed "Too many decimal digits in format string")
      else numberFrom (n * 10 + d) r

def number (t : Text) : Except TemplateError (Nat × Text) := numberFrom 0 t

def shownCode (c : Char) : String :=
  if c.toNat > 32 && c.toNat < 128 then String.ofList [c]
  else "\\x" ++ String.ofList (Nat.toDigits 16 c.toNat)

def alignment (t : Text) : Option Char × Option Char × Text :=
  match t with
  | f :: a :: r => if isAlign a then (some f, some a, r) else single t
  | t => single t
where
  single : Text → Option Char × Option Char × Text
    | a :: r => if isAlign a then (none, some a, r) else (none, none, a :: r)
    | [] => (none, none, [])

def flag (c : Char) (t : Text) : Bool × Text :=
  match t with
  | d :: r => if d = c then (true, r) else (false, d :: r)
  | [] => (false, [])

/-- Reads a specification for a value of some kind. Numbers go to the right of
their column, all else to the left. -/
def parse (kind : String) (numeric : Bool) (spec : Text) : Except TemplateError FormatSpec := do
  let (fill, align, t) := alignment spec
  let (sign, t) :=
    match t with
    | c :: r => if c = ' ' || c = '+' || c = '-' then (some c, r) else (none, c :: r)
    | [] => (none, [])
  let (noNegativeZero, t) := flag 'z' t
  let (alternate, t) := flag '#' t
  let (zero, t) := if fill.isNone then flag '0' t else (false, t)
  let align := if zero && align.isNone && numeric then some '=' else align
  let (width, t) ← number t
  let (comma, t) := flag ',' t
  let (underscore, t) := flag '_' t
  if comma && underscore then throw (.malformed "Cannot specify both ',' and '_'.")
  if underscore && t.head? == some ',' then
    throw (.malformed "Cannot specify both ',' and '_'.")
  let (point, t) := flag '.' t
  let (precision, t) ←
    if point then
      if ((t.head?.bind Text.digitValue?)).isNone then
        throw (.malformed "Format specifier missing precision")
      else do
        let (n, t) ← number t
        pure (some n, t)
    else pure (none, t)
  if t.length > 1 then
    throw (.malformed ("Invalid format specifier '" ++ String.ofList spec ++
      "' for object of type '" ++ kind ++ "'"))
  let grouping := if comma then some ',' else if underscore then some '_' else none
  let form := t.head?
  match grouping, (if numeric then form else some (form.getD 's')) with
  | some g, some c =>
    if !("defgEG%F\x00".toList.contains c || (g = '_' && "boxX".toList.contains c)) then
      throw (.malformed ("Cannot specify '" ++ String.ofList [g] ++ "' with '" ++
        shownCode c ++ "'."))
  | _, _ => pure ()
  return {
    fill := fill.getD (if zero then '0' else ' ')
    align, sign, noNegativeZero, alternate, width, grouping, precision, form }

def pad (spec : FormatSpec) (default : Char) (lead body : Text) : Text :=
  let missing := spec.width - (lead.length + body.length)
  let fill (n : Nat) : Text := List.replicate n spec.fill
  match spec.align.getD default with
  | '<' => lead ++ body ++ fill missing
  | '^' => fill (missing / 2) ++ lead ++ body ++ fill (missing - missing / 2)
  | '=' => lead ++ fill missing ++ body
  | _ => fill missing ++ lead ++ body

def groupReversed (size : Nat) (mark : Char) : (count : Nat) → Text → Text
  | _, [] => []
  | count, d :: r =>
    if count = size then mark :: d :: groupReversed size mark 1 r
    else d :: groupReversed size mark (count + 1) r

def groupDigits (size : Nat) (mark : Char) (digits : Text) : Text :=
  (groupReversed size mark 0 digits.reverse).reverse

/-- Puts zeros before digits until, grouped, they fill `width` columns. -/
def groupPadded (size : Nat) (mark : Char) (width : Nat) : (fuel : Nat) → Text → Text
  | 0, digits => groupDigits size mark digits
  | fuel + 1, digits =>
    let grouped := groupDigits size mark digits
    if grouped.length ≥ width then grouped else groupPadded size mark width fuel ('0' :: digits)

/-- Groups the digits before the point or exponent; zeros that fill a column
are grouped as well. -/
def grouped (spec : FormatSpec) (size leadLength : Nat) (body : Text) : Text :=
  match spec.grouping with
  | none => body
  | some mark =>
    let whole := body.takeWhile fun c => c.isAlphanum
    let whole := if body.any (· == '.') || size = 4 then whole else body.takeWhile isDigit
    let rest := body.drop whole.length
    if spec.fill = '0' && spec.align == some '=' then
      groupPadded size mark (spec.width - leadLength - rest.length) spec.width whole ++ rest
    else groupDigits size mark whole ++ rest

def signText (spec : FormatSpec) (negative : Bool) : Text :=
  if negative then ['-']
  else
    match spec.sign with
    | some '+' => ['+']
    | some ' ' => [' ']
    | _ => []

def applyText (spec : FormatSpec) (kind : String) (s : Text) : Except TemplateError Text := do
  if spec.form.isSome && spec.form != some 's' then
    throw (.malformed ("Unknown format code '" ++ shownCode (spec.form.getD 's') ++
      "' for object of type '" ++ kind ++ "'"))
  if spec.sign == some ' ' then
    throw (.malformed "Space not allowed in string format specifier")
  if spec.sign.isSome then throw (.malformed "Sign not allowed in string format specifier")
  if spec.noNegativeZero then
    throw (.malformed "Negative zero coercion (z) not allowed in string format specifier")
  if spec.alternate then
    throw (.malformed "Alternate form (#) not allowed in string format specifier")
  if spec.align == some '=' then
    throw (.malformed "'=' alignment not allowed in string format specifier")
  return spec.pad '<' [] ((spec.precision.map s.take).getD s)

/-- A hundredfold number, itself rounded, with a percent sign. -/
def percent (hundredfold : Binary64) (places : Nat) (point : Bool) : String :=
  match hundredfold with
  | .finite _ m e =>
    let (num, den) := Binary64.ratio m e
    Binary64.fixed num den places point ++ "%"
  | _ => "inf%"

def pointed (point : Bool) (s : String) : String :=
  if point && !s.toList.contains '.' then
    let mantissa := s.toList.takeWhile (· != 'e')
    String.ofList (mantissa ++ '.' :: s.toList.drop mantissa.length)
  else s

def applyFloat (spec : FormatSpec) (kind : String) (x : Binary64) :
    Except TemplateError Text := do
  let form := if spec.form == some '\x00' then 'r' else spec.form.getD 'r'
  if !"eEfFgGn%r".toList.contains form || spec.form == some 'r' then
    throw (.malformed ("Unknown format code '" ++ shownCode form ++ "' for object of type '" ++
      kind ++ "'"))
  let upper := form = 'E' || form = 'F' || form = 'G'
  let (negative, body) :=
    match x with
    | .nan => (false, "nan")
    | .infinite negative => (negative, "inf")
    | .finite negative m e =>
      let (num, den) := Binary64.ratio m e
      let places := spec.precision.getD 6
      let text :=
        match form with
        | 'e' | 'E' => Binary64.scientific num den places spec.alternate
        | 'f' | 'F' => Binary64.fixed num den places spec.alternate
        | '%' => percent (Binary64.ofRatio false (num * 100) den) places spec.alternate
        | 'r' =>
          match spec.precision with
          | some p => Binary64.general num den p spec.alternate true
          | none => pointed spec.alternate (Binary64.finite false m e).toText
        | _ => Binary64.general num den places spec.alternate false
      (negative, text)
  let mantissa := body.toList.takeWhile (· != 'e')
  let isZeroText := mantissa.all fun c => c = '0' || c = '.' || c = '%'
  let negative := negative && !(spec.noNegativeZero && isZeroText)
  let body := if upper then body.toList.map Char.toUpper else body.toList
  let lead := spec.signText negative
  let isFinite := match x with | .finite .. => true | _ => false
  let body := if isFinite then spec.grouped 3 lead.length body else body
  return spec.pad '>' lead body

/-- Digits of a number in the base of a form, and what stands before them in
the alternate form. -/
def inBase (form : Char) (n : Nat) : Text × Text :=
  match form with
  | 'b' => (Nat.toDigits 2 n, ['0', 'b'])
  | 'o' => (Nat.toDigits 8 n, ['0', 'o'])
  | 'x' => (Nat.toDigits 16 n, ['0', 'x'])
  | 'X' => ((Nat.toDigits 16 n).map Char.toUpper, ['0', 'X'])
  | _ => (Nat.toDigits 10 n, [])

def applyInt (spec : FormatSpec) (kind : String) (n : Int) : Except TemplateError Text := do
  let form := spec.form.getD 'd'
  if "eEfFgG%".toList.contains form then
    match Binary64.ofRatio (n < 0) n.natAbs 1 with
    | .infinite _ => throw .longInteger
    | x => return (← spec.applyFloat kind x)
  if !"bcdoxXn".toList.contains form then
    throw (.malformed ("Unknown format code '" ++ shownCode form ++ "' for object of type '" ++
      kind ++ "'"))
  if spec.precision.isSome then
    throw (.malformed "Precision not allowed in integer format specifier")
  if spec.noNegativeZero then
    throw (.malformed "Negative zero coercion (z) not allowed in integer format specifier")
  if form = 'c' then
    if spec.sign.isSome then
      throw (.malformed "Sign not allowed with integer format specifier 'c'")
    if spec.alternate then
      throw (.malformed "Alternate form (#) not allowed with integer format specifier 'c'")
    if n < -9223372036854775808 || n > 9223372036854775807 then throw (.beyondMachine "long")
    if n < 0 || n > 0x10ffff then throw .noCharacter
    return spec.pad '>' [] [Char.ofNat n.toNat]
  let (digits, mark) := inBase form n.natAbs
  let lead := spec.signText (n < 0) ++ (if spec.alternate then mark else [])
  let size := if "boxX".toList.contains form then 4 else 3
  return spec.pad '>' lead (spec.grouped size lead.length digits)

end FormatSpec

def Value.format (v : Value) (spec : Text) : Except TemplateError Text :=
  if spec.isEmpty then .ok v.display.toList
  else
    match v with
    | .str s => do (← FormatSpec.parse "str" false spec).applyText "str" s.toList
    | .bool b => do (← FormatSpec.parse "bool" true spec).applyInt "bool" (if b then 1 else 0)
    | .int n => do (← FormatSpec.parse "int" true spec).applyInt "int" n
    | .float x => do (← FormatSpec.parse "float" true spec).applyFloat "float" x
    | v =>
      .error (.wrongKind ("unsupported format string passed to " ++ v.kindName ++ ".__format__"))

end CommandManual
