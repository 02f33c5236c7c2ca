import CommandManual.Text.Format

/-!
Percent templates: text in which a percent sign starts a conversion, with flags,
width and precision, of the next value. A single table of values is addressed
by keys in parentheses instead.
-/

namespace CommandManual.Percent

structure Flags where
  left : Bool := false
  plus : Bool := false
  blank : Bool := false
  alternate : Bool := false
  zero : Bool := false
deriving DecidableEq, Repr

structure Supply where
  /-- The table that keys address. -/
  table : Option (List (String × Value))
  /-- The values that conversions take in order. -/
  queue : List Value
deriving Repr

def Supply.ofList (values : List Value) : Supply :=
  match values with
  | [.table fields] =>
    if fields.isEmpty then ⟨none, values⟩ else ⟨some fields, values⟩
  | values => ⟨none, values⟩

def Supply.next (s : Supply) : Except TemplateError (Value × Supply) :=
  match s.queue with
  | v :: rest => .ok (v, { s with queue := rest })
  | [] => .error (.wrongKind "not enough arguments for format string")

def isFlag (c : Char) : Bool := c = '-' || c = '+' || c = ' ' || c = '#' || c = '0'

def flagsOf (t : Text) : Flags where
  left := t.any (· == '-')
  plus := t.any (· == '+')
  blank := t.any (· == ' ')
  alternate := t.any (· == '#')
  zero := t.any (· == '0')

def keyEnd : (depth : Nat) → Text → Option (Text × Text)
  | _, [] => none
  | depth, c :: r =>
    if c = ')' && depth = 0 then some ([], r)
    else
      let depth := if c = '(' then depth + 1 else if c = ')' then depth - 1 else depth
      (keyEnd depth r).map fun (k, rest) => (c :: k, rest)

/-- Takes the value under a key out of the table as the next value. -/
def selectKey (s : Supply) : Text → Except TemplateError (Supply × Text)
  | '(' :: r =>
    match s.table with
    | none => .error (.wrongKind "format requires a mapping")
    | some fields =>
      match keyEnd 0 r with
      | none => .error (.malformed "incomplete format key")
      | some (name, rest) =>
        let name := String.ofList name
        match fields.lookup name with
        | some v => .ok ({ s with queue := [v] }, rest)
        | none => .error (.noKey (Text.quoted name))
  | t => .ok (s, t)

def amountLimit : Nat := 2147483647

/-- The machine integers that hold a width or a precision, with their limit. -/
structure Machine where
  name : String
  limit : Nat

def widthMachine : Machine := ⟨"ssize_t", 9223372036854775807⟩

def precisionMachine : Machine := ⟨"int", amountLimit⟩

def amount (what : String) (machine : Machine) (s : Supply) (t : Text) :
    Except TemplateError (Option Int × Supply × Text) := do
  let (n, s, t) ←
    match t with
    | '*' :: r => do
      let (v, s) ← s.next
      match v with
      | .int n =>
        if n > machine.limit || n < -((machine.limit : Int) + 1) then
          .error (.beyondMachine machine.name)
        else .ok (some n, s, r)
      | .bool b => .ok (some (if b then 1 else 0), s, r)
      | _ => .error (.wrongKind "* wants int")
    | t =>
      let digits := t.takeWhile Char.isDigit
      let n : Int := (digits.foldl (fun n c => n * 10 + (c.toNat - 48)) 0 : Nat)
      .ok (if digits.isEmpty then none else some n, s, t.drop digits.length)
  if (n.getD 0).natAbs > amountLimit then .error (.malformed (what ++ " too big"))
  else .ok (n, s, t)

/-! ### Conversions -/

/-- A column layout: what stands before the fill is sign and base mark. -/
def layOut (flags : Flags) (width : Nat) (zero : Bool) (lead body : Text) : Text :=
  let missing := width - (lead.length + body.length)
  if flags.left then lead ++ body ++ List.replicate missing ' '
  else if zero then lead ++ List.replicate missing '0' ++ body
  else List.replicate missing ' ' ++ lead ++ body

def signOf (flags : Flags) (negative : Bool) : Text :=
  if negative then ['-'] else if flags.plus then ['+'] else if flags.blank then [' '] else []

def wholeNumber (form : Char) (v : Value) : Except TemplateError Int :=
  let based := form = 'o' || form = 'x' || form = 'X'
  match v with
  | .int n => .ok n
  | .bool b => .ok (if b then 1 else 0)
  | .float x =>
    if based then wrong else
      match x with
      | .nan => .error (.malformed "cannot convert float NaN to integer")
      | .infinite _ => .error .infiniteNumber
      | .finite negative m e =>
        let (num, den) := Binary64.ratio m e
        .ok (if negative then -((num / den : Nat) : Int) else (num / den : Nat))
  | _ => wrong
where
  wrong : Except TemplateError Int :=
    let needed :=
      if form = 'o' || form = 'x' || form = 'X' then "an integer" else "a real number"
    .error (.wrongKind ("%" ++ String.ofList [form] ++ " format: " ++ needed ++
      " is required, not " ++ v.kindName))

def integerText (flags : Flags) (precision : Option Nat) (form : Char) (n : Int) : Text × Text :=
  let (digits, mark) := FormatSpec.inBase form n.natAbs
  let digits := List.replicate (precision.getD 0 - digits.length) '0' ++ digits
  (signOf flags (n < 0) ++ (if flags.alternate then mark else []), digits)

def floatOf (v : Value) : Except TemplateError Binary64 :=
  match v with
  | .float x => .ok x
  | .int n =>
    match Binary64.ofRatio (n < 0) n.natAbs 1 with
    | .infinite _ => .error .longInteger
    | x => .ok x
  | .bool b => .ok (Binary64.ofRatio false (if b then 1 else 0) 1)
  | v => .error (.wrongKind ("must be real number, not " ++ v.kindName))

def floatText (flags : Flags) (precision : Option Nat) (form : Char) (x : Binary64) : Text × Text :=
  let places := precision.getD 6
  let (negative, body) :=
    match x with
    | .nan => (false, "nan")
    | .infinite negative => (negative, "inf")
    | .finite negative m e =>
      let (num, den) := Binary64.ratio m e
      let text :=
        match form.toLower with
        | 'e' => Binary64.scientific num den places flags.alternate
        | 'f' => Binary64.fixed num den places flags.alternate
        | _ => Binary64.general num den places flags.alternate false
      (negative, text)
  let body := if form.isUpper then body.toList.map Char.toUpper else body.toList
  (signOf flags negative, body)

def characterOf (v : Value) : Except TemplateError Text :=
  let ofInt (n : Int) : Except TemplateError Text :=
    if n < 0 || n > 0x10ffff then .error .noCharacter else .ok [Char.ofNat n.toNat]
  match v with
  | .str s => if s.length = 1 then .ok s.toList else .error (.wrongKind "%c requires int or char")
  | .int n => ofInt n
  | .bool b => ofInt (if b then 1 else 0)
  | _ => .error (.wrongKind "%c requires int or char")

def asciiText (s : String) : String :=
  String.join (s.toList.map fun c =>
    if c.toNat < 0x80 then String.ofList [c] else Text.escapeCode c.toNat)

/-- The text of a value under a conversion; `position` is where it stands. -/
def convert (flags : Flags) (width : Nat) (precision : Option Nat) (form : Char) (position : Nat)
    (v : Value) : Except TemplateError Text :=
  let asText (s : String) : Text :=
    let s := s.toList
    layOut flags width false [] ((precision.map s.take).getD s)
  match form with
  | 's' => .ok (asText v.display)
  | 'r' => .ok (asText v.quoted)
  | 'a' => .ok (asText (asciiText v.quoted))
  | 'c' => do .ok (layOut flags width false [] (← characterOf v))
  | 'd' | 'i' | 'u' | 'o' | 'x' | 'X' => do
    let (lead, body) := integerText flags precision form (← wholeNumber form v)
    .ok (layOut flags width flags.zero lead body)
  | 'e' | 'E' | 'f' | 'F' | 'g' | 'G' => do
    let (lead, body) := floatText flags precision form (← floatOf v)
    .ok (layOut flags width flags.zero lead body)
  | c =>
    let shown := if 31 ≤ c.toNat && c.toNat ≤ 126 then c else '?'
    .error (.malformed ("unsupported format character '" ++ String.ofList [shown] ++ "' (0x" ++
      String.ofList (Nat.toDigits 16 c.toNat) ++ ") at index " ++ toString position))

/-- A conversion after its percent sign: its text, the values left and the rest
of the template, which has `total` characters. -/
def conversion (total : Nat) (s : Supply) (t : Text) :
    Except TemplateError (Text × Supply × Text) := do
  let (s, t) ← selectKey s t
  let marks := t.takeWhile isFlag
  let flags := flagsOf marks
  let (width, s, t) ← amount "width" widthMachine s (t.drop marks.length)
  let width := width.getD 0
  let flags := if width < 0 then { flags with left := true } else flags
  let (precision, s, t) ←
    match t with
    | '.' :: r => do
      let (precision, s, t) ← amount "precision" precisionMachine s r
      pure (some (precision.getD 0).toNat, s, t)
    | t => pure (none, s, t)
  let t :=
    match t with
    | c :: r => if c = 'h' || c = 'l' || c = 'L' then r else c :: r
    | [] => []
  match t with
  | [] => .error (.malformed "incomplete format")
  | form :: rest =>
    let (v, s) ← s.next
    let text ← convert flags width.natAbs precision form (total - rest.length - 1) v
    .ok (text, s, rest)

/-- The text of the rest of a template; a doubled percent sign stands for itself. -/
def fillFrom (total : Nat) : (fuel : Nat) → Supply → Text → Except TemplateError (Text × Supply)
  | 0, s, _ => .ok ([], s)
  | _, s, [] => .ok ([], s)
  | fuel + 1, s, '%' :: '%' :: r => do
    let (after, s) ← fillFrom total fuel s r
    .ok ('%' :: after, s)
  | fuel + 1, s, c :: r =>
    if c = '%' then do
      let (here, s, rest) ← conversion total s r
      let (after, s) ← fillFrom total fuel s rest
      .ok (here ++ after, s)
    else do
      let (after, s) ← fillFrom total fuel s r
      .ok (c :: after, s)

def fill (template : String) (values : List Value) : Except TemplateError String := do
  if values.isEmpty then .ok template
  else
    let t := template.toList
    let supply := Supply.ofList values
    let (text, left) ← fillFrom t.length (t.length + 1) supply t
    if supply.table.isNone && !left.queue.isEmpty then
      .error (.wrongKind "not all arguments converted during string formatting")
    else .ok (String.ofList text)

end CommandManual.Percent
