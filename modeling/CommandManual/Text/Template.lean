import CommandManual.Text.Reached

/-!
Templates: text with fields between braces, filled in from named values. A
doubled brace stands for itself, a field may reach into its value, convert it,
and lay it out by a specification, in which fields may stand again.
-/

namespace CommandManual.Template

def openBrace : Char := '\x7b'

def closeBrace : Char := '\x7d'

structure Field where
  name : Text
  conversion : Option Char := none
  spec : Text := []
deriving DecidableEq, Repr

def malformed {α : Type} (detail : String) : Except TemplateError α := .error (.malformed detail)

/-- The name of a field up to the character that ends it, which is given too;
brackets shield that character. -/
def fieldName : (inBrackets : Bool) → Text → Except TemplateError (Text × Option Char × Text)
  | _, [] => .ok ([], none, [])
  | true, c :: r => do
    let (name, stop, rest) ← fieldName (c != ']') r
    .ok (c :: name, stop, rest)
  | false, c :: r =>
    if c = openBrace then malformed "unexpected '\x7b' in field name"
    else if c = closeBrace || c = ':' || c = '!' then .ok ([], some c, r)
    else do
      let (name, stop, rest) ← fieldName (c = '[') r
      .ok (c :: name, stop, rest)

def fieldSpec : (depth : Nat) → Text → Except TemplateError (Text × Text)
  | _, [] => malformed "unmatched '\x7b' in format spec"
  | depth, c :: r =>
    if c = closeBrace && depth = 0 then .ok ([], r)
    else do
      let depth :=
        if c = openBrace then depth + 1 else if c = closeBrace then depth - 1 else depth
      let (spec, rest) ← fieldSpec depth r
      .ok (c :: spec, rest)

def parseField (t : Text) : Except TemplateError (Field × Text) := do
  let (name, stop, t) ← fieldName false t
  match stop with
  | none => malformed "expected '\x7d' before end of string"
  | some ':' =>
    let (spec, rest) ← fieldSpec 0 t
    .ok (⟨name, none, spec⟩, rest)
  | some '!' =>
    match t with
    | [] => malformed "end of string while looking for conversion specifier"
    | c :: [] => do
      let (spec, rest) ← fieldSpec 0 []
      .ok (⟨name, some c, spec⟩, rest)
    | c :: d :: r =>
      if d = closeBrace then .ok (⟨name, some c, []⟩, r)
      else if d = ':' then do
        let (spec, rest) ← fieldSpec 0 r
        .ok (⟨name, some c, spec⟩, rest)
      else malformed "expected ':' after conversion specifier"
  | some _ => .ok (⟨name, none, []⟩, t)

/-- Replaces the fields of a template in order; `shown` may fail before a later
field is read. Each step reads at least one character. -/
def replaceFields (shown : Field → Except TemplateError Text) :
    (fuel : Nat) → Text → Except TemplateError Text
  | 0, _ => .ok []
  | fuel + 1, t =>
    let literal := t.takeWhile fun c => c != openBrace && c != closeBrace
    match t.drop literal.length with
    | [] => .ok literal
    | c :: r =>
      match r with
      | [] =>
        malformed (if c = closeBrace then "Single '\x7d' encountered in format string"
          else "Single '\x7b' encountered in format string")
      | d :: rest =>
        if c = d then do
          let after ← replaceFields shown fuel rest
          .ok (literal ++ c :: after)
        else if c = closeBrace then malformed "Single '\x7d' encountered in format string"
        else do
          let (field, rest) ← parseField r
          let here ← shown field
          let after ← replaceFields shown fuel rest
          .ok (literal ++ here ++ after)

/-! ### Fields -/

def numberOf? (t : Text) : Except TemplateError (Option Nat) := do
  let (n, rest) ← FormatSpec.number t
  .ok (if rest.isEmpty && !t.isEmpty then some n else none)

/-- Follows the steps after the first name of a field, one by one. -/
def follow : (fuel : Nat) → Reached → Text → Except TemplateError Reached
  | 0, found, _ => .ok found
  | _, found, [] => .ok found
  | fuel + 1, found, '.' :: r =>
    let name := r.takeWhile fun c => c != '.' && c != '['
    if name.isEmpty then malformed "Empty attribute in format string"
    else do follow fuel (← found.member (String.ofList name)) (r.drop name.length)
  | fuel + 1, found, '[' :: r =>
    let name := r.takeWhile (· != ']')
    match r.drop name.length with
    | [] => malformed "Missing ']' in format string"
    | _ :: after => do
      let index ← numberOf? name
      if name.isEmpty then malformed "Empty attribute in format string"
      else
        let part ← index.elim (found.atKey (String.ofList name)) found.atIndex
        follow fuel part after
  | _ + 1, _, _ => malformed "Only '.' or '[' may follow ']' in format field specifier"

/-- What a field names. Fields without a name, or with a number, mean
positions, and there are no values without names. -/
def fieldValue (values : List (String × Reached)) (name : Text) :
    Except TemplateError Reached := do
  let first := name.takeWhile fun c => c != '.' && c != '['
  let position ← numberOf? first
  if first.isEmpty || position.isSome then
    .error (.noIndex ("Replacement index " ++ toString (position.getD 0) ++
      " out of range for positional args tuple"))
  else
    let key := String.ofList first
    let found ← (values.lookup key).elim (.error (.noKey (Text.quoted key))) .ok
    follow (name.length + 1) found (name.drop first.length)

def asciiOnly (s : String) : String :=
  String.join (s.toList.map fun c =>
    if c.toNat < 0x80 then String.ofList [c] else Text.escapeCode c.toNat)

def convert (found : Reached) : Option Char → Except TemplateError Reached
  | none => .ok found
  | some 'r' => .ok (.value (.str found.quoted))
  | some 's' => .ok (.value (.str found.display))
  | some 'a' => .ok (.value (.str (asciiOnly found.quoted)))
  | some c =>
    malformed ("Unknown conversion specifier " ++
      (if c.toNat > 32 && c.toNat < 127 then String.ofList [c]
        else "\\x" ++ String.ofList (Nat.toDigits 16 c.toNat)))

/-- Fills in a template whose fields nest at most `depth` deep. -/
def fillWithin (values : List (String × Reached)) : (depth : Nat) → Text → Except TemplateError Text
  | 0, _ => malformed "Max string recursion exceeded"
  | depth + 1, t =>
    replaceFields
      (fun f => do
        let v ← fieldValue values f.name
        let v ← convert v f.conversion
        let spec ←
          if f.spec.any (· == openBrace) then fillWithin values depth f.spec else .ok f.spec
        v.format spec)
      (t.length + 1) t

def fill (template : String) (values : List (String × Reached)) : Except TemplateError String := do
  .ok (String.ofList (← fillWithin values 2 template.toList))

end CommandManual.Template
