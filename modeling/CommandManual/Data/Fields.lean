import CommandManual.Data.Value
import CommandManual.Path

/-!
Reading records from tables. Each field is read on its own, so that one attempt
reports everything that is wrong, in the order of the fields.
-/

namespace CommandManual

inductive FieldProblem
  | missing
  | notText
  | notPath
  | notInteger
  | unreadableInteger
  | longInteger
  | fractional
  | notFinite
  | notList
  /-- The record cannot be changed once it is made. -/
  | frozen
deriving DecidableEq, Repr

def FieldProblem.code : FieldProblem → String
  | missing => "missing"
  | notText => "string_type"
  | notPath => "path_type"
  | notInteger => "int_type"
  | unreadableInteger => "int_parsing"
  | longInteger => "int_parsing_size"
  | fractional => "int_from_float"
  | notFinite => "finite_number"
  | notList => "list_type"
  | frozen => "frozen_instance"

structure FieldError where
  location : String
  problem : FieldProblem
deriving DecidableEq, Repr

abbrev Checked (α : Type) := Except (List FieldError) α

namespace Checked

/-- Applies a function to an argument, with the errors of both. -/
def ap {α β : Type} (f : Checked (α → β)) (x : Checked α) : Checked β :=
  match f, x with
  | .ok f, .ok x => .ok (f x)
  | .error e, .ok _ => .error e
  | .ok _, .error e => .error e
  | .error e, .error e' => .error (e ++ e')

/-- The members of a list, each read at its position, with the errors of all. -/
def members {α : Type} (read : String → Value → Checked α) (location : String) :
    (position : Nat) → List Value → Checked (List α)
  | _, [] => .ok []
  | position, v :: vs =>
    ap (ap (.ok List.cons) (read (location ++ "." ++ toString position) v))
      (members read location (position + 1) vs)

end Checked

namespace Field

def fail {α : Type} (location : String) (problem : FieldProblem) : Checked α :=
  .error [⟨location, problem⟩]

def text (location : String) : Value → Checked String
  | .str s => .ok s
  | _ => fail location .notText

def path (location : String) : Value → Checked Path
  | .str s => .ok (Path.ofString s)
  | _ => fail location .notPath

def optionalPath (location : String) : Value → Checked (Option Path)
  | .null => .ok none
  | .str s => .ok (some (Path.ofString s))
  | _ => fail location .notPath

/-! ### Integers in texts -/

/-- Blanks around an integer, which separators of records do not belong to. -/
def isSpace (c : Char) : Bool := Text.isBlank c && !(0x1c ≤ c.toNat && c.toNat ≤ 0x1f)

def trimSpace (t : Text) : Text := Text.dropEndWhile isSpace (t.dropWhile isSpace)

/-- A number without the zeros before it, among which underscores may stand; the
last zero stays before a point and at the end. -/
def withoutLeadingZeros (t : Text) : Option Text :=
  match t with
  | '0' :: rest =>
    let zeros := rest.takeWhile fun c => c == '0' || c == '_'
    match rest.drop zeros.length with
    | [] => some [('0' :: zeros).getLastD '0']
    | '.' :: fraction => some (('0' :: zeros).getLastD '0' :: '.' :: fraction)
    | c :: more => if c.isDigit then some (c :: more) else none
  | c :: rest => if c.isDigit || c == '-' then some (c :: rest) else none
  | [] => none

def withoutZeroFraction (t : Text) : Text :=
  let whole := t.takeWhile (· != '.')
  let fraction := t.drop (whole.length + 1)
  if !fraction.isEmpty && fraction.all (· == '0') then whole else t

def withoutUnderscores (t : Text) : Text :=
  if (Text.splitWhere (· == '_') t).any List.isEmpty then t else t.filter (· != '_')

def digitLimit : Nat := 4300

/-- The integer that a sign and digits write; no zero stands before other digits. -/
def integerOfDigits (t : Text) : Except FieldProblem Int :=
  let (negative, digits) :=
    match t with
    | '-' :: r => (true, r)
    | t => (false, t)
  if digits.isEmpty || !digits.all Char.isDigit || (digits.head? == some '0' && digits != ['0'])
  then .error .unreadableInteger
  else if digits.length > digitLimit then .error .longInteger
  else
    let n : Nat := digits.foldl (fun n c => n * 10 + (c.toNat - 48)) 0
    .ok (if negative then -(n : Int) else n)

/-- The integer in a text: blanks around it, a plus sign, zeros before it, a
fraction of zeros and single underscores make no difference. -/
def integerOf (t : Text) : Except FieldProblem Int :=
  let unsigned :=
    match trimSpace t with
    | '+' :: '-' :: _ => none
    | '+' :: r => some r
    | t => some t
  match unsigned.bind withoutLeadingZeros with
  | none => .error .unreadableInteger
  | some t => integerOfDigits (withoutUnderscores (withoutZeroFraction t))

/-- The bound of whole floating-point numbers that are taken for integers. -/
def wordBound : Int := 0x8000000000000000

def integer (location : String) : Value → Checked Int
  | .bool b => .ok (if b then 1 else 0)
  | .int n => .ok n
  | .float x =>
    match x, x.toInt? with
    | .finite .., some n =>
      if -wordBound < n && n < wordBound then .ok n else fail location .longInteger
    | .finite .., none => fail location .fractional
    | _, _ => fail location .notFinite
  | .str s =>
    match integerOf s.toList with
    | .ok n => .ok n
    | .error problem => fail location problem
  | _ => fail location .notInteger

def list {α : Type} (read : String → Value → Checked α) (location : String) :
    Value → Checked (List α)
  | .list items => Checked.members read location 0 items
  | _ => fail location .notList

def required {α : Type} (read : String → Value → Checked α) (name : String) (v : Value) :
    Checked α :=
  match v.get? name with
  | some x => read name x
  | none => fail name .missing

def withDefault {α : Type} (read : String → Value → Checked α) (name : String) (default : α)
    (v : Value) : Checked α :=
  match v.get? name with
  | some x => read name x
  | none => .ok default

end Field

end CommandManual
