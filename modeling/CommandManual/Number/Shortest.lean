import CommandManual.Number.Binary64

/-!
The decimal text of a number: the fewest digits that read back as the same
number, and of these the nearest. Numbers from `1e-4` up to `1e16` are written
positionally, all others with an exponent of at least two digits.
-/

namespace CommandManual.Binary64

/-- The position of the decimal point before the first digit: the fraction lies
in `[10 ^ (p - 1), 10 ^ p)`. -/
def pointPosition (num den : Nat) : Int :=
  if den ≤ num then (Nat.toDigits 10 (num / den)).length
  else
    match (List.range 400).find? fun k => den ≤ num * tenTo (k + 1) with
    | some k => -(k : Int)
    | none => 0

structure Decimal where
  digits : Nat
  exponent : Int
deriving DecidableEq, Repr

/-- The two decimals around a fraction on the grid of step `10 ^ exponent`,
the nearer one first, and the even one from the middle. -/
def neighbours (num den : Nat) (exponent : Int) : List Decimal :=
  let (n, d) :=
    if 0 ≤ exponent then (num, den * tenTo exponent.toNat)
    else (num * tenTo (-exponent).toNat, den)
  let low := n / d
  if n % d = 0 then [⟨low, exponent⟩]
  else if 2 * (n % d) < d || (2 * (n % d) == d && low % 2 == 0) then
    [⟨low, exponent⟩, ⟨low + 1, exponent⟩]
  else [⟨low + 1, exponent⟩, ⟨low, exponent⟩]

/-- The shortest decimal that reads back as `mantissa * 2 ^ exponent`. -/
def shortest (mantissa : Nat) (exponent : Int) : Decimal :=
  let (num, den) := ratio mantissa exponent
  let p := pointPosition num den
  let readsBack (x : Decimal) : Bool :=
    ofDecimal false x.digits x.exponent == .finite false mantissa exponent
  ((List.range 17).findSome? fun n =>
    (neighbours num den (p - (n + 1 : Nat))).find? readsBack).getD ⟨mantissa, exponent⟩

def Decimal.trimZeros : Nat → Decimal → Decimal
  | 0, x => x
  | fuel + 1, x =>
    if x.digits % 10 = 0 && x.digits != 0 then
      trimZeros fuel ⟨x.digits / 10, x.exponent + 1⟩
    else x

def zeros (n : Nat) : String := String.ofList (List.replicate n '0')

def exponentText (e : Int) : String :=
  let digits := toString e.natAbs
  (if e < 0 then "e-" else "e+") ++ (if digits.length < 2 then "0" ++ digits else digits)

def Decimal.layout (x : Decimal) : String :=
  let x := x.trimZeros 20
  let digits := Nat.toDigits 10 x.digits
  let count : Int := digits.length
  let point := count + x.exponent
  if -3 ≤ point && point ≤ 16 then
    if point ≤ 0 then "0." ++ zeros (-point).toNat ++ String.ofList digits
    else if count ≤ point then String.ofList digits ++ zeros (point - count).toNat ++ ".0"
    else
      String.ofList (digits.take point.toNat) ++ "." ++ String.ofList (digits.drop point.toNat)
  else
    let tail := if digits.length = 1 then "" else "." ++ String.ofList (digits.drop 1)
    String.ofList (digits.take 1) ++ tail ++ exponentText (point - 1)

def toText : Binary64 → String
  | .nan => "nan"
  | .infinite negative => if negative then "-inf" else "inf"
  | .finite negative m e =>
    (if negative then "-" else "") ++ (if m = 0 then "0.0" else (shortest m e).layout)

end CommandManual.Binary64
