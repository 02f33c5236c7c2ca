import CommandManual.Number.Shortest

/-!
The text of a fraction with a given number of places: positional, with an
exponent, or whichever of the two is shorter. A half goes to the even neighbour.
-/

namespace CommandManual.Binary64

/-- The nearest multiple of `10 ^ exponent` to a fraction, in such units. -/
def roundAt (num den : Nat) (exponent : Int) : Nat :=
  if 0 ≤ exponent then roundHalfEven num (den * tenTo exponent.toNat)
  else roundHalfEven (num * tenTo (-exponent).toNat) den

/-- Digits with a point before the last `places`; `point` keeps a bare point. -/
def withPoint (digits : List Char) (places : Nat) (point : Bool) : String :=
  let digits := List.replicate (places + 1 - digits.length) '0' ++ digits
  let cut := digits.length - places
  String.ofList (digits.take cut) ++
    (if places = 0 && !point then "" else "." ++ String.ofList (digits.drop cut))

def fixed (num den places : Nat) (point : Bool) : String :=
  withPoint (Nat.toDigits 10 (roundAt num den (-(places : Int)))) places point

/-- The first `places + 1` digits of a fraction and the exponent of the first one. -/
def leadingDigits (num den places : Nat) : Nat × Int :=
  if num = 0 then (0, 0)
  else
    let e := pointPosition num den - 1
    let q := roundAt num den (e - places)
    if q = tenTo (places + 1) then (q / 10, e + 1) else (q, e)

def scientific (num den places : Nat) (point : Bool) : String :=
  let (q, e) := leadingDigits num den places
  withPoint (Nat.toDigits 10 q) places point ++ exponentText e

/-- Drops the zeros at the end of the places, and a bare point. -/
def dropZeros (s : String) : String :=
  if s.toList.contains '.' then
    let kept := (s.toList.reverse.dropWhile (· == '0')).dropWhile (· == '.')
    String.ofList kept.reverse
  else s

/-- Text with `digits` significant digits. With `keepPlace` a whole number ends
in `.0`, and one digit less stands before an exponent is used. -/
def general (num den digits : Nat) (point keepPlace : Bool) : String :=
  let digits := max digits 1
  let (q, e) := leadingDigits num den (digits - 1)
  let limit : Int := if keepPlace then (digits : Int) - 1 else digits
  if e < -4 || e ≥ limit then
    let mantissa := withPoint (Nat.toDigits 10 q) (digits - 1) point
    (if point then mantissa else dropZeros mantissa) ++ exponentText e
  else
    let text := fixed num den ((digits : Int) - 1 - e).toNat point
    let text := if point then text else dropZeros text
    if keepPlace && !text.toList.contains '.' then text ++ ".0" else text

end CommandManual.Binary64
