import CommandManual.Text.Basic

/-!
Decimal digits of all scripts. The ten digits of a script stand one after the
other, from zero to nine.
-/

namespace CommandManual.Text

def zeroDigits : List Nat :=
  [0x30, 0x660, 0x6f0, 0x7c0, 0x966, 0x9e6, 0xa66, 0xae6, 0xb66, 0xbe6, 0xc66, 0xce6, 0xd66,
    0xde6, 0xe50, 0xed0, 0xf20, 0x1040, 0x1090, 0x17e0, 0x1810, 0x1946, 0x19d0, 0x1a80, 0x1a90,
    0x1b50, 0x1bb0, 0x1c40, 0x1c50, 0xa620, 0xa8d0, 0xa900, 0xa9d0, 0xa9f0, 0xaa50, 0xabf0,
    0xff10, 0x104a0, 0x10d30, 0x11066, 0x110f0, 0x11136, 0x111d0, 0x112f0, 0x11450, 0x114d0,
    0x11650, 0x116c0, 0x11730, 0x118e0, 0x11950, 0x11c50, 0x11d50, 0x11da0, 0x16a60, 0x16ac0,
    0x16b50, 0x1d7ce, 0x1d7d8, 0x1d7e2, 0x1d7ec, 0x1d7f6, 0x1e140, 0x1e2f0, 0x1e950, 0x1fbf0]

def digitValue? (c : Char) : Option Nat :=
  (zeroDigits.find? fun zero => zero ≤ c.toNat && c.toNat < zero + 10).map (c.toNat - ·)

def natOfDigits? (t : Text) : Option Nat :=
  if t.isEmpty then none
  else t.foldl (fun n c => return (← n) * 10 + (← digitValue? c)) (some 0)

/-- Whether a text is a run of digits; single underscores may stand between them. -/
def isDigitRun (t : Text) : Bool :=
  (splitWhere (· == '_') t).all fun part =>
    !part.isEmpty && part.all fun c => (digitValue? c).isSome

def unsigned : Text → Text
  | '+' :: t | '-' :: t => t
  | t => t

/-- Whether a text writes an integer, with blanks around it and a sign before it. -/
def isInteger (t : Text) : Bool := isDigitRun (unsigned (trim t))

/-- Whether a text writes a number with a point or an exponent, or one that is
not finite. -/
def isDecimal (t : Text) : Bool :=
  let number := (unsigned (trim t)).map Char.toLower
  let mantissa := number.takeWhile (· != 'e')
  let whole := mantissa.takeWhile (· != '.')
  let fraction := mantissa.drop (whole.length + 1)
  let isRunOrEmpty (t : Text) : Bool := t.isEmpty || isDigitRun t
  let exponent := number.drop mantissa.length
  ["inf", "infinity", "nan"].contains (String.ofList number) ||
    (!(whole.isEmpty && fraction.isEmpty) && isRunOrEmpty whole && isRunOrEmpty fraction &&
      (exponent.isEmpty || isDigitRun (unsigned exponent.tail)))

end CommandManual.Text
