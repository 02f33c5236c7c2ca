import CommandManual.Text.Printable

/-!
A text between quotes, as it is shown in messages: single quotes unless the
text has a single quote and no double one, and escapes for the backslash, for
the chosen quote and for what is not printable.
-/

namespace CommandManual.Text

def hexPadded (width n : Nat) : String :=
  let digits := String.ofList (Nat.toDigits 16 n)
  String.ofList (List.replicate (width - digits.length) '0') ++ digits

def escapeCode (n : Nat) : String :=
  if n < 0x100 then "\\x" ++ hexPadded 2 n
  else if n < 0x10000 then "\\u" ++ hexPadded 4 n
  else "\\U" ++ hexPadded 8 n

def quotedChar (quote c : Char) : String :=
  if c = quote || c = '\\' then String.ofList ['\\', c]
  else if c = '\n' then "\\n"
  else if c = '\r' then "\\r"
  else if c = '\t' then "\\t"
  else if isPrintable c then String.ofList [c]
  else escapeCode c.toNat

def singleQuote : Char := '\x27'

def doubleQuote : Char := '\x22'

def quoteFor (s : String) : Char :=
  if s.toList.contains singleQuote && !s.toList.contains doubleQuote then doubleQuote
  else singleQuote

def quoted (s : String) : String :=
  let quote := quoteFor s
  String.ofList [quote] ++ String.join (s.toList.map (quotedChar quote)) ++ String.ofList [quote]

def quotedBytes (bytes : List UInt8) : String :=
  let shown := bytes.map fun b => Char.ofNat b.toNat
  let quote := quoteFor (String.ofList shown)
  let byte (c : Char) : String :=
    if c.toNat < 0x7f then quotedChar quote c else escapeCode c.toNat
  "b" ++ String.ofList [quote] ++ String.join (shown.map byte) ++ String.ofList [quote]

end CommandManual.Text
