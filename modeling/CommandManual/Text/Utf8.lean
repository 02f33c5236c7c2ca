import CommandManual.Text.Basic

/-!
UTF-8: reading bytes as text, with the place and the reason of the first error,
and line ends brought to line feeds.
-/

namespace CommandManual.Utf8

inductive Reason
  | startByte
  | continuationByte
  | endOfData
deriving DecidableEq, Repr

def Reason.message : Reason → String
  | startByte => "invalid start byte"
  | continuationByte => "invalid continuation byte"
  | endOfData => "unexpected end of data"

structure Error where
  first : Nat
  bytes : List UInt8
  reason : Reason
deriving DecidableEq, Repr

def hexByte (b : UInt8) : String :=
  let digits := Nat.toDigits 16 b.toNat
  "0x" ++ String.ofList (List.replicate (2 - digits.length) '0' ++ digits)

def Error.message (e : Error) : String :=
  "'utf-8' codec can't decode " ++
    (match e.bytes with
      | [b] => "byte " ++ hexByte b ++ " in position " ++ toString e.first
      | bytes =>
        "bytes in position " ++ toString e.first ++ "-" ++
          toString (e.first + bytes.length - 1)) ++
    ": " ++ e.reason.message

def following? (b : UInt8) : Option Nat :=
  let n := b.toNat
  if n < 0x80 then some 0
  else if n < 0xc2 then none
  else if n < 0xe0 then some 1
  else if n < 0xf0 then some 2
  else if n < 0xf5 then some 3
  else none

/-- Whether `b` may be the first byte after `start`: no overlong forms, no
surrogates, nothing beyond the last code point. -/
def isSecond (start b : UInt8) : Bool :=
  let n := b.toNat
  match start.toNat with
  | 0xe0 => 0xa0 ≤ n && n ≤ 0xbf
  | 0xed => 0x80 ≤ n && n ≤ 0x9f
  | 0xf0 => 0x90 ≤ n && n ≤ 0xbf
  | 0xf4 => 0x80 ≤ n && n ≤ 0x8f
  | _ => 0x80 ≤ n && n ≤ 0xbf

def isLater (b : UInt8) : Bool := 0x80 ≤ b.toNat && b.toNat ≤ 0xbf

/-- The bytes of `rest`, at most `count`, that continue the character begun by `start`. -/
def continuation (start : UInt8) (count : Nat) (rest : List UInt8) : List UInt8 :=
  match count, rest with
  | count + 1, b :: r => if isSecond start b then b :: (r.take count).takeWhile isLater else []
  | _, _ => []

def codePoint (start : UInt8) (more : List UInt8) : Nat :=
  let lead :=
    match more.length with
    | 0 => start.toNat
    | 1 => start.toNat % 0x20
    | 2 => start.toNat % 0x10
    | _ => start.toNat % 0x08
  more.foldl (fun n b => n * 0x40 + b.toNat % 0x40) lead

/-- Reads the bytes from `position` on; `skip` of them were already read. -/
def decodeFrom : (skip position : Nat) → List UInt8 → Except Error Text
  | _, _, [] => .ok []
  | skip + 1, position, _ :: r => decodeFrom skip (position + 1) r
  | 0, position, b :: r =>
    match following? b with
    | none => .error ⟨position, [b], .startByte⟩
    | some count =>
      let more := continuation b count r
      if more.length = count then do
        let t ← decodeFrom count (position + 1) r
        .ok (Char.ofNat (codePoint b more) :: t)
      else if more.length = r.length then .error ⟨position, b :: more, .endOfData⟩
      else .error ⟨position, b :: more, .continuationByte⟩

def decode (bytes : List UInt8) : Except Error Text := decodeFrom 0 0 bytes

def encode (t : Text) : List UInt8 := (String.ofList t).toUTF8.toList

/-- Carriage returns, alone or before a line feed, as line feeds. -/
def normalizeLines : Text → Text
  | [] => []
  | '\r' :: '\n' :: r => '\n' :: normalizeLines r
  | '\r' :: r => '\n' :: normalizeLines r
  | c :: r => c :: normalizeLines r

end CommandManual.Utf8
