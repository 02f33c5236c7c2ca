import CommandManual.Text.Basic
import CommandManual.Text.NormalTable

/-!
The normal form of names: characters that are only another form of others are
replaced by them, marks are put into their order, and what can be composed is
composed. Two names that are the same in this form are one name.
-/

namespace CommandManual.Text

/-! ### Reading the tables -/

def hexNumber (t : Text) : Nat :=
  t.foldl
    (fun n c => n * 16 + (if c.isDigit then c.toNat - 48 else c.toNat - 87)) 0

def hexNumbers (t : Text) : List Nat := (splitWhere (· == '+') t).map hexNumber

def entry (t : Text) : Text × Text :=
  let before := t.takeWhile (· != '=')
  (before, t.drop (before.length + 1))

def entries (table : String) : List (Text × Text) := (words table.toList).map entry

def decompositions : List (Nat × List Nat) :=
  (entries decompositionTable).map fun (c, d) => (hexNumber c, hexNumbers d)

def compositions : List (List Nat × Nat) :=
  (entries compositionTable).map fun (pair, c) => (hexNumbers pair, hexNumber c)

def combiningRanges : List (Nat × Nat × Nat) :=
  (entries combiningTable).map fun (range, k) =>
    let first := range.takeWhile (· != '-')
    let last := range.drop (first.length + 1)
    (hexNumber first, if last.isEmpty then hexNumber first else hexNumber last, hexNumber k)

/-! ### Composing -/

def decompose (n : Nat) : List Nat := (decompositions.lookup n).getD [n]

def combiningClass (n : Nat) : Nat :=
  ((combiningRanges.find? fun (first, last, _) => first ≤ n && n ≤ last).map
    fun (_, _, k) => k).getD 0

def composeSyllable? (a b : Nat) : Option Nat :=
  if 0x1100 ≤ a && a < 0x1113 && 0x1161 ≤ b && b < 0x1176 then
    some (0xac00 + ((a - 0x1100) * 21 + (b - 0x1161)) * 28)
  else if 0xac00 ≤ a && a < 0xd7a4 && (a - 0xac00) % 28 = 0 && 0x11a7 < b && b < 0x11c3 then
    some (a + (b - 0x11a7))
  else none

def compose? (a b : Nat) : Option Nat :=
  match composeSyllable? a b with
  | some c => some c
  | none => compositions.lookup [a, b]

/-- Puts a mark before the marks at the front that have a higher class. -/
def insertMark (n : Nat) : List Nat → List Nat
  | [] => [n]
  | m :: rest =>
    if combiningClass n < combiningClass m && combiningClass n != 0 then m :: insertMark n rest
    else n :: m :: rest

/-- Marks in the order of their classes, given and kept in reverse. -/
def orderMarks (l : List Nat) : List Nat :=
  (l.foldl (fun done n => insertMark n done) []).reverse

/-- Composes what follows a starter; `held` are the marks, in reverse, that stay
between it and the rest. -/
def composeFrom (starter : Nat) (held : List Nat) : List Nat → List Nat
  | [] => starter :: held.reverse
  | n :: rest =>
    let k := combiningClass n
    let blocked := held.any fun m => combiningClass m = 0 || k ≤ combiningClass m
    match compose? starter n with
    | some c =>
      if blocked then
        if k = 0 then starter :: held.reverse ++ composeFrom n [] rest
        else composeFrom starter (n :: held) rest
      else composeFrom c held rest
    | none =>
      if k = 0 then starter :: held.reverse ++ composeFrom n [] rest
      else composeFrom starter (n :: held) rest

def normalName (s : String) : String :=
  if s.toList.all fun c => c.toNat < 0x80 then s
  else
    match orderMarks (s.toList.flatMap fun c => decompose c.toNat) with
    | [] => s
    | n :: rest => String.ofList ((composeFrom n [] rest).map Char.ofNat)

end CommandManual.Text
