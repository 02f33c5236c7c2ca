import CommandManual.Text.Basic
import CommandManual.Text.CaseTable

/-!
Upper and lower case of a text, character by character except for the Greek
sigma, whose lower case at the end of a word is a letter of its own.
-/

namespace CommandManual.Text

/-- The code points that a character maps to under runs and expansions. -/
def mapCase (runs : List CaseRun) (expansions : List (Nat × List Nat)) (c : Char) : Text :=
  match expansions.lookup c.toNat with
  | some codes => codes.map Char.ofNat
  | none =>
    match runs.findSome? fun r => r.apply? c.toNat with
    | some code => [Char.ofNat code]
    | none => [c]

def upperChar (c : Char) : Text :=
  if c.toNat < 0x80 then [c.toUpper] else mapCase upperRuns upperExpansions c

def lowerChar (c : Char) : Text :=
  if c.toNat < 0x80 then [c.toLower] else mapCase lowerRuns lowerExpansions c

def toUpper (t : Text) : Text := t.flatMap upperChar

def inRanges (ranges : List (Nat × Nat)) (c : Char) : Bool :=
  ranges.any fun (lo, hi) => lo ≤ c.toNat && c.toNat ≤ hi

/-- Whether the first character that is not passed over is a letter with case. -/
def meetsCased (t : Text) : Bool :=
  match t.dropWhile (inRanges caseIgnorableRanges) with
  | [] => false
  | c :: _ => inRanges casedRanges c

/-- The lower case of the rest of a text, with the part already read in
reverse: a sigma ends a word when a letter comes before it and none after. -/
def toLowerAfter (before : Text) : Text → Text
  | [] => []
  | c :: r =>
    let here :=
      if c.toNat = 0x3a3 then
        [Char.ofNat (if meetsCased before && !meetsCased r then 0x3c2 else 0x3c3)]
      else lowerChar c
    here ++ toLowerAfter (c :: before) r

def toLower (t : Text) : Text := toLowerAfter [] t

end CommandManual.Text
