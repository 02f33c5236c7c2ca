import CommandManual.Text.NameTable

/-!
Names: letters, digits and underscores of all scripts, with no digit in front.
-/

namespace CommandManual.Text

def isWithin (ranges : List (Nat × Nat)) (c : Char) : Bool :=
  ranges.any fun (lo, hi) => lo ≤ c.toNat && c.toNat ≤ hi

def isNameChar (c : Char) : Bool :=
  if c.toNat < 0x80 then c.isAlphanum || c = '_' else isWithin nameRanges c

def isNameStart (c : Char) : Bool :=
  isNameChar c && !c.isDigit && !isWithin laterNameRanges c

/-- The first character of a text that keeps it from being a name. -/
def strangerInName? : List Char → Option Char
  | [] => none
  | c :: rest => if isNameStart c then rest.find? fun d => !isNameChar d else some c

def isName (t : List Char) : Bool := !t.isEmpty && (strangerInName? t).isNone

end CommandManual.Text
