/-!
Text as a list of characters: blanks, lines, words and trimming. A line ends
at the line feed alone, and a text always has at least one line.
-/

namespace CommandManual

abbrev Text := List Char

namespace Text

/-- The characters that separate words and are trimmed at the ends of a text:
every Unicode blank, and the information separators. -/
def isBlank (c : Char) : Bool :=
  let n := c.toNat
  (0x09 ≤ n && n ≤ 0x0d) || (0x1c ≤ n && n ≤ 0x20) || n == 0x85 || n == 0xa0 ||
    n == 0x1680 || (0x2000 ≤ n && n ≤ 0x200a) || n == 0x2028 || n == 0x2029 ||
    n == 0x202f || n == 0x205f || n == 0x3000

def splitWhere (p : Char → Bool) : Text → List Text
  | [] => [[]]
  | c :: r =>
    if p c then [] :: splitWhere p r
    else
      match splitWhere p r with
      | [] => [[c]]
      | piece :: pieces => (c :: piece) :: pieces

@[simp] theorem splitWhere_nil (p : Char → Bool) : splitWhere p [] = [[]] := rfl

theorem splitWhere_ne_nil (p : Char → Bool) (t : Text) : splitWhere p t ≠ [] := by
  cases t with
  | nil => simp
  | cons c r =>
    unfold splitWhere
    split
    · simp
    · split <;> simp

def joinWith (sep : Text) : List Text → Text
  | [] => []
  | [t] => t
  | t :: ts => t ++ sep ++ joinWith sep ts

def lines : Text → List Text := splitWhere (· == '\n')

def unlines : List Text → Text := joinWith ['\n']

def words (t : Text) : List Text :=
  (splitWhere isBlank t).filter fun w => !w.isEmpty

/-- Drops the longest final part whose characters all satisfy `p`. -/
def dropEndWhile (p : Char → Bool) : Text → Text
  | [] => []
  | c :: r =>
    match dropEndWhile p r with
    | [] => if p c then [] else [c]
    | kept => c :: kept

def trimStart (t : Text) : Text := t.dropWhile isBlank

def trimEnd (t : Text) : Text := dropEndWhile isBlank t

def trim (t : Text) : Text := trimEnd (trimStart t)

def insertName (name : String) : List String → List String
  | [] => [name]
  | other :: rest =>
    if name ≤ other then name :: other :: rest else other :: insertName name rest

def sortNames (names : List String) : List String := names.foldr insertName []

def firstLine (t : Text) : Text := t.takeWhile (· != '\n')

end Text

end CommandManual
