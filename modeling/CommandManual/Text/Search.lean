import CommandManual.Text.Basic

/-!
Finding a mark in a text: what follows it at the front, the cut at its first
occurrence, and the text without it.
-/

namespace CommandManual.Text

def after? : (mark : Text) → Text → Option Text
  | [], t => some t
  | _ :: _, [] => none
  | m :: ms, c :: r => if m = c then after? ms r else none

@[simp] theorem after?_nil (t : Text) : after? [] t = some t := by
  cases t <;> rfl

theorem after?_eq_some_iff {mark t rest : Text} :
    after? mark t = some rest ↔ t = mark ++ rest := by
  induction mark generalizing t with
  | nil => simp
  | cons m ms ih =>
    cases t with
    | nil => simp [after?]
    | cons c r =>
      by_cases h : m = c
      · subst h
        simp [after?, ih]
      · simp [after?, h, Ne.symm h]

def startsWith (mark t : Text) : Bool := (after? mark t).isSome

def cut? (mark : Text) : Text → Option (Text × Text)
  | [] => (after? mark []).map fun rest => ([], rest)
  | c :: r =>
    match after? mark (c :: r) with
    | some rest => some ([], rest)
    | none => (cut? mark r).map fun (before, rest) => (c :: before, rest)

def contains (mark t : Text) : Bool := (cut? mark t).isSome

/-- Erases the occurrences of a non-empty mark from left to right; `skip`
characters of an occurrence are still to be dropped. -/
def eraseFrom (mark : Text) : (skip : Nat) → Text → Text
  | _, [] => []
  | skip + 1, _ :: r => eraseFrom mark skip r
  | 0, c :: r =>
    if startsWith mark (c :: r) then eraseFrom mark (mark.length - 1) r
    else c :: eraseFrom mark 0 r

/-- The text without the occurrences of a non-empty mark, found from left to
right and without overlaps. -/
def eraseAll (mark t : Text) : Text := eraseFrom mark 0 t

/-- The text before and after the last occurrence of the character `c`. -/
def cutLast? (c : Char) : Text → Option (Text × Text)
  | [] => none
  | d :: r =>
    match cutLast? c r with
    | some (before, rest) => some (d :: before, rest)
    | none => if d = c then some ([], r) else none

end CommandManual.Text
