import CommandManual.Console.Width

/-!
Text with styles. Of the styles only the stretches that they cover are kept:
text is sent to a terminal in segments that each have one style, and a segment
takes the room that it takes alone.
-/

namespace CommandManual.Console

structure Span where
  start : Nat
  stop : Nat
deriving DecidableEq, Repr

structure Styled where
  text : Text
  spans : List Span := []
deriving DecidableEq, Repr

namespace Span

/-- The part of a span between two positions, counted from the first. -/
def within (start stop : Nat) (s : Span) : Span :=
  ⟨s.start - start, min (s.stop - start) (stop - start)⟩

def isEmpty (s : Span) : Bool := s.stop ≤ s.start

def shift (n : Nat) (s : Span) : Span := ⟨s.start + n, s.stop + n⟩

end Span

namespace Styled

def ofText (t : Text) : Styled := { text := t }

/-- The part between two positions. Spans that do not reach into it are gone. -/
def slice (t : Styled) (start stop : Nat) : Styled where
  text := (t.text.drop start).take (stop - start)
  spans := (t.spans.map (Span.within start stop)).filter fun s => !s.isEmpty

def slicesFrom (t : Styled) (start : Nat) : List Nat → List Styled
  | [] => [t.slice start t.text.length]
  | n :: rest => t.slice start n :: slicesFrom t n rest

def cutAt (t : Styled) (positions : List Nat) : List Styled :=
  if positions.isEmpty then [t] else t.slicesFrom 0 positions

/-- The first characters of a text with the spans that start in them. -/
def take (n : Nat) (t : Styled) : Styled where
  text := t.text.take n
  spans := (t.spans.filter fun s => s.start < n).map fun s => ⟨s.start, min n s.stop⟩

/-- The text with other characters; spans that start after their end are gone. -/
def replace (t : Styled) (text : Text) : Styled :=
  if text.length < t.text.length then { take text.length t with text } else { t with text }

def append (a b : Styled) : Styled where
  text := a.text ++ b.text
  spans := a.spans ++ b.spans.map (Span.shift a.text.length)

def join (parts : List Styled) : Styled := parts.foldl append (ofText [])

def extend (n : Nat) (t : Styled) : Styled where
  text := t.text ++ blanks n
  spans := t.spans.map fun s => if t.text.length ≤ s.stop then ⟨s.start, s.stop + n⟩ else s

/-! ### Lines and tabs -/

def positionsAfter (p : Char → Bool) : (start : Nat) → Text → List Nat
  | _, [] => []
  | n, c :: r =>
    if p c then (n + 1) :: positionsAfter p (n + 1) r else positionsAfter p (n + 1) r

def lines (t : Styled) : List Styled :=
  match positionsAfter (· == '\n') 0 t.text with
  | [] => [t]
  | ends =>
    ((0 :: ends).zip (ends.map (· - 1) ++ [t.text.length])).map fun (start, stop) =>
      t.slice start stop

/-- Writes each tab as blanks up to the next multiple of eight columns, after
`column` columns. -/
def spreadParts (column : Nat) : List Styled → List Styled
  | [] => []
  | part :: rest =>
    if part.text.getLast? == some '\t' then
      let part := { part with text := part.text.dropLast ++ [' '] }
      let reached := column + width part.text
      let missing := if reached % 8 = 0 then 0 else 8 - reached % 8
      part.extend missing :: spreadParts (reached + missing) rest
    else part :: spreadParts (column + width part.text) rest

def spreadTabs (line : Styled) : Styled :=
  match positionsAfter (· == '\t') 0 line.text with
  | [] => line
  | ends => join (spreadParts 0 (line.cutAt ends))

/-! ### Segments -/

/-- The pieces of a text between positions, without empty ones. -/
def piecesFrom (start : Nat) (t : Text) : List Nat → List Text
  | [] => if t.isEmpty then [] else [t]
  | n :: rest =>
    let piece := t.take (n - start)
    if piece.isEmpty then piecesFrom start t rest
    else piece :: piecesFrom n (t.drop (n - start)) rest

def segments (t : Styled) : List Text :=
  if t.spans.isEmpty then [t.text]
  else
    let edges := t.spans.flatMap fun s => [s.start, s.stop]
    piecesFrom 0 t.text (edges.mergeSort (· ≤ ·))

end Styled

def segmentsWidth (l : List Text) : Nat := (l.map width).foldr (· + ·) 0

/-- Drops what is beyond a width and cuts the segment that reaches it. -/
def cutSegments : (room : Nat) → List Text → List Text
  | _, [] => []
  | room, s :: rest =>
    if width s < room then s :: cutSegments (room - width s) rest else [fitTo room s]

def fitSegments (total : Nat) (l : List Text) : List Text :=
  let used := segmentsWidth l
  if used < total then l ++ [blanks (total - used)]
  else if used = total then l
  else cutSegments total l

end CommandManual.Console
