import CommandManual.Console.Styled

/-!
Breaking text into lines of a given width. Lines break between words; a word
that is too long for any line is folded, or left to be cut short.
-/

namespace CommandManual.Console

/-- The words of a line, each with the blanks after it, and the first also with
those before it. Blanks alone are no word. -/
def chunks : (fuel : Nat) → Text → List Text
  | 0, _ => []
  | fuel + 1, t =>
    let lead := t.takeWhile Text.isBlank
    let word := (t.drop lead.length).takeWhile fun c => !Text.isBlank c
    if word.isEmpty then []
    else
      let rest := t.drop (lead.length + word.length)
      let trail := rest.takeWhile Text.isBlank
      (lead ++ word ++ trail) :: chunks fuel (rest.drop trail.length)

def foldWord (limit : Nat) : (used : Nat) → (held : Text) → List Glyph → List Text
  | _, held, [] => [held]
  | used, held, g :: r =>
    if used + g.room > limit then held :: foldWord limit g.room g.text r
    else foldWord limit (used + g.room) (held ++ g.text) r

/-- The positions after `start` at which the pieces of a word start, but for
position zero, and the last piece. -/
def foldBreaks : (start : Nat) → List Text → List Nat × Text
  | _, [] => ([], [])
  | start, [last] => (if start = 0 then [] else [start], last)
  | start, piece :: rest =>
    let (breaks, last) := foldBreaks (start + piece.length) rest
    (if start = 0 then breaks else start :: breaks, last)

/-- The positions at which a line breaks, with `column` columns in use. -/
def breaksFrom (limit : Nat) (fold : Bool) : (start column : Nat) → List Text → List Nat
  | _, _, [] => []
  | start, column, word :: rest =>
    let next := start + word.length
    let size := width (Text.trimEnd word)
    if size ≤ limit - column && column ≤ limit then
      breaksFrom limit fold next (column + width word) rest
    else if size > limit then
      if fold then
        let (breaks, last) := foldBreaks start (foldWord limit 0 [] (glyphs word))
        breaks ++ breaksFrom limit fold next (width last) rest
      else (if start = 0 then [] else [start]) ++ breaksFrom limit fold next (width word) rest
    else if column != 0 && start != 0 then start :: breaksFrom limit fold next (width word) rest
    else breaksFrom limit fold next column rest

/-- Drops blanks at the end of a line that is longer than the limit. -/
def dropExcess (limit : Nat) (line : Styled) : Styled :=
  let size := line.text.length
  let trailing := size - (Text.trimEnd line.text).length
  if limit < size && 0 < trailing then line.take (size - min trailing (size - limit)) else line

def ellipsis : Char := Char.ofNat 0x2026

inductive Overflow
  /-- Long words are folded. -/
  | fold
  /-- Lines break between words, and long words are shortened. -/
  | ellipsis
  /-- Lines never break and are shortened. -/
  | oneLine
deriving DecidableEq, Repr

/-- A line filled to a width, or cut to it when it is too long; where words are
not folded, an ellipsis is the last character of what is left. -/
def shorten (limit : Nat) (overflow : Overflow) (line : Styled) : Styled :=
  let size := width line.text
  if limit < size then
    match overflow with
    | .fold => line.replace (fitTo limit line.text)
    | _ => line.replace (fitTo (limit - 1) line.text ++ [ellipsis])
  else { line with text := line.text ++ blanks (limit - size) }

def breakLine (limit : Nat) (fold : Bool) (line : Styled) : List Styled :=
  let breaks := breaksFrom limit fold 0 0 (chunks line.text.length line.text)
  (line.cutAt breaks).map (dropExcess limit)

/-- The lines of a text, broken for a width where they may be. -/
def brokenLines (limit : Nat) (overflow : Overflow) (t : Styled) : List Styled :=
  t.lines.flatMap fun line =>
    match overflow with
    | .oneLine => [line.spreadTabs]
    | .ellipsis => breakLine limit false line.spreadTabs
    | .fold => breakLine limit true line.spreadTabs

def wrap (limit : Nat) (overflow : Overflow) (t : Styled) : List Styled :=
  (brokenLines limit overflow t).map (shorten limit overflow)

end CommandManual.Console
