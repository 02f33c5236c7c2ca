import CommandManual.Console.Markup
import CommandManual.Console.Wrap

/-!
Tables of text with a heading and a frame. A column is as wide as its widest
cell; when the table is wider than the terminal, the widest columns that may
break are made narrower first.
-/

namespace CommandManual.Console

structure Column where
  heading : String
  /-- Cells are kept on one line and shortened. -/
  oneLine : Bool := false

/-- Cells of a column that may break are broken between words. -/
def Column.overflow (c : Column) : Overflow := if c.oneLine then .oneLine else .ellipsis

/-- Characters that end a line when the width of a cell is taken. -/
def endsLine (c : Char) : Bool :=
  let n := c.toNat
  (0x0a ≤ n && n ≤ 0x0d) || (0x1c ≤ n && n ≤ 0x1e) || n == 0x85 || n == 0x2028 || n == 0x2029

/-- The width that a cell asks for, with a blank on each side. -/
def cellWidth (limit : Nat) (cell : Text) : Nat :=
  let widest := ((Text.splitWhere endsLine cell).map width).foldl max 0
  min limit (widest + 2)

def columnWidth (limit : Nat) (cells : List Styled) : Nat :=
  (cells.map fun c => cellWidth limit c.text).foldl max 0

/-- The nearest whole number to a fraction, the even one from the middle. -/
def nearest (num den : Nat) : Nat := Binary64.roundHalfEven num den

def sumOf (l : List Nat) : Nat := l.foldr (· + ·) 0

/-- Takes `total` from values in shares, at most a maximum from each. -/
def takeShares : (total shares : Nat) → List (Nat × Nat × Nat) → List Nat
  | _, _, [] => []
  | total, shares, (share, most, value) :: rest =>
    if share != 0 && shares != 0 then
      let taken := min most (nearest (share * total) shares)
      (value - taken) :: takeShares (total - taken) (shares - share) rest
    else value :: takeShares total shares rest

def reduceBy (total : Nat) (shares most values : List Nat) : List Nat :=
  let shares := (shares.zip most).map fun (s, m) => if m = 0 then 0 else s
  if sumOf shares = 0 then values
  else takeShares total (sumOf shares) (shares.zip (most.zip values))

/-- Makes the widest columns that may break narrower until the limit is met. -/
def collapse (mayBreak : List Bool) (limit : Nat) : (fuel : Nat) → List Nat → List Nat
  | 0, widths => widths
  | fuel + 1, widths =>
    let excess := sumOf widths - limit
    if excess = 0 then widths
    else
      let breakable := (widths.zip mayBreak).filterMap fun (w, b) => if b then some w else none
      let widest := breakable.foldl max 0
      let second := (breakable.filter (· != widest)).foldl max 0
      let shares := (widths.zip mayBreak).map fun (w, b) => if b && w = widest then 1 else 0
      if sumOf shares = 0 || widest = second then widths
      else
        let most := widths.map fun _ => min excess (widest - second)
        collapse mayBreak limit fuel (reduceBy excess shares most widths)

def columnWidths (columns : List Column) (cells : List (List Styled)) (limit : Nat) : List Nat :=
  let widths := cells.map fun c => max 1 (columnWidth limit c)
  if sumOf widths ≤ limit then widths
  else
    let mayBreak := columns.map fun c => !c.oneLine
    let widths := collapse mayBreak limit (sumOf widths + 1) widths
    let widths :=
      if sumOf widths ≤ limit then widths
      else reduceBy (sumOf widths - limit) (widths.map fun _ => 1) widths widths
    (widths.zip cells).map fun (w, c) => if w = 0 then 0 else columnWidth w c

/-- The lines of a cell within a column, with a blank on each side. Where the
blanks fill the column, nothing of the cell is shown. -/
def cellLines (column : Column) (total : Nat) (cell : Styled) : List Text :=
  if total ≤ 2 then [blanks total]
  else (wrap (total - 2) column.overflow cell).map fun l =>
    (fitSegments total ([' '] :: fitSegments (total - 2) l.segments ++ [[' ']])).flatten

/-- A frame line: a corner, runs of a character, and crossings between them. -/
def frameLine (left run crossing right : Char) (widths : List Nat) : Text :=
  left :: Text.joinWith [crossing] (widths.map fun w => List.replicate w run) ++ [right]

/-- The lines of a row whose cells stand side by side; a heading stands at the
bottom of its row. -/
def rowLines (columns : List Column) (widths : List Nat) (edge divider : Char) (heading : Bool)
    (cells : List Styled) : List Text :=
  let blocks := (columns.zip (widths.zip cells)).map fun (c, w, t) => (w, cellLines c w t)
  let height := (blocks.map fun (_, b) => b.length).foldl max 1
  let filled := blocks.map fun (w, b) =>
    let missing := List.replicate (height - b.length) (blanks w)
    if heading then missing ++ b else b ++ missing
  (List.range height).map fun n =>
    edge :: Text.joinWith [divider] (filled.map fun b => b.getD n []) ++ [edge]

def transpose (columns : List Column) (rows : List (List Styled)) : List (List Styled) :=
  (List.range columns.length).map fun n =>
    Styled.ofText ((columns[n]?.map fun c => c.heading.toList).getD []) ::
      rows.map fun r => r.getD n (Styled.ofText [])

def bar : Char := Char.ofNat 0x2502

/-- The widths of the columns of a table; the frame takes one character beside each. -/
def tableWidths (columns : List Column) (rows : List (List Styled)) (screen : Nat) : List Nat :=
  columnWidths columns (transpose columns rows) (screen - (columns.length + 1))

def tableLines (title : Text) (columns : List Column) (rows : List (List Styled))
    (screen : Nat) : List Text :=
  let widths := tableWidths columns rows screen
  let total := sumOf widths + (columns.length + 1)
  let char (n : Nat) : Char := Char.ofNat n
  let heading := columns.map fun c => Styled.ofText c.heading.toList
  [blanks ((total - width title) / 2) ++ title] ++
    [frameLine (char 0x250f) (char 0x2501) (char 0x2533) (char 0x2513) widths] ++
    rowLines columns widths (char 0x2503) (char 0x2503) true heading ++
    [frameLine (char 0x2521) (char 0x2501) (char 0x2547) (char 0x2529) widths] ++
    rows.flatMap (rowLines columns widths bar bar false) ++
    [frameLine (char 0x2514) (char 0x2500) (char 0x2534) (char 0x2518) widths]

end CommandManual.Console
