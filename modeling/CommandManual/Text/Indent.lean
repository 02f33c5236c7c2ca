import CommandManual.Text.Basic

/-!
Indentation of a block of text: tabs as columns of eight, the common margin
of the lines after the first, and the block without it.
-/

namespace CommandManual.Text

/-- Writes tabs as blanks up to the next multiple of eight columns; `column`
restarts after a line feed and after a carriage return. -/
def expandTabsFrom (column : Nat) : Text → Text
  | [] => []
  | c :: r =>
    if c = '\t' then
      let width := 8 - column % 8
      List.replicate width ' ' ++ expandTabsFrom (column + width) r
    else if c = '\n' || c = '\r' then c :: expandTabsFrom 0 r
    else c :: expandTabsFrom (column + 1) r

def expandTabs (t : Text) : Text := expandTabsFrom 0 t

/-- The number of blanks that a line with some other character starts with. -/
def indent? (line : Text) : Option Nat :=
  if line.all isBlank then none else some (line.takeWhile isBlank).length

def margin? (ls : List Text) : Option Nat := (ls.filterMap indent?).min?

def dropEmptyEnds (ls : List Text) : List Text :=
  ((ls.dropWhile List.isEmpty).reverse.dropWhile List.isEmpty).reverse

/-- Lays a block of text against the left edge: the first line loses its own
indentation, the others lose their common margin, and empty lines at both ends
are dropped. -/
def dedent (t : Text) : Text :=
  match lines (expandTabs t) with
  | [] => []
  | first :: others =>
    let margin := (margin? others).getD 0
    unlines (dropEmptyEnds (trimStart first :: others.map (List.drop margin)))

end CommandManual.Text
