import CommandManual.Console.WidthTable
import CommandManual.Text.Basic

/-!
The width of a text in columns of a terminal, and texts cut or filled to a
width.
-/

namespace CommandManual.Console

def inRange (ranges : List (Nat × Nat)) (c : Char) : Bool :=
  ranges.any fun (lo, hi) => lo ≤ c.toNat && c.toNat ≤ hi

def charWidth (c : Char) : Nat :=
  if 0x20 ≤ c.toNat && c.toNat < 0x7f then 1
  else if inRange zeroWidthRanges c then 0
  else if inRange doubleWidthRanges c then 2
  else 1

def joiner : Char := Char.ofNat 0x200d

def emojiSelector : Char := Char.ofNat 0xfe0f

/-- The width of a text whose last character with a width was `last`. A
character after a joiner takes no room of its own, and a selector may widen the
character before it. -/
def widthFrom (last : Option Char) (skip : Bool) : Text → Nat
  | [] => 0
  | c :: r =>
    if skip then widthFrom last false r
    else if c = joiner then widthFrom last true r
    else if c = emojiSelector then
      match last with
      | some w => (if inRange widenedRanges w then 1 else 0) + widthFrom none false r
      | none => widthFrom none false r
    else
      let w := charWidth c
      w + widthFrom (if w = 0 then last else some c) false r

def width (t : Text) : Nat := widthFrom none false t

def isHidden (c : Char) : Bool :=
  let n := c.toNat
  n == 7 || n == 8 || n == 11 || n == 12 || n == 13

def blanks (n : Nat) : Text := List.replicate n ' '

def padTo (total : Nat) (t : Text) : Text := t ++ blanks (total - width t)

/-! ### Glyphs -/

/-- Characters that are shown together, with the room that they take. -/
structure Glyph where
  text : Text
  room : Nat
deriving DecidableEq, Repr

namespace Glyph

def add (c : Char) (g : Glyph) : Glyph := { g with text := g.text ++ [c] }

/-- Whether a character belongs to the glyph before it, whatever its width. -/
def isMark (c : Char) : Bool := c = joiner || c = emojiSelector

/-- The glyphs of a text after the glyph `held`, whose last character with a
width was `last`; `joined` says that the next character belongs to `held`. -/
def split (last : Option Char) (joined : Bool) (held : Glyph) : Text → List Glyph
  | [] => [held]
  | c :: r =>
    if joined then split last false (held.add c) r
    else if c = joiner then split last true (held.add c) r
    else if c = emojiSelector then
      let wider := last.any (inRange widenedRanges)
      split none false { held.add c with room := held.room + if wider then 1 else 0 } r
    else if charWidth c = 0 then split last false (held.add c) r
    else held :: split (some c) false ⟨[c], charWidth c⟩ r

end Glyph

/-- The glyphs of a text. Characters without a width belong to the glyph before
them; at the start of a text they are a glyph of their own. -/
def glyphs : Text → List Glyph
  | [] => []
  | c :: r =>
    if Glyph.isMark c || charWidth c = 0 then Glyph.split none false ⟨[c], 0⟩ r
    else Glyph.split (some c) false ⟨[c], charWidth c⟩ r

/-- The glyphs that fit into some room; a blank stands for half of a glyph. -/
def takeGlyphs : (room : Nat) → List Glyph → Text
  | _, [] => []
  | room, g :: rest =>
    if room = 0 then []
    else if g.room ≤ room then g.text ++ takeGlyphs (room - g.room) rest
    else [' ']

def fitTo (total : Nat) (t : Text) : Text :=
  if width t ≤ total then padTo total t else takeGlyphs total (glyphs t)

end CommandManual.Console
