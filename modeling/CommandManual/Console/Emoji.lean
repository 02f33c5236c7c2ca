import CommandManual.Console.EmojiTable
import CommandManual.Text.Casing
import CommandManual.Text.Search

/-!
Emoji codes: a name between colons stands for the emoji of that name. An ending
`-text` or `-emoji` asks for one of its two forms.
-/

namespace CommandManual.Console

def emojiEntries : List (String × String) :=
  (Text.lines emojiTable.toList).map fun line =>
    let name := line.takeWhile (· != ' ')
    (String.ofList name, String.ofList (line.drop (name.length + 1)))

def emoji? (name : Text) : Option Text :=
  (emojiEntries.lookup (String.ofList (Text.toLower name))).map String.toList

def emojiForms : List (Text × Text) :=
  [("-emoji:".toList, [Char.ofNat 0xfe0f]), ("-text:".toList, [Char.ofNat 0xfe0e])]

/-- The name at the front of a text, the selector it asks for, and how many
characters they take with the closing colon. -/
def emojiCode? : Text → Option (Text × Text × Nat)
  | [] => none
  | c :: r =>
    match emojiForms.find? fun (ending, _) => Text.startsWith ending (c :: r) with
    | some (ending, selector) => some ([], selector, ending.length)
    | none =>
      if c = ':' then some ([], [], 1)
      else if Text.isBlank c then none
      else (emojiCode? r).map fun (name, selector, used) => (c :: name, selector, used + 1)

/-- Replaces codes by what their names stand for; `skip` characters of one are still to be
passed over. -/
def replaceCodes (named : Text → Option Text) : (skip : Nat) → Text → Text
  | _, [] => []
  | skip + 1, _ :: r => replaceCodes named skip r
  | 0, c :: r =>
    if c = ':' then
      match emojiCode? r with
      | none => c :: replaceCodes named 0 r
      | some (name, selector, used) =>
        match named name with
        | some shown => shown ++ selector ++ replaceCodes named used r
        | none => c :: r.take used ++ replaceCodes named used r
    else c :: replaceCodes named 0 r

def replaceEmoji (t : Text) : Text := replaceCodes emoji? 0 t

end CommandManual.Console
