import CommandManual.Data.Calendar
import CommandManual.Text.Search

/-!
Points in time laid out by a pattern. Runs of letters in a pattern stand for
parts of the time, a run between brackets stands for itself, and everything else
is kept. A pattern with a percent sign uses another alphabet, in which each
letter follows such a sign.
-/

namespace CommandManual

namespace Calendar

def daysBefore (year month : Nat) : Nat :=
  (List.range (month - 1)).foldl (fun n m => n + daysInMonth year (m + 1)) 0

def dayOfYear (d : Date) : Nat := daysBefore d.year d.month + d.day

/-- The number of days before a date, from the beginning of the first year. -/
def dayNumber (d : Date) : Nat :=
  let years := d.year - 1
  years * 365 + years / 4 - years / 100 + years / 400 + dayOfYear d - 1

def weekday (d : Date) : Nat := dayNumber d % 7

def monthNames : List String :=
  ["January", "February", "March", "April", "May", "June", "July", "August", "September",
    "October", "November", "December"]

def dayNames : List String :=
  ["Monday", "Tuesday", "Wednesday", "Thursday", "Friday", "Saturday", "Sunday"]

def shortName (name : String) : String := String.ofList (name.toList.take 3)

def epoch : Date := ⟨1970, 1, 1⟩

end Calendar

open Calendar

namespace Timestamp

def seconds (t : Timestamp) : Int :=
  ((dayNumber t.date : Int) - dayNumber epoch) * 86400 + t.time.hour * 3600 +
    t.time.minute * 60 + t.time.second - t.offset.getD 0 * 60

def offsetText (t : Timestamp) (mark : String) : String :=
  let minutes := t.offset.getD 0
  (if minutes < 0 then "-" else "+") ++ padded 2 (minutes.natAbs / 60) ++ mark ++
    padded 2 (minutes.natAbs % 60)

def nameAt (names : List String) (n : Nat) : String := names[n]?.getD ""

def part? (t : Timestamp) (run : String) : Option String :=
  let d := t.date
  let c := t.time
  let hour12 := (c.hour + 11) % 12 + 1
  match run with
  | "YYYY" => some (padded 4 d.year)
  | "YY" => some (padded 2 (d.year % 100))
  | "Q" => some (toString ((d.month - 1) / 3 + 1))
  | "MMMM" => some (nameAt monthNames (d.month - 1))
  | "MMM" => some (shortName (nameAt monthNames (d.month - 1)))
  | "MM" => some (padded 2 d.month)
  | "M" => some (toString d.month)
  | "DDDD" => some (padded 3 (dayOfYear d))
  | "DDD" => some (toString (dayOfYear d))
  | "DD" => some (padded 2 d.day)
  | "D" => some (toString d.day)
  | "dddd" => some (nameAt dayNames (weekday d))
  | "ddd" => some (shortName (nameAt dayNames (weekday d)))
  | "d" => some (toString (weekday d))
  | "E" => some (toString (weekday d + 1))
  | "HH" => some (padded 2 c.hour)
  | "H" => some (toString c.hour)
  | "hh" => some (padded 2 hour12)
  | "h" => some (toString hour12)
  | "mm" => some (padded 2 c.minute)
  | "m" => some (toString c.minute)
  | "ss" => some (padded 2 c.second)
  | "s" => some (toString c.second)
  | "S" | "SS" | "SSS" | "SSSS" | "SSSSS" | "SSSSSS" =>
    some (String.ofList ((padded 6 c.microsecond).toList.take run.length))
  | "A" => some (if c.hour < 12 then "AM" else "PM")
  | "Z" => some (t.offsetText ":")
  | "ZZ" => some (t.offsetText "")
  | "zz" => some "UTC"
  | "X" => some (toString t.seconds)
  | "x" => some (toString (t.seconds * 1000000 + c.microsecond))
  | _ => none

/-- The longest run at the front of a pattern that has a meaning, of at most
`length` letters. -/
def leadingRun? (t : Timestamp) : (length : Nat) → Text → Option (Text × String)
  | 0, _ => none
  | length + 1, pattern =>
    let run := pattern.take (length + 1)
    if run.length ≤ length then leadingRun? t length pattern
    else
      match t.part? (String.ofList run) with
      | some text => some (run, text)
      | none => leadingRun? t length pattern

def longestRun : Nat := 6

/-- A run between brackets at the front of a pattern, and what follows it. -/
def bracketed? (t : Timestamp) (pattern : Text) : Option (Text × Text) :=
  match pattern with
  | '[' :: inner =>
    let word := inner.takeWhile (· != ']')
    let isRun := (t.leadingRun? longestRun word).any fun (run, _) => run == word
    if (isRun || word.isEmpty || word == "!UTC".toList) && word.length < inner.length then
      some (word, inner.drop (word.length + 1))
    else none
  | _ => none

/-- Lays out a pattern of runs of letters; each step takes at least one letter. -/
def ofRuns (t : Timestamp) : (fuel : Nat) → Text → Text
  | 0, _ => []
  | _, [] => []
  | fuel + 1, c :: rest =>
    match t.bracketed? (c :: rest), t.leadingRun? longestRun (c :: rest) with
    | some (word, after), _ => word ++ ofRuns t fuel after
    | none, some (run, text) => text.toList ++ ofRuns t fuel ((c :: rest).drop run.length)
    | none, none => c :: ofRuns t fuel rest

def letterText (t : Timestamp) (letter : Char) : String :=
  let run : Option String :=
    match letter with
    | 'Y' => some "YYYY"
    | 'y' => some "YY"
    | 'm' => some "MM"
    | 'd' => some "DD"
    | 'H' => some "HH"
    | 'I' => some "hh"
    | 'M' => some "mm"
    | 'S' => some "ss"
    | 'f' => some "SSSSSS"
    | 'j' => some "DDDD"
    | 'p' => some "A"
    | 'B' => some "MMMM"
    | 'b' | 'h' => some "MMM"
    | 'A' => some "dddd"
    | 'a' => some "ddd"
    | 'u' => some "E"
    | 'z' => some "ZZ"
    | 'Z' => some "zz"
    | 's' => some "X"
    | _ => none
  match run.bind t.part?, letter with
  | some text, _ => text
  | none, '%' => "%"
  | none, 'n' => "\n"
  | none, 't' => "\t"
  | none, letter => String.ofList ['%', letter]

def ofLetters (t : Timestamp) : Text → Text
  | '%' :: letter :: rest => (t.letterText letter).toList ++ ofLetters t rest
  | c :: rest => c :: ofLetters t rest
  | [] => []

def fullPattern : Text := "%Y-%m-%dT%H:%M:%S.%f%z".toList

/-- A time laid out by a pattern, unless it asks for more than microseconds. -/
def laidOut? (t : Timestamp) (pattern : Text) : Option Text :=
  let utc := "!UTC".toList
  let pattern := if utc.isSuffixOf pattern then pattern.dropLast.dropLast.dropLast.dropLast
    else pattern
  let pattern := if pattern.isEmpty then fullPattern else pattern
  if pattern.any (· == '%') then some (t.ofLetters pattern)
  else if (Text.cut? "SSSSSSS".toList pattern).isSome then none
  else some (t.ofRuns pattern.length pattern)

end Timestamp

end CommandManual
