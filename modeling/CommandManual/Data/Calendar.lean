/-!
Dates, times of day and points in time, with the two ways in which they are
written: the ISO form, and the constructor form used inside other values.
-/

namespace CommandManual

structure Date where
  year : Nat
  month : Nat
  day : Nat
deriving DecidableEq, Repr

structure TimeOfDay where
  hour : Nat
  minute : Nat
  second : Nat
  microsecond : Nat
deriving DecidableEq, Repr

/-- A date with a time of day; `offset` is the distance from universal time in
minutes, for a point in time that is not local. -/
structure Timestamp where
  date : Date
  time : TimeOfDay
  offset : Option Int
deriving DecidableEq, Repr

namespace Calendar

def padded (width n : Nat) : String :=
  let digits := toString n
  String.ofList (List.replicate (width - digits.length) '0') ++ digits

def isLeapYear (year : Nat) : Bool :=
  year % 4 == 0 && (year % 100 != 0 || year % 400 == 0)

def daysInMonth (year month : Nat) : Nat :=
  if month == 2 then if isLeapYear year then 29 else 28
  else if month == 4 || month == 6 || month == 9 || month == 11 then 30
  else 31

end Calendar

open Calendar

def Date.isValid (d : Date) : Bool :=
  1 ≤ d.year && 1 ≤ d.month && d.month ≤ 12 && 1 ≤ d.day && d.day ≤ daysInMonth d.year d.month

def Date.iso (d : Date) : String :=
  padded 4 d.year ++ "-" ++ padded 2 d.month ++ "-" ++ padded 2 d.day

def Date.constructorForm (d : Date) : String :=
  "datetime.date(" ++ toString d.year ++ ", " ++ toString d.month ++ ", " ++ toString d.day ++ ")"

def TimeOfDay.iso (t : TimeOfDay) : String :=
  padded 2 t.hour ++ ":" ++ padded 2 t.minute ++ ":" ++ padded 2 t.second ++
    (if t.microsecond = 0 then "" else "." ++ padded 6 t.microsecond)

def TimeOfDay.constructorArguments (t : TimeOfDay) : List Nat :=
  if t.microsecond ≠ 0 then [t.hour, t.minute, t.second, t.microsecond]
  else if t.second ≠ 0 then [t.hour, t.minute, t.second]
  else [t.hour, t.minute]

def TimeOfDay.constructorForm (t : TimeOfDay) : String :=
  "datetime.time(" ++ String.intercalate ", " (t.constructorArguments.map toString) ++ ")"

namespace Timestamp

def offsetIso (minutes : Int) : String :=
  (if minutes < 0 then "-" else "+") ++ padded 2 (minutes.natAbs / 60) ++ ":" ++
    padded 2 (minutes.natAbs % 60)

def iso (t : Timestamp) : String :=
  t.date.iso ++ " " ++ t.time.iso ++ (t.offset.map offsetIso).getD ""

/-- A zone is written as a distance in days and seconds, the seconds never negative. -/
def zoneForm (minutes : Int) : String :=
  if minutes = 0 then "datetime.timezone.utc"
  else
    let distance :=
      if minutes < 0 then "days=-1, seconds=" ++ toString (86400 + minutes * 60)
      else "seconds=" ++ toString (minutes * 60)
    "datetime.timezone(datetime.timedelta(" ++ distance ++ "))"

def constructorForm (t : Timestamp) : String :=
  let numbers := [t.date.year, t.date.month, t.date.day] ++ t.time.constructorArguments
  let zone := (t.offset.map fun z => ["tzinfo=" ++ zoneForm z]).getD []
  "datetime.datetime(" ++ String.intercalate ", " (numbers.map toString ++ zone) ++ ")"

end Timestamp

end CommandManual
