import CommandManual.Console.Wrap
import CommandManual.Data.Json.Writer
import CommandManual.Data.TimePattern
import CommandManual.Files.Tree
import CommandManual.Log.Record

/-!
Sinks: where log records go, and the lines that they become there. A sink that
shows the module of a record gives the record its own name for a module when it
has none, and the sinks after it see that.
-/

namespace CommandManual.Log

inductive Layout
  /-- Level, module and message. -/
  | console
  /-- One JSON object on a line. -/
  | json
  /-- Level, module, origin and message. -/
  | structured
  /-- Columns, on the standard output. -/
  | rich
deriving DecidableEq, Repr

/-- The layout of a name; what is no known name means the plain one. -/
def Layout.ofValue : Value → Layout
  | .str "json" => json
  | .str "structured" => structured
  | .str "rich" => rich
  | _ => console

inductive Sink
  /-- Lines on a terminal. -/
  | terminal (level : Level) (layout : Layout) (color stamped : Bool)
  /-- JSON lines at the end of a file. -/
  | file (level : Level) (place : Place)
  /-- A sink that others have put up, which writes nothing here. -/
  | foreign (level : Level)
deriving DecidableEq, Repr

structure Stamp where
  /-- The time as lines show it. -/
  time : String := ""
  origin : String := ""
  moment : Timestamp := ⟨Calendar.epoch, ⟨0, 0, 0, 0⟩, some 0⟩
deriving DecidableEq, Repr

namespace Sink

def level : Sink → Level
  | terminal level .. => level
  | file level _ => level
  | foreign level => level

def takes (s : Sink) (level : Level) : Bool := s.level.number ≤ level.number

def passOn (s : Sink) (r : Record) : Record :=
  match s with
  | terminal _ .console .. | terminal _ .structured .. =>
    if r.module?.isSome then r else { r with extra := r.extra ++ [("module", .str r.source)] }
  | _ => r

end Sink

/-! ### Lines -/

def padded (s : String) : String := s ++ String.ofList (List.replicate (8 - s.length) ' ')

def moduleText (r : Record) : String := (r.module?.map Value.display).getD r.source

def timeText (stamped : Bool) (stamp : Stamp) : String := if stamped then stamp.time ++ " " else ""

def consoleLine (stamped : Bool) (stamp : Stamp) (r : Record) : String :=
  timeText stamped stamp ++ padded r.level.name ++ " | " ++ moduleText r ++ " | " ++ r.message ++
    "\n"

def structuredLine (stamped : Bool) (stamp : Stamp) (r : Record) : String :=
  timeText stamped stamp ++ "[" ++ padded r.level.name ++ "]" ++ moduleText r ++ ":" ++
    stamp.origin ++ " | " ++ r.message ++ "\n"

def jsonLine (r : Record) : String :=
  let level := Value.table [("name", .str r.level.name), ("no", .int r.level.number)]
  Json.compact (.table
    [("text", .str (r.message ++ "\n")),
      ("record", .table
        [("extra", .table r.extra), ("level", level), ("message", .str r.message),
          ("name", .str r.source)])]) ++ "\n"

/-- Level and message side by side on a screen. The level has the room that it needs,
and a long message is folded within what is left. -/
def columnLines (screenWidth : Nat) (r : Record) : String :=
  let clean := r.message.toList.filter fun c => !Console.isHidden c
  let level := (padded r.level.name).toList
  let levelRoom := min level.length (screenWidth - 2)
  let left := Console.wrap levelRoom .ellipsis (Console.Styled.ofText level)
  let right := Console.wrap (screenWidth - 1 - levelRoom) .fold (Console.Styled.ofText clean)
  let line (n : Nat) : Text :=
    Text.dropEndWhile (· == ' ')
      (Console.padTo levelRoom ((left[n]?.map Console.Styled.text).getD []) ++
        ' ' :: (right[n]?.map Console.Styled.text).getD [])
  String.ofList
    ((List.range (max left.length right.length)).flatMap fun n => line n ++ ['\n'])

end CommandManual.Log
