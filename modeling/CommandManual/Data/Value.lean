import CommandManual.Data.Calendar
import CommandManual.Number.Shortest
import CommandManual.Text.Quoted

/-!
The values that manifests and settings are made of, and their texts in
messages. A table keeps the order in which its keys were first written.
-/

namespace CommandManual

inductive Value
  | null
  | bool (b : Bool)
  | int (n : Int)
  | float (x : Binary64)
  | str (s : String)
  | date (d : Date)
  | time (t : TimeOfDay)
  | timestamp (t : Timestamp)
  | list (items : List Value)
  | table (fields : List (String × Value))
deriving Inhabited, Repr

namespace Value

def kindName : Value → String
  | null => "NoneType"
  | bool _ => "bool"
  | int _ => "int"
  | float _ => "float"
  | str _ => "str"
  | date _ => "datetime.date"
  | time _ => "datetime.time"
  | timestamp _ => "datetime.datetime"
  | list _ => "list"
  | table _ => "dict"

/-- Whether a value counts as given: not null, false, zero or empty. -/
def isTruthy : Value → Bool
  | null => false
  | bool b => b
  | int n => n != 0
  | float x => !x.isZero
  | str s => s != ""
  | list items => !items.isEmpty
  | table fields => !fields.isEmpty
  | _ => true

mutual

/-- The text of a value inside other values: texts stand between quotes. -/
def quoted : Value → String
  | null => "None"
  | bool b => if b then "True" else "False"
  | int n => toString n
  | float x => x.toText
  | str s => Text.quoted s
  | date d => d.constructorForm
  | time t => t.constructorForm
  | timestamp t => t.constructorForm
  | list items => "[" ++ String.intercalate ", " (quotedItems items) ++ "]"
  | table fields => "\x7b" ++ String.intercalate ", " (quotedFields fields) ++ "\x7d"

def quotedItems : List Value → List String
  | [] => []
  | v :: vs => quoted v :: quotedItems vs

def quotedFields : List (String × Value) → List String
  | [] => []
  | (k, v) :: fs => (Text.quoted k ++ ": " ++ quoted v) :: quotedFields fs

end

def unshownBound : Nat := Nat.pow 10 4300

mutual

/-- Whether an integer that is too long to be shown occurs in a value. -/
def hasLongInteger : Value → Bool
  | int n => unshownBound ≤ n.natAbs
  | list items => anyLongInteger items
  | table fields => anyLongField fields
  | _ => false

def anyLongInteger : List Value → Bool
  | [] => false
  | v :: vs => hasLongInteger v || anyLongInteger vs

def anyLongField : List (String × Value) → Bool
  | [] => false
  | (_, v) :: fs => hasLongInteger v || anyLongField fs

end

def display : Value → String
  | str s => s
  | date d => d.iso
  | time t => t.iso
  | timestamp t => t.iso
  | v => quoted v

/-- A number as a numerator and a denominator, which is zero for infinities. -/
def ratio? : Value → Option (Int × Nat)
  | int n => some (n, 1)
  | bool b => some (if b then 1 else 0, 1)
  | float (.finite negative m e) =>
    let (num, den) := Binary64.ratio m e
    some (if negative then -(num : Int) else num, den)
  | float (.infinite negative) => some (if negative then -1 else 1, 0)
  | _ => none

def sameNumber (x y : Value) : Bool :=
  match x.ratio?, y.ratio? with
  | some (n, 0), some (m, 0) => n == m
  | some (_, 0), some _ | some _, some (_, 0) => false
  | some (n, d), some (m, e) => n * e == m * d
  | _, _ => false

mutual

/-- Whether two values count as equal: numbers by what they amount to, tables
whatever the order of their keys. -/
def agrees : Value → Value → Bool
  | null, null => true
  | str s, str t => s == t
  | date d, date e => d == e
  | time t, time u => t == u
  | timestamp t, timestamp u => t == u
  | list items, list others => agreeAll items others
  | table fields, table others => fields.length == others.length && fieldsAgree fields others
  | x, y => x.sameNumber y

def agreeAll : List Value → List Value → Bool
  | [], [] => true
  | v :: vs, w :: ws => agrees v w && agreeAll vs ws
  | _, _ => false

def fieldsAgree : List (String × Value) → List (String × Value) → Bool
  | [], _ => true
  | (k, v) :: fs, others => (others.lookup k).any (agrees v) && fieldsAgree fs others

end

def get? (key : String) : Value → Option Value
  | table fields => fields.lookup key
  | _ => none

end Value

/-- Sets a key: in its place when it is there, at the end otherwise. -/
def assign {κ α : Type} [BEq κ] (key : κ) (value : α) : List (κ × α) → List (κ × α)
  | [] => [(key, value)]
  | (k, v) :: rest => if key == k then (k, value) :: rest else (k, v) :: assign key value rest

section assign

variable {κ α : Type} [BEq κ] [LawfulBEq κ]

@[simp] theorem lookup_assign_self (key : κ) (value : α) (fields : List (κ × α)) :
    (assign key value fields).lookup key = some value := by
  induction fields with
  | nil => simp [assign]
  | cons f rest ih =>
    obtain ⟨k, v⟩ := f
    cases h : key == k <;> simp [assign, h, ih, List.lookup_cons]

theorem lookup_assign_of_ne {key other : κ} (h : other ≠ key) (value : α)
    (fields : List (κ × α)) :
    (assign key value fields).lookup other = fields.lookup other := by
  have hne : (other == key) = false := beq_false_of_ne h
  induction fields with
  | nil => simp [assign, List.lookup_cons, hne]
  | cons f rest ih =>
    obtain ⟨k, v⟩ := f
    cases hk : key == k with
    | true =>
      obtain rfl := eq_of_beq hk
      simp [assign, List.lookup_cons, hne]
    | false => simp [assign, hk, List.lookup_cons, ih]

end assign

end CommandManual
