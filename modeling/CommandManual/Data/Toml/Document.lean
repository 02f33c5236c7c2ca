import CommandManual.Data.Toml.Reader

/-!
TOML documents. A document is a sequence of sections, each with pairs of keys
and values; a header opens a table, or adds one to an array of tables. A table
is declared at most once, tables made by keys with dots belong to the section
that made them, and inline values cannot be added to.
-/

namespace CommandManual.Toml

/-- How a table came about, which decides what may be added to it. -/
inductive Origin
  /-- On the way to another table. -/
  | implied
  /-- By its own header. -/
  | declared
  /-- By keys with dots in the section of that number. -/
  | dotted (number : Nat)
deriving DecidableEq, Repr

inductive Node
  | value (v : Value)
  | table (origin : Origin) (fields : List (String × Node))
  /-- An array of tables; the last one is open. -/
  | tables (earlier : List Node) (last : Node)

abbrev Fields := List (String × Node)

mutual

def Node.toValue : Node → Value
  | .value v => v
  | .table _ fields => .table (valuesOf fields)
  | .tables earlier last => .list (valuesOfAll earlier ++ [last.toValue])

def valuesOf : List (String × Node) → List (String × Value)
  | [] => []
  | (k, n) :: rest => (k, n.toValue) :: valuesOf rest

def valuesOfAll : List Node → List Value
  | [] => []
  | n :: rest => n.toValue :: valuesOfAll rest

end

/-! ### Adding to a document -/

/-- Changes the fields of the table that a header's names lead to, and makes
the tables on the way. -/
def within (change : Fields → Except Error Fields) : List String → Fields → Except Error Fields
  | [], fields => change fields
  | name :: rest, fields =>
    match fields.lookup name with
    | none => do .ok (fields ++ [(name, .table .implied (← within change rest []))])
    | some (.table origin inner) => do
      .ok (assign name (.table origin (← within change rest inner)) fields)
    | some (.tables earlier (.table origin inner)) => do
      .ok (assign name (.tables earlier (.table origin (← within change rest inner))) fields)
    | some _ => .error .malformed

def declareTable (name : String) (fields : Fields) : Except Error Fields :=
  match fields.lookup name with
  | none => .ok (fields ++ [(name, .table .declared [])])
  | some (.table .implied inner) => .ok (assign name (.table .declared inner) fields)
  | some _ => .error .malformed

def addTable (name : String) (fields : Fields) : Except Error Fields :=
  match fields.lookup name with
  | none => .ok (fields ++ [(name, .tables [] (.table .declared []))])
  | some (.tables earlier last) =>
    .ok (assign name (.tables (earlier ++ [last]) (.table .declared [])) fields)
  | some _ => .error .malformed

/-- Sets a value under a key, whose parts before the last one name tables of
the section. -/
def setValue (number : Nat) (v : Value) : List String → Fields → Except Error Fields
  | [], _ => .error .malformed
  | [name], fields =>
    match fields.lookup name with
    | none => .ok (fields ++ [(name, .value v)])
    | some _ => .error .malformed
  | name :: rest, fields =>
    match fields.lookup name with
    | none => do .ok (fields ++ [(name, .table (.dotted number) (← setValue number v rest []))])
    | some (.table .implied inner) => do
      .ok (assign name (.table (.dotted number) (← setValue number v rest inner)) fields)
    | some (.table (.dotted other) inner) =>
      if other = number then do
        .ok (assign name (.table (.dotted number) (← setValue number v rest inner)) fields)
      else .error .malformed
    | some _ => .error .malformed

def tableOfPairs (pairs : List (List String × Value)) : Except Error Value := do
  let fields ← pairs.foldlM (fun fields (names, v) => setValue 0 v names fields) []
  .ok (.table (valuesOf fields))

/-! ### Reading a document -/

/-- A value. An array inside another costs two of `depth`, an inline table three. -/
def value (depth : Nat) (t : Text) : Except Error (Value × Text) :=
  match t with
  | '[' :: r =>
    match depth with
    | d + 2 => do
      let (vs, rest) ← arrayMembers (value d) (r.length + 1) r
      .ok (.list vs, rest)
    | _ => .error .tooDeep
  | '\x7b' :: r =>
    match depth with
    | d + 3 =>
      match skipSpace r with
      | '\x7d' :: rest => .ok (.table [], rest)
      | r => do
        let (pairs, rest) ← tablePairs (value d) (r.length + 1) r
        .ok (← tableOfPairs pairs, rest)
    | _ => .error .tooDeep
  | t => scalar t

def depthLimit : Nat := 970

structure State where
  fields : Fields := []
  /-- The names of the last header. -/
  header : List String := []
  /-- The number of headers so far. -/
  number : Nat := 0

def readHeader (close : Text) (change : String → Fields → Except Error Fields) (s : State) :
    Reader State := fun t => do
  let (names, rest) ← key (t.length + 1) (skipSpace t)
  let fields ←
    match names.getLast? with
    | some name => within (change name) names.dropLast s.fields
    | none => .error .malformed
  match Text.after? close rest with
  | some rest => .ok (⟨fields, names, s.number + 1⟩, rest)
  | none => .error .malformed

def readStatement (s : State) : Reader State := fun t =>
  match t with
  | '[' :: '[' :: r => readHeader [']', ']'] addTable s r
  | '[' :: r => readHeader [']'] declareTable s r
  | '#' :: r => .ok (s, '#' :: r)
  | t => do
    let ((names, v), rest) ← keyValue (value depthLimit) t
    let fields ← within (setValue s.number v names) s.header s.fields
    .ok ({ s with fields }, rest)

def readLines : (fuel : Nat) → State → Text → Except Error State
  | 0, s, _ => .ok s
  | fuel + 1, s, t =>
    match skipSpace t with
    | [] => .ok s
    | '\n' :: rest => readLines fuel s rest
    | t => do
      let (s, rest) ← readStatement s t
      match ← skipComment (skipSpace rest) with
      | [] => .ok s
      | '\n' :: rest => readLines fuel s rest
      | _ => .error .malformed

def joinBreaks : Text → Text
  | '\r' :: '\n' :: r => '\n' :: joinBreaks r
  | c :: r => c :: joinBreaks r
  | [] => []

def parse (doc : Text) : Except Error (List (String × Value)) := do
  let doc := joinBreaks doc
  let s ← readLines (doc.length + 1) {} doc
  .ok (valuesOf s.fields)

end CommandManual.Toml
