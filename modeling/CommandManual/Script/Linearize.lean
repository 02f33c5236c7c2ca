import CommandManual.Script.Errors

/-!
The lookup order of a class with several bases. The orders of the bases and the
list of the bases are merged: the next class is the first head that stands in
no tail, and the merge fails when there is none.
-/

namespace CommandManual.Script

def memId (c : Class) (cs : List Class) : Bool := cs.any fun k => k.id == c.id

def nextClass? (lists : List (List Class)) : Option Class :=
  (lists.filterMap List.head?).find? fun c => !(lists.any fun l => memId c l.tail)

def dropHead (c : Class) : List Class → List Class
  | [] => []
  | k :: rest => if k.id == c.id then rest else k :: rest

def uniqueById : List Class → List Class
  | [] => []
  | c :: rest => c :: (uniqueById rest).filter fun k => k.id != c.id

/-- Merges lookup orders, or gives the heads that block each other. -/
def mergeOrders : (fuel : Nat) → List (List Class) → Except (List Class) (List Class)
  | 0, _ => .ok []
  | fuel + 1, lists =>
    match nextClass? lists with
    | some c => do
      let rest ← mergeOrders fuel (lists.map (dropHead c))
      .ok (c :: rest)
    | none =>
      let heads := uniqueById (lists.filterMap List.head?)
      if heads.isEmpty then .ok [] else .error heads

def firstRepeated? : List Class → Option Class
  | [] => none
  | c :: rest => if memId c rest then some c else firstRepeated? rest

/-- The classes after a class with the given bases; without bases it inherits
from the common root alone. -/
def lookupOrder (bases : List Class) : Except ClassFault (List Class) :=
  let bases := if bases.isEmpty then [Class.object] else bases
  match firstRepeated? bases with
  | some c => .error (.duplicateBase c.name)
  | none =>
    let lists := bases.map Class.lineage ++ [bases]
    match mergeOrders (lists.flatten.length + 1) lists with
    | .ok order => .ok order
    | .error heads => .error (.inconsistentBases (heads.map Class.name))

end CommandManual.Script
