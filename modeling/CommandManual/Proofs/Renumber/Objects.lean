import CommandManual.Proofs.Data.Keys
import CommandManual.Script.Attribute

/-!
Other numbers for the classes and modules of command files. Classes and modules are
told apart by their numbers, and nothing else is done with them: what is looked up,
called or made of objects under other numbers is the same as before, under the other
numbers. What the program brings along keeps its numbers.
-/

namespace CommandManual.Script

structure Renumbering where
  classes : Nat
  modules : Nat

def Renumbering.classId (r : Renumbering) (id : Nat) : Nat :=
  if id < firstOwnId then id else id + r.classes

mutual

def Object.renumber (r : Renumbering) : Object → Object
  | .boundMethod f self => .boundMethod f (self.renumber r)
  | .module index => .module (index + r.modules)
  | .objectOf c => .objectOf (c.renumber r)
  | .cls c => .cls (c.renumber r)
  | .function f => .function f
  | .staticMethod f => .staticMethod f
  | .classMethod f => .classMethod f
  | .property f => .property f
  | .callable => .callable
  | .value v => .value v
  | .computed kind gives => .computed kind gives
  | .other kind => .other kind
  | .searchPath => .searchPath
  | .pathMethod name => .pathMethod name

def Class.renumber (r : Renumbering) : Class → Class
  | .mk id name own ancestors =>
    .mk (r.classId id) name (renumberNames r own) (renumberClasses r ancestors)

def renumberNames (r : Renumbering) : List (String × Object) → List (String × Object)
  | [] => []
  | (name, o) :: rest => (name, o.renumber r) :: renumberNames r rest

def renumberClasses (r : Renumbering) : List Class → List Class
  | [] => []
  | c :: rest => c.renumber r :: renumberClasses r rest

end

variable (r : Renumbering)

namespace Renumbering

theorem classId_of_lt {id : Nat} (h : id < firstOwnId) : r.classId id = id := if_pos h

theorem classId_of_le {id : Nat} (h : firstOwnId ≤ id) : r.classId id = id + r.classes :=
  if_neg (Nat.not_lt.mpr h)

theorem classId_inj {a b : Nat} : r.classId a = r.classId b ↔ a = b := by
  unfold classId
  split <;> split <;> omega

@[simp] theorem classId_beq (a b : Nat) : (r.classId a == r.classId b) = (a == b) := by
  rw [Bool.eq_iff_iff, beq_iff_eq, beq_iff_eq, classId_inj]

theorem classId_lt_iff {id bound : Nat} (h : bound ≤ firstOwnId) :
    r.classId id < bound ↔ id < bound := by
  unfold classId
  split <;> omega

end Renumbering

/-! ### Lists of names and of classes -/

theorem renumberNames_eq_map (names : List (String × Object)) :
    renumberNames r names = names.map fun p => (p.1, p.2.renumber r) := by
  induction names with
  | nil => rfl
  | cons p rest ih => exact congrArg _ ih

theorem renumberClasses_eq_map (cs : List Class) :
    renumberClasses r cs = cs.map (Class.renumber r) := by
  induction cs with
  | nil => rfl
  | cons c rest ih => exact congrArg _ ih

@[simp] theorem lookup_renumberNames (names : List (String × Object)) (name : String) :
    (renumberNames r names).lookup name = (names.lookup name).map (Object.renumber r) := by
  induction names with
  | nil => rfl
  | cons p rest ih =>
      rw [renumberNames, List.lookup_cons, List.lookup_cons]
      split
      · rfl
      · exact ih

@[simp] theorem renumberNames_append (names more : List (String × Object)) :
    renumberNames r (names ++ more) = renumberNames r names ++ renumberNames r more := by
  simp [renumberNames_eq_map]

theorem keys_renumberNames (names : List (String × Object)) :
    (renumberNames r names).map Prod.fst = names.map Prod.fst := by
  simp [renumberNames_eq_map, Function.comp_def]

theorem filter_renumberNames (keep : String → Bool) (names : List (String × Object)) :
    (renumberNames r names).filter (fun p => keep p.1) =
      renumberNames r (names.filter fun p => keep p.1) := by
  simp [renumberNames_eq_map, List.filter_map, Function.comp_def]

theorem assign_renumberNames (name : String) (o : Object) (names : List (String × Object)) :
    assign name (o.renumber r) (renumberNames r names) =
      renumberNames r (assign name o names) := by
  induction names with
  | nil => rfl
  | cons p rest ih =>
      rw [renumberNames, assign, assign]
      split
      · rfl
      · rw [ih]
        rfl

/-! ### Classes -/

namespace Class

variable (c : Class)

@[simp] theorem id_renumber : (c.renumber r).id = r.classId c.id := by
  cases c
  rfl

@[simp] theorem name_renumber : (c.renumber r).name = c.name := by
  cases c
  rfl

@[simp] theorem own_renumber : (c.renumber r).own = renumberNames r c.own := by
  cases c
  rfl

@[simp] theorem ancestors_renumber :
    (c.renumber r).ancestors = c.ancestors.map (Class.renumber r) := by
  cases c
  exact renumberClasses_eq_map r _

@[simp] theorem lineage_renumber : (c.renumber r).lineage = c.lineage.map (Class.renumber r) := by
  simp [lineage]

@[simp] theorem inherits_renumber (id : Nat) :
    (c.renumber r).inherits (r.classId id) = c.inherits id := by
  simp [inherits, Function.comp_def]

@[simp] theorem isKnown_renumber : (c.renumber r).isKnown = c.isKnown := by
  have bound : firstFreeId ≤ firstOwnId := Nat.le_add_right _ _
  simp [isKnown, r.classId_lt_iff bound]

@[simp] theorem isError_renumber (errorName : String) :
    (c.renumber r).isError errorName = c.isError errorName := by
  simp [isError, Function.comp_def]

end Class

/-! ### Objects -/

namespace Object

variable (o : Object)

@[simp] theorem className_renumber : (o.renumber r).className = o.className := by
  cases o <;> simp [renumber, className]

@[simp] theorem kindName_renumber : (o.renumber r).kindName = o.kindName := by
  simp [kindName]

@[simp] theorem isComputed_renumber : (o.renumber r).isComputed = o.isComputed := by
  cases o <;> rfl

@[simp] theorem asMethod?_renumber : (o.renumber r).asMethod? = o.asMethod? := by
  cases o <;> rfl

@[simp] theorem asClass?_renumber :
    (o.renumber r).asClass? = o.asClass?.map (Class.renumber r) := by
  cases o <;> rfl

@[simp] theorem renumber_ofKind (kind : String) : (ofKind kind).renumber r = ofKind kind := by
  unfold ofKind
  split <;> rfl

@[simp] theorem renumber_docObject (doc : DocValue) : doc.object.renumber r = doc.object := by
  cases doc <;> rfl

theorem onClass_renumber (c : Class) :
    (o.renumber r).onClass (c.renumber r) = (o.onClass c).renumber r := by
  cases o with
  | other kind =>
      simp only [renumber]
      unfold onClass
      split <;> rfl
  | _ => rfl

theorem bound?_renumber (c : Class) (self : Object) :
    Object.bound? (c.renumber r) (self.renumber r) (o.renumber r) =
      (Object.bound? c self o).map (Object.renumber r) := by
  cases o with
  | other kind =>
      simp only [renumber]
      unfold bound?
      split <;> first | rfl | simp_all
  | computed kind gives =>
      simp only [renumber, bound?]
      split <;> simp
  | _ => rfl

theorem bind_bound?_renumber (member : Option Object) (c : Class) :
    (member.map (renumber r)).bind (Object.bound? (c.renumber r) (o.renumber r)) =
      (member.bind (Object.bound? c o)).map (renumber r) := by
  cases member with
  | none => rfl
  | some m => exact bound?_renumber r m c o

/-- A member as it is seen on an object, or by itself. -/
theorem getD_bound?_renumber (c : Class) (member : Object) :
    (Object.bound? (c.renumber r) (o.renumber r) (member.renumber r)).getD (member.renumber r) =
      ((Object.bound? c o member).getD member).renumber r := by
  rw [bound?_renumber]
  cases Object.bound? c o member <;> rfl

end Object

/-! ### What the program brings along -/

theorem renumber_tableObject (className : String) (letter : Char) (kind : String) :
    (tableObject className letter kind).renumber r = tableObject className letter kind := by
  unfold tableObject
  split <;> simp [Object.renumber]

theorem renumberNames_tableMembers (className : String) (chosen : Char → Bool) :
    renumberNames r (tableMembers className chosen) = tableMembers className chosen := by
  rw [renumberNames_eq_map]
  refine (List.map_congr_left fun p hp => ?_).trans (List.map_id _)
  obtain ⟨line, -, hline⟩ := List.mem_flatMap.mp hp
  obtain ⟨w, -, rfl⟩ := List.mem_map.mp hline
  exact Prod.ext rfl (renumber_tableObject r _ _ _)

@[simp] theorem map_renumber_knownMember? (className name : String) :
    (knownMember? className name).map (Object.renumber r) = knownMember? className name := by
  unfold knownMember?
  rw [← lookup_renumberNames, renumberNames_tableMembers]

@[simp] theorem map_renumber_heldByKnown? (className name : String) :
    (heldByKnown? className name).map (Object.renumber r) = heldByKnown? className name := by
  unfold heldByKnown?
  rw [← lookup_renumberNames, renumberNames_tableMembers]

theorem Class.renumber_eq_self {c : Class} (id : c.id < firstOwnId)
    (own : renumberNames r c.own = c.own) (ancestors : ∀ k ∈ c.ancestors, k.renumber r = k) :
    c.renumber r = c := by
  obtain ⟨id', name, own', ancestors'⟩ := c
  have later : ancestors'.map (Class.renumber r) = ancestors' :=
    (List.map_congr_left ancestors).trans (List.map_id _)
  have same : r.classId id' = id' := r.classId_of_lt id
  rw [renumber, same, renumberClasses_eq_map, later]
  exact congrArg (Class.mk id' name · ancestors') own

@[simp] theorem renumber_object : Class.object.renumber r = Class.object :=
  Class.renumber_eq_self r (Nat.zero_lt_succ _) rfl fun k hk => by cases hk

/-- The known classes keep their numbers. -/
theorem renumber_of_mem_buildKnown {next : Nat} {known : List (String × Class)}
    {rest : List (String × String)} (room : next + rest.length ≤ firstOwnId)
    (h : ∀ p ∈ known, ∀ k ∈ p.2.lineage, k.renumber r = k) :
    ∀ p ∈ buildKnown next known rest, ∀ k ∈ p.2.lineage, k.renumber r = k := by
  induction rest generalizing next known with
  | nil => exact h
  | cons entry rest ih =>
      obtain ⟨name, parent⟩ := entry
      have lineageOf (parent : String) :
          ∀ k ∈ ((known.lookup parent).map Class.lineage).getD [Class.object],
            k.renumber r = k := by
        rcases hlookup : known.lookup parent with _ | c
        · intro k hk
          rw [List.mem_singleton.mp hk]
          exact renumber_object r
        · exact h (parent, c) (mem_of_lookup hlookup)
      rw [List.length_cons] at room
      -- The class that is added has a known number, and so have all that it comes after.
      unfold buildKnown
      refine ih (by omega) ?_
      intro p hp
      rcases List.mem_append.mp hp with hp | hp
      · exact h p hp
      have made := List.mem_singleton.mp hp
      have later : ∀ k ∈ p.2.ancestors, k.renumber r = k := by
        rw [made]
        intro k hk
        dsimp only [Class.ancestors] at hk
        split at hk
        · exact lineageOf parent k hk
        · rcases List.mem_append.mp hk with hk | hk
          · exact lineageOf parent k (List.mem_of_mem_filter hk)
          · exact lineageOf _ k hk
      intro k hk
      rcases List.mem_cons.mp hk with rfl | hk
      · refine Class.renumber_eq_self r ?_ ?_ later
        · rw [made]
          exact Nat.lt_of_lt_of_le (Nat.lt_add_of_pos_right (Nat.succ_pos _)) room
        · rw [made]
          exact renumberNames_tableMembers r _ _
      · exact later k hk

theorem renumber_of_lookup_known {name : String} {c : Class}
    (h : knownByName.lookup name = some c) : c.renumber r = c := by
  have listed : (name, c) ∈ buildKnown 1 [] knownParents := mem_of_lookup h
  refine renumber_of_mem_buildKnown r ?_ (fun p hp => by cases hp) _ listed c List.mem_cons_self
  simp only [firstOwnId, firstFreeId]
  omega

@[simp] theorem renumber_knownClass (name : String) :
    (knownClass name).renumber r = knownClass name := by
  unfold knownClass
  split
  · exact renumber_object r
  · rcases hlookup : knownByName.lookup name with _ | c
    · refine Class.renumber_eq_self r (Nat.lt_add_of_pos_right (by decide)) rfl ?_
      intro k hk
      rw [List.mem_singleton.mp hk]
      exact renumber_object r
    · exact renumber_of_lookup_known r hlookup

@[simp] theorem classOf_renumber (o : Object) : (o.renumber r).classOf = o.classOf.renumber r := by
  cases o <;> simp [Object.renumber, Object.classOf, Object.className]

theorem map_renumber_builtin? (name : String) :
    (builtin? name).map (Object.renumber r) = builtin? name := by
  unfold builtin?
  split
  · simp [Object.renumber]
  · rcases hlookup : knownByName.lookup ((errorAliases.lookup name).getD name) with _ | c
    · dsimp only
      split <;> first | rfl | (split <;> rfl)
    · dsimp only
      split
      · rfl
      · simp [Object.renumber, renumber_of_lookup_known r hlookup]

/-! ### Members -/

namespace Class

variable (c : Class)

@[simp] theorem member?_renumber (name : String) :
    (c.renumber r).member? name = (c.member? name).map (Object.renumber r) := by
  unfold member?
  rw [own_renumber, lookup_renumberNames, isKnown_renumber, name_renumber]
  cases c.own.lookup name with
  | some o => rfl
  | none =>
      show (if c.isKnown then knownMember? c.name name else none) = _
      split <;> simp

@[simp] theorem attribute?_renumber (name : String) :
    (c.renumber r).attribute? name = (c.attribute? name).map (Object.renumber r) := by
  simp [attribute?, List.findSome?_map, Function.comp_def]

theorem declared?_renumber (name : String) :
    (c.renumber r).declared? name = (c.declared? name).map (Object.renumber r) := by
  unfold declared?
  rw [lineage_renumber, List.find?_map]
  simp only [Function.comp_def, member?_renumber, Option.isSome_map]
  cases c.lineage.find? fun k => (k.member? name).isSome with
  | none => rfl
  | some k =>
      show (if (k.renumber r).isKnown then none else (k.renumber r).own.lookup name) = _
      rw [isKnown_renumber, own_renumber, lookup_renumberNames]
      dsimp only
      split <;> rfl

@[simp] theorem publicMethods_renumber : (c.renumber r).publicMethods = c.publicMethods := by
  have collected (seen : List String) (names : List (String × Object)) :
      collectMethods seen (renumberNames r names) = collectMethods seen names := by
    induction names generalizing seen with
    | nil => rfl
    | cons p rest ih => simp only [renumberNames, collectMethods, Object.asMethod?_renumber, ih]
  have members : (c.renumber r).lineage.flatMap own = renumberNames r (c.lineage.flatMap own) := by
    simp [renumberNames_eq_map, List.flatMap_map, List.map_flatMap]
  rw [publicMethods, members, collected, publicMethods]

@[simp] theorem isSolid_renumber : (c.renumber r).isSolid = c.isSolid := by
  unfold isSolid
  rw [isKnown_renumber, name_renumber, own_renumber, renumberNames_eq_map, List.any_map]
  congr 2
  funext p
  obtain ⟨name, o⟩ := p
  cases o <;> rfl

@[simp] theorem solid_renumber : (c.renumber r).solid = c.solid.renumber r := by
  simp only [solid, lineage_renumber, List.find?_map, Function.comp_def, isSolid_renumber]
  cases c.lineage.find? isSolid <;> simp

theorem base?_renumber : (c.renumber r).base? = c.base?.map (Class.renumber r) := by
  have decisive : ((c.renumber r).ancestors.find? isSolid).getD Class.object =
      ((c.ancestors.find? isSolid).getD Class.object).renumber r := by
    simp only [ancestors_renumber, List.find?_map, Function.comp_def, isSolid_renumber]
    cases c.ancestors.find? isSolid <;> simp
  unfold base?
  dsimp only
  rw [decisive, ancestors_renumber, List.find?_map]
  simp only [Function.comp_def, solid_renumber, id_renumber, r.classId_beq]

theorem computed?_renumber (name : String) :
    (c.renumber r).computed? name = (c.computed? name).map (Object.renumber r) := by
  unfold computed?
  rw [name_renumber, base?_renumber, own_renumber, lookup_renumberNames, isKnown_renumber]
  split
  · simp [Object.renumber]
  · rfl
  · rfl
  · cases c.base? <;> rfl
  · split
    · rfl
    · cases c.own.lookup "__doc__" <;> simp [Object.renumber, Object.onClass_renumber]
  · split <;> rfl
  · cases c.own.lookup "__annotations__" <;> rfl
  · split
    · split <;> simp
    · rfl

theorem seen?_renumber (name : String) :
    (c.renumber r).seen? name = (c.seen? name).map (Object.renumber r) := by
  have ofType := Object.bind_bound?_renumber r (.cls c) ((knownClass "type").attribute? name)
    (knownClass "type")
  rw [← attribute?_renumber, renumber_knownClass] at ofType
  unfold seen?
  rw [isKnown_renumber, computed?_renumber, attribute?_renumber]
  split
  · rfl
  · cases c.computed? name with
    | some o => rfl
    | none =>
        cases c.attribute? name with
        | some o => exact congrArg some (Object.onClass_renumber r o c)
        | none => exact ofType

end Class

/-! ### Attributes of objects -/

theorem ownAttribute?_renumber (o : Object) (name : String) :
    ownAttribute? (o.renumber r) name = (ownAttribute? o name).map (Object.renumber r) := by
  cases o <;> simp only [Object.renumber] <;> unfold ownAttribute? <;> split <;>
    first | rfl | simp_all [Object.renumber]

theorem memberSeen?_renumber (o : Object) (name : String) :
    memberSeen? (o.renumber r) name = (memberSeen? o name).map (Object.renumber r) := by
  unfold memberSeen?
  simp only [classOf_renumber, ownAttribute?_renumber, Class.attribute?_renumber,
    Class.name_renumber]
  cases ownAttribute? o name with
  | some found => rfl
  | none =>
      cases o.classOf.attribute? name with
      | none => exact (map_renumber_heldByKnown? r _ _).symm
      | some member =>
          have seen := Object.bound?_renumber r member o.classOf o
          simp only [Option.map_none, Option.map_some, Object.isComputed_renumber, seen]
          split
          · split <;> rfl
          · have held := map_renumber_heldByKnown? r o.classOf.name name
            cases hheld : heldByKnown? o.classOf.name name with
            | none => rfl
            | some found =>
                rw [hheld] at held
                exact held.symm

end CommandManual.Script
