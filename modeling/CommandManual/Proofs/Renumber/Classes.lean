import CommandManual.Proofs.Renumber.Calls
import CommandManual.Script.NewClass

/-!
Classes made of bases and bodies under other numbers. The lookup order, the kind and
the slots of a class are decided by comparing numbers, which moving them does not change.
-/

namespace CommandManual.Script

variable (r : Renumbering)

/-! ### The lookup order -/

section Order

variable (c : Class) (cs : List Class) (lists : List (List Class))

@[simp] theorem memId_renumber : memId (c.renumber r) (cs.map (Class.renumber r)) = memId c cs := by
  simp [memId, List.any_map, Function.comp_def]

theorem heads_renumber :
    (lists.map (List.map (Class.renumber r))).filterMap List.head? =
      (lists.filterMap List.head?).map (Class.renumber r) := by
  simp [List.filterMap_map, List.map_filterMap]

theorem nextClass?_renumber :
    nextClass? (lists.map (List.map (Class.renumber r))) =
      (nextClass? lists).map (Class.renumber r) := by
  simp only [nextClass?, heads_renumber, List.find?_map, Function.comp_def, List.any_map,
    ← List.map_tail, memId_renumber]

theorem dropHead_renumber :
    dropHead (c.renumber r) (cs.map (Class.renumber r)) =
      (dropHead c cs).map (Class.renumber r) := by
  cases cs with
  | nil => rfl
  | cons k rest =>
      simp only [List.map_cons, dropHead, Class.id_renumber, r.classId_beq]
      split <;> rfl

theorem uniqueById_renumber :
    uniqueById (cs.map (Class.renumber r)) = (uniqueById cs).map (Class.renumber r) := by
  induction cs with
  | nil => rfl
  | cons c rest ih =>
      simp [uniqueById, ih, List.filter_map, Function.comp_def, bne]

theorem firstRepeated?_renumber :
    firstRepeated? (cs.map (Class.renumber r)) = (firstRepeated? cs).map (Class.renumber r) := by
  induction cs with
  | nil => rfl
  | cons c rest ih =>
      simp only [List.map_cons, firstRepeated?, memId_renumber, ih]
      split <;> rfl

theorem mergeOrders_renumber (fuel : Nat) :
    mergeOrders fuel (lists.map (List.map (Class.renumber r))) =
      ((mergeOrders fuel lists).map (List.map (Class.renumber r))).mapError
        (List.map (Class.renumber r)) := by
  induction fuel generalizing lists with
  | zero => rfl
  | succ fuel ih =>
      simp only [mergeOrders, nextClass?_renumber]
      cases nextClass? lists with
      | some c =>
          have rest : (lists.map (List.map (Class.renumber r))).map (dropHead (c.renumber r)) =
              (lists.map (dropHead c)).map (List.map (Class.renumber r)) := by
            simp [dropHead_renumber]
          dsimp only [Option.map_some]
          rw [rest, ih]
          cases mergeOrders fuel (lists.map (dropHead c)) <;> rfl
      | none =>
          dsimp only [Option.map_none]
          rw [heads_renumber, uniqueById_renumber, List.isEmpty_map]
          split <;> rfl

theorem lookupOrder_renumber :
    lookupOrder (cs.map (Class.renumber r)) =
      (lookupOrder cs).map (List.map (Class.renumber r)) := by
  unfold lookupOrder
  have bases : (if (cs.map (Class.renumber r)).isEmpty then [Class.object]
      else cs.map (Class.renumber r)) =
        (if cs.isEmpty then [Class.object] else cs).map (Class.renumber r) := by
    cases cs <;> simp
  dsimp only
  rw [bases]
  generalize (if cs.isEmpty then [Class.object] else cs) = bases
  have lists : (bases.map (Class.renumber r)).map Class.lineage ++ [bases.map (Class.renumber r)] =
      (bases.map Class.lineage ++ [bases]).map (List.map (Class.renumber r)) := by
    simp
  rw [firstRepeated?_renumber, lists, mergeOrders_renumber, ← List.map_flatten, List.length_map]
  cases firstRepeated? bases with
  | some c => simp [Except.map]
  | none =>
      dsimp only [Option.map_none]
      cases mergeOrders _ (bases.map Class.lineage ++ [bases]) with
      | ok order => rfl
      | error heads => simp [Except.map, Except.mapError]

end Order

/-! ### Bases -/

theorem commonKind_renumber (winner : Class) (bases : List Object) :
    commonKind (winner.renumber r) (bases.map (Object.renumber r)) =
      (commonKind winner bases).map (Class.renumber r) := by
  induction bases generalizing winner with
  | nil => rfl
  | cons base rest ih =>
      simp only [List.map_cons, commonKind, classOf_renumber, Class.id_renumber,
        Class.inherits_renumber, ih]
      split
      · rfl
      · split <;> rfl

theorem kindOfBases_renumber (bases : List Object) :
    kindOfBases (bases.map (Object.renumber r)) = (kindOfBases bases).map (Class.renumber r) := by
  cases bases with
  | nil => exact congrArg Except.ok (renumber_knownClass r "type").symm
  | cons base rest =>
      simp only [List.map_cons, kindOfBases, classOf_renumber]
      exact commonKind_renumber r base.classOf rest

theorem decisiveOf_renumber (winner : Class) (bases : List Class) :
    decisiveOf (winner.renumber r) (bases.map (Class.renumber r)) =
      (decisiveOf winner bases).map (Class.renumber r) := by
  induction bases generalizing winner with
  | nil => rfl
  | cons base rest ih =>
      simp only [List.map_cons, decisiveOf, Class.isKnown_renumber, Class.name_renumber,
        Class.solid_renumber, Class.id_renumber, Class.inherits_renumber, ih]
      split
      · rfl
      · split
        · rfl
        · split <;> rfl

theorem decisiveBase_renumber (bases : List Class) :
    decisiveBase (bases.map (Class.renumber r)) =
      (decisiveBase bases).map (Class.renumber r) := by
  have start := decisiveOf_renumber r Class.object bases
  rw [renumber_object] at start
  unfold decisiveBase
  rw [start]
  cases decisiveOf Class.object bases with
  | error e => rfl
  | ok winner =>
      refine congrArg Except.ok ?_
      simp only [List.find?_map, Function.comp_def, Class.solid_renumber, Class.id_renumber,
        r.classId_beq]
      cases bases.find? fun b => b.solid.id == winner.id <;> simp

/-! ### Slots and members -/

section Members

variable (base : Class)

@[simp] theorem isUnsized_renumber : (base.renumber r).isUnsized = base.isUnsized := by
  simp [Class.isUnsized, Function.comp_def]

@[simp] theorem hasWeak_renumber : (base.renumber r).hasWeak = base.hasWeak := by
  simp [Class.hasWeak, Function.comp_def]

@[simp] theorem hasDict_renumber : (base.renumber r).hasDict = base.hasDict := by
  simp [Class.hasDict]

theorem slotNames_renumber (className : String) (own : List (String × Object))
    (listed : List Value) :
    slotNames className (base.renumber r) (renumberNames r own) listed =
      slotNames className base own listed := by
  simp [slotNames]

theorem slotsOf_renumber (name : String) (own : List (String × Object)) :
    slotsOf name (base.renumber r) (renumberNames r own) =
      r.outcome id (slotsOf name base own) := by
  unfold slotsOf
  rw [lookup_renumberNames]
  cases own.lookup "__slots__" with
  | none => rfl
  | some o =>
      have listed : listedSlots (o.renumber r) = r.outcome id (listedSlots o) := by
        cases o with
        | value v => cases v <;> rfl
        | _ => simp [Object.renumber, listedSlots, Raised.renumber, Object.kindName,
            Object.className]
      dsimp only [Option.map_some]
      rw [listed]
      refine r.outcome_bind fun slots => ?_
      rw [id, slotNames_renumber]
      cases slotNames name base own slots <;> rfl

theorem slotMembers_renumber (slots : Option (List String)) :
    slotMembers (base.renumber r) slots = slotMembers base slots := by
  simp [slotMembers]

theorem renumberNames_slotMembers (slots : Option (List String)) :
    renumberNames r (slotMembers base slots) = slotMembers base slots := by
  rw [renumberNames_eq_map]
  refine (List.map_congr_left fun p hp => ?_).trans (List.map_id _)
  simp only [slotMembers, List.mem_append, List.mem_map] at hp
  rcases hp with (⟨name, -, rfl⟩ | hp) | hp
  · rfl
  · split at hp
    · rw [List.mem_singleton.mp hp]
      rfl
    · cases hp
  · split at hp
    · rw [List.mem_singleton.mp hp]
      rfl
    · cases hp

theorem membersOf_renumber (own more : List (String × Object)) :
    membersOf (renumberNames r own) (renumberNames r more) =
      renumberNames r (membersOf own more) := by
  have missing (own more : List (String × Object)) :
      addMissing (renumberNames r own) (renumberNames r more) =
        renumberNames r (addMissing own more) := by
    simp only [addMissing, lookup_renumberNames, Option.isNone_map, renumberNames_append]
    rw [filter_renumberNames r fun name => (own.lookup name).isNone]
  have methods (own : List (String × Object)) :
      (renumberNames r own).map settled = renumberNames r (own.map settled) := by
    induction own with
    | nil => rfl
    | cons p rest ih =>
        have one : settled (p.1, p.2.renumber r) =
            ((settled p).1, (settled p).2.renumber r) := by
          obtain ⟨name, o⟩ := p
          cases o <;> simp only [Object.renumber] <;> unfold settled <;> split <;>
            first | rfl | simp_all [Object.renumber]
        rw [renumberNames, List.map_cons, List.map_cons, ih, one, renumberNames]
  have unhashable (own : List (String × Object)) :
      (if ((renumberNames r own).lookup "__eq__").isSome then
        [("__hash__", .value .null)] else [] : List (String × Object)) =
      renumberNames r (if (own.lookup "__eq__").isSome then
        [("__hash__", .value .null)] else []) := by
    rw [lookup_renumberNames, Option.isSome_map]
    split <;> rfl
  unfold membersOf
  dsimp only
  rw [filter_renumberNames r (· != "__qualname__"), methods, unhashable, ← missing]
  simp only [renumberNames_append]
  rfl

theorem checkQualifiedName_renumber (own : List (String × Object)) :
    checkQualifiedName (renumberNames r own) = checkQualifiedName own := by
  unfold checkQualifiedName
  rw [lookup_renumberNames]
  cases own.lookup "__qualname__" with
  | none => rfl
  | some o => cases o <;> simp [Object.renumber, Object.className]

end Members

/-! ### New classes -/

theorem ofClassFault_map {α β : Type} (f : α → β) (x : Except ClassFault α) :
    ofClassFault (x.map f) = r.outcome f (ofClassFault x) := by
  cases x <;> rfl

theorem ofClassFault_eq {α : Type} (x : Except ClassFault α) :
    ofClassFault x = r.outcome id (ofClassFault x) := by
  cases x <;> rfl

theorem tellBases_renumber (c : Class) : tellBases (c.renumber r) = r.outcome id (tellBases c) := by
  have ancestry : Class.mk (c.renumber r).id (c.renumber r).name [] (c.renumber r).ancestors =
      (Class.mk c.id c.name [] c.ancestors).renumber r := by
    simp [Class.renumber, renumberNames, renumberClasses_eq_map]
  unfold tellBases
  rw [ancestry, Class.declared?_renumber]
  cases (Class.mk c.id c.name [] c.ancestors).declared? "__init_subclass__" with
  | none => rfl
  | some told =>
      dsimp only [Option.map_some]
      rw [Object.onClass_renumber]
      have asked : call ((told.onClass c).renumber r) [] = _ := call_renumber r (told.onClass c) []
      rw [asked]
      exact r.outcome_bind fun _ => rfl

theorem newClass_renumber (n : Nat) (name : String) (bases : List Class)
    (own : List (String × Object)) :
    newClass (r.classId n) name (bases.map (Class.renumber r)) (renumberNames r own) =
      r.outcome (Class.renumber r) (newClass n name bases own) := by
  unfold newClass
  rw [decisiveBase_renumber, ofClassFault_map]
  refine r.outcome_bind fun base => ?_
  rw [slotsOf_renumber]
  refine r.outcome_bind fun slots => ?_
  rw [checkQualifiedName_renumber]
  refine (congrArg (· >>= _) (ofClassFault_eq r _)).trans (r.outcome_bind fun _ => ?_)
  rw [lookupOrder_renumber, ofClassFault_map]
  refine r.outcome_bind fun ancestors => ?_
  have made : Class.mk (r.classId n) name
      (membersOf (renumberNames r own) (slotMembers (base.renumber r) slots))
      (ancestors.map (Class.renumber r)) =
        (Class.mk n name (membersOf own (slotMembers base slots)) ancestors).renumber r := by
    rw [slotMembers_renumber, ← renumberNames_slotMembers r base slots, membersOf_renumber,
      renumberNames_slotMembers, Class.renumber, renumberClasses_eq_map]
  simp only [id]
  rw [made, tellBases_renumber]
  exact r.outcome_bind fun _ => rfl

theorem madeOf_renumber (n : Nat) (name : String) (kind : Class) (bases : List Object)
    (own : List (String × Object)) :
    madeOf (r.classId n) name (kind.renumber r) (bases.map (Object.renumber r))
        (renumberNames r own) =
      r.outcome (Object.renumber r) (madeOf n name kind bases own) := by
  have classes : (bases.map (Object.renumber r)).filterMap Object.asClass? =
      (bases.filterMap Object.asClass?).map (Class.renumber r) := by
    simp [List.filterMap_map, List.map_filterMap]
  unfold madeOf
  rw [Class.name_renumber, classes, newClass_renumber]
  split
  · exact r.outcome_bind fun c => rfl
  · rfl
  · rfl

end CommandManual.Script
