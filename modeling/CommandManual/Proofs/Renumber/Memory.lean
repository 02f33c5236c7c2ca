import CommandManual.Proofs.Renumber.Classes
import CommandManual.Proofs.Script.SearchPath

/-!
One memory on top of another. What is loaded later is put behind the modules that are
there and gets the class numbers that come next. As long as names of the past are not
asked for, nothing else tells such a memory from the one without the past: `Atop`.
-/

namespace CommandManual.Script

variable {past m m' : Memory} {r : Renumbering}

def Module.renumber (r : Renumbering) (x : Module) : Module :=
  { x with names := renumberNames r x.names }

/-- Every name that is known stands for a module that was carried out to its end. -/
def Memory.Whole (m : Memory) : Prop :=
  ∀ name i, m.loaded.lookup name = some i → ∃ x, m.module? i = some x ∧ x.complete = true

theorem Memory.whole_of_all
    (h : m.loaded.all (fun p => (m.module? p.2).any Module.complete) = true) : m.Whole := by
  intro name i hi
  have known := List.all_eq_true.mp h _ (mem_of_lookup hi)
  exact (Option.any_eq_true _ _).mp known

def Memory.Free (m : Memory) (name : String) : Prop := m.loaded.lookup name = none

/-- The second memory is what the first one would be, had all its modules been made after
those of a past. -/
structure Memory.Atop (past : Memory) (r : Renumbering) (m m' : Memory) : Prop where
  size : r.modules = past.modules.length
  modules : m'.modules = past.modules ++ m.modules.map (Module.renumber r)
  own : firstOwnId ≤ m.freshId
  freshId : m'.freshId = m.freshId + r.classes
  searchPath : m'.searchPath = m.searchPath
  free : ∀ name, past.Free name → m'.loaded.lookup name = (m.loaded.lookup name).map (· + r.modules)
  taken : ∀ name i, past.loaded.lookup name = some i → m.Free name ∧ m'.loaded.lookup name = some i

structure Memory.Fresh (m : Memory) : Prop where
  modules : m.modules = []
  loaded : m.loaded = []
  own : firstOwnId ≤ m.freshId

/-- Whatever a process has loaded, the memory that it started with is below it. -/
theorem Memory.Fresh.atop (fresh : m.Fresh) (counted : m.freshId ≤ m'.freshId)
    (path : m'.searchPath = m.searchPath) :
    m'.Atop ⟨m'.freshId - m.freshId, m'.modules.length⟩ m m' where
  size := rfl
  modules := by rw [fresh.modules, List.map_nil, List.append_nil]
  own := fresh.own
  freshId := (Nat.add_sub_cancel' counted).symm
  searchPath := path
  free name free := by
    rw [fresh.loaded]
    exact free
  taken name i taken := by
    refine ⟨?_, taken⟩
    unfold Memory.Free
    rw [fresh.loaded]
    rfl

namespace Module

variable (x : Module)

@[simp] theorem ownName?_renumber : (x.renumber r).ownName? = x.ownName? := by
  unfold ownName? renumber
  rw [lookup_renumberNames]
  cases x.names.lookup "__name__" with
  | none => rfl
  | some o => cases o <;> rfl

@[simp] theorem shownName_renumber : (x.renumber r).shownName = x.shownName := by
  simp [shownName, renumber.eq_def, ← ownName?_renumber (r := r) x]

theorem package_renumber : (x.renumber r).package = r.outcome id x.package := by
  unfold package renumber
  rw [lookup_renumberNames]
  cases x.names.lookup "__package__" with
  | none => rfl
  | some o =>
      cases o with
      | value v => cases v <;> rfl
      | _ => rfl

end Module

/-! ### Attributes that only the class decides -/

def Object.isOrdinary : Object → Bool
  | .cls _ | .module _ | .boundMethod .. => false
  | _ => true

theorem Memory.attribute_of_isOrdinary (m : Memory) {o : Object}
    (ordinary : o.isOrdinary = true) (name : String) :
    m.attribute o name = (memberSeen? o name).elim
      (answerForAll o name (.misuse (.noAttribute o.kindName name))
        (o.classOf.declared? "__getattr__")) .ok := by
  cases o with
  | cls c => cases ordinary
  | module index => cases ordinary
  | boundMethod f self => cases ordinary
  | _ =>
      unfold Memory.attribute
      dsimp only
      split
      · rename_i found seen
        rw [seen, Option.elim_some]
      · rename_i unseen
        rw [unseen, Option.elim_none]

namespace Memory.Atop

theorem module? (h : Atop past r m m') (i : Nat) :
    m'.module? (i + r.modules) = (m.module? i).map (Module.renumber r) := by
  unfold Memory.module?
  rw [h.modules, h.size, Nat.add_comm, List.getElem?_append_right (Nat.le_add_right _ _),
    Nat.add_sub_cancel_left, List.getElem?_map]

theorem module?_of_past (h : Atop past r m m') {i : Nat} {x : Module}
    (hx : past.module? i = some x) : m'.module? i = some x := by
  have hlt : i < past.modules.length := (List.getElem?_eq_some_iff.mp hx).1
  unfold Memory.module?
  rw [h.modules, List.getElem?_append_left hlt]
  exact hx

/-! ### Attributes -/

theorem missing_eq (h : Atop past r m m') (whole : past.Whole) (x : Module) (name : String) :
    m'.missing (x.renumber r) name = m.missing x name := by
  unfold Memory.missing
  rw [Module.ownName?_renumber]
  cases x.ownName? with
  | none => rfl
  | some moduleName =>
      have same : ((m'.loaded.lookup (moduleName ++ "." ++ name)).bind m'.module?).any
            (fun sub => !sub.complete) =
          ((m.loaded.lookup (moduleName ++ "." ++ name)).bind m.module?).any
            (fun sub => !sub.complete) := by
        cases hpast : past.loaded.lookup (moduleName ++ "." ++ name) with
        | none =>
            rw [h.free _ hpast]
            cases m.loaded.lookup (moduleName ++ "." ++ name) with
            | none => rfl
            | some i =>
                show (m'.module? (i + r.modules)).any _ = (m.module? i).any _
                rw [h.module?]
                cases m.module? i <;> rfl
        -- A module of the past is finished, so the text of the error does not mention it.
        | some i =>
            obtain ⟨absent, left⟩ := h.taken _ i hpast
            obtain ⟨y, hy, complete⟩ := whole _ i hpast
            rw [left, absent]
            show (m'.module? i).any _ = false
            rw [h.module?_of_past hy]
            simp [complete]
      dsimp only
      rw [same]
      rfl

theorem moduleAttribute_eq (h : Atop past r m m') (whole : past.Whole) (o : Object) (x : Module)
    (name : String) :
    m'.moduleAttribute (o.renumber r) (x.renumber r) name =
      r.outcome (Object.renumber r) (m.moduleAttribute o x name) := by
  have names (key : String) : (x.renumber r).names.lookup key =
      (x.names.lookup key).map (Object.renumber r) := lookup_renumberNames r x.names key
  -- A name of the module itself counts unless what all modules have is computed.
  have own : (if ((knownClass "module").attribute? name).any Object.isComputed then none
        else (x.renumber r).names.lookup name) =
      (if ((knownClass "module").attribute? name).any Object.isComputed then none
        else x.names.lookup name).map (Object.renumber r) := by
    rw [names]
    split <;> rfl
  unfold Memory.moduleAttribute
  dsimp only
  rw [own, memberSeen?_renumber, names "__getattr__"]
  generalize (if ((knownClass "module").attribute? name).any Object.isComputed then none
    else x.names.lookup name) = own
  cases own with
  | some found => rfl
  | none =>
      cases memberSeen? o name with
      | some found => rfl
      | none =>
          cases x.names.lookup "__getattr__" with
          | some answers => exact call_renumber r answers [.value (.str name)]
          | none =>
              have kept : (m.missing x name).renumber r = m.missing x name := by
                unfold Memory.missing
                split
                · rfl
                · dsimp only
                  split <;> rfl
              exact congrArg Except.error ((h.missing_eq whole x name).trans kept.symm)

theorem attribute_eq (h : Atop past r m m') (whole : past.Whole) (o : Object) (name : String) :
    m'.attribute (o.renumber r) name =
      r.outcome (Object.renumber r) (m.attribute o name) := by
  have other (ordinary : o.isOrdinary = true) : m'.attribute (o.renumber r) name =
      r.outcome (Object.renumber r) (m.attribute o name) := by
    have still : (o.renumber r).isOrdinary = true := by
      cases o <;> exact ordinary
    rw [m.attribute_of_isOrdinary ordinary, m'.attribute_of_isOrdinary still,
      memberSeen?_renumber, classOf_renumber, Class.declared?_renumber, Object.kindName_renumber]
    cases memberSeen? o name with
    | some found => rfl
    | none =>
        unfold answerForAll
        cases o.classOf.declared? "__getattr__" with
        | none => rfl
        | some member =>
            have onSelf := Object.getD_bound?_renumber r o o.classOf member
            rw [classOf_renumber]
            dsimp only [Option.map_some, Option.map_none, Option.elim]
            rw [onSelf]
            exact call_renumber r _ [.value (.str name)]
  cases o with
  | cls c =>
      simp only [Object.renumber, Memory.attribute, Class.seen?_renumber, Class.name_renumber]
      cases c.seen? name <;> rfl
  | module index =>
      have found := h.moduleAttribute_eq whole (.module index)
      simp only [Object.renumber, Memory.attribute] at found ⊢
      rw [h.module?]
      cases m.module? index with
      | none => rfl
      | some x => exact found x name
  | boundMethod f self =>
      have seen := memberSeen?_renumber r (.boundMethod f self) name
      have plain := memberSeen?_renumber r (.function f) name
      simp only [Object.renumber, Memory.attribute] at seen plain ⊢
      rw [seen]
      cases memberSeen? (.boundMethod f self) name with
      | some found => rfl
      | none =>
          cases hfound : memberSeen? (.function f) name with
          | none => rfl
          | some found =>
              rw [hfound] at plain
              exact congrArg Except.ok (Option.some.inj plain)
  | _ => exact other rfl

theorem attributePath_eq (h : Atop past r m m') (whole : past.Whole) (o : Object)
    (path : List String) :
    m'.attributePath (o.renumber r) path =
      r.outcome (Object.renumber r) (m.attributePath o path) := by
  induction path generalizing o with
  | nil => rfl
  | cons name rest ih =>
      unfold Memory.attributePath
      rw [h.attribute_eq whole]
      cases m.attribute o name with
      | error e => rfl
      | ok found => exact ih found

end Memory.Atop

end CommandManual.Script
