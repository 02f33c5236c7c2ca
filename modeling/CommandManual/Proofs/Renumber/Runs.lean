import CommandManual.Proofs.Renumber.Memory

/-!
What a command file does on top of a past. Each step of a file is followed by the same
step on top of the past: it comes to the same under other numbers, and leaves a memory
that is again on top of the past. `Meets` says so of one pair of memories, `Follows` of
all. A step may ask for names that the past has taken, and then nothing is said of it;
since names that were asked for stay noted, it is enough to look at the end of a run.
-/

namespace CommandManual.Script

variable {past m m' : Memory} {r : Renumbering}

/-! ### Changes of memories -/

namespace Memory.Atop

theorem ask (h : Atop past r m m') (names : List String) :
    Atop past r (m.ask names) (m'.ask names) :=
  ⟨h.size, h.modules, h.own, h.freshId, h.searchPath, h.free, h.taken⟩

theorem count (h : Atop past r m m') :
    Atop past r { m with freshId := m.freshId + 1 } { m' with freshId := m'.freshId + 1 } :=
  ⟨h.size, h.modules, Nat.le_succ_of_le h.own,
    (congrArg (· + 1) h.freshId).trans (Nat.add_right_comm _ _ _), h.searchPath, h.free, h.taken⟩

theorem edit (h : Atop past r m m') (e : PathEdit) : Atop past r (m.edit e) (m'.edit e) :=
  ⟨h.size, h.modules, h.own, h.freshId, congrArg e.apply h.searchPath, h.free, h.taken⟩

theorem modify (h : Atop past r m m') (index : Nat) {f f' : Module → Module}
    (hf : ∀ x : Module, f' (x.renumber r) = (f x).renumber r) :
    Atop past r (m.modify index f) (m'.modify (index + r.modules) f') := by
  have found := h.module? index
  unfold Memory.module? at found
  unfold Memory.modify
  cases hx : m.modules[index]? with
  | none =>
      rw [hx] at found
      rw [found]
      exact h
  | some x =>
      rw [hx] at found
      rw [found]
      refine ⟨h.size, ?_, h.own, h.freshId, h.searchPath, h.free, h.taken⟩
      simp [h.modules, h.size, hf, List.map_set]

theorem bindName (h : Atop past r m m') (index : Nat) (name : String) (o : Object) :
    Atop past r (m.bindName index name o) (m'.bindName (index + r.modules) name (o.renumber r)) :=
  h.modify index fun x => congrArg (fun names => { x with names })
    (assign_renumberNames r name o x.names)

theorem forget (h : Atop past r m m') {name : String} (free : past.Free name) :
    Atop past r (m.forget name) (m'.forget name) where
  size := h.size
  modules := h.modules
  own := h.own
  freshId := h.freshId
  searchPath := h.searchPath
  free other hother := by
    rw [lookup_forget, lookup_forget, h.free other hother]
    split <;> rfl
  taken other i hother := by
    have ne : other ≠ name := by
      rintro rfl
      rw [free] at hother
      cases hother
    obtain ⟨absent, left⟩ := h.taken other i hother
    exact ⟨by rw [Memory.Free, lookup_forget, if_neg ne]; exact absent,
      by rw [lookup_forget, if_neg ne]; exact left⟩

theorem length (h : Atop past r m m') : m'.modules.length = m.modules.length + r.modules := by
  rw [h.modules, List.length_append, List.length_map, h.size, Nat.add_comm]

theorem enter (h : Atop past r m m') {x : Module} (free : past.Free x.name) :
    Atop past r (m.enter x).2 (m'.enter (x.renumber r)).2 where
  size := h.size
  modules := by simp [Memory.enter, h.modules]
  own := h.own
  freshId := h.freshId
  searchPath := h.searchPath
  free other hother := by
    by_cases same : other = x.name
    · subst same
      rw [lookup_enter_self]
      exact (lookup_enter_self m' (x.renumber r)).trans (congrArg some h.length)
    · rw [lookup_enter_of_ne m same]
      exact (lookup_enter_of_ne m' same).trans (h.free other hother)
  taken other i hother := by
    have ne : other ≠ x.name := by
      rintro rfl
      rw [free] at hother
      cases hother
    obtain ⟨absent, left⟩ := h.taken other i hother
    exact ⟨(lookup_enter_of_ne m ne).trans absent, (lookup_enter_of_ne m' ne).trans left⟩

end Memory.Atop

/-! ### Steps that follow one another -/

def Memory.AskedMore (m m' : Memory) : Prop := m.asked ⊆ m'.asked

theorem asked_framing : Memory.LoadFraming Memory.AskedMore where
  refl _ := List.Subset.refl _
  trans h h' := List.Subset.trans h h'
  ask _ _ := List.subset_append_right _ _
  count _ := List.Subset.refl _
  edit _ _ := List.Subset.refl _
  modify m index f := by
    unfold Memory.AskedMore Memory.modify
    split <;> exact List.Subset.refl _
  enter _ _ := List.Subset.refl _
  forget _ _ := List.Subset.refl _
  path _ _ := List.Subset.refl _

def Memory.Unasked (past m : Memory) : Prop := ∀ name ∈ m.asked, past.Free name

theorem Memory.Unasked.of_askedMore (h : past.Unasked m') (more : m.AskedMore m') :
    past.Unasked m :=
  fun name hname => h name (more hname)

namespace Exec

variable {α β γ δ : Type}

/-- From a memory and from one on top of a past, two steps come to the same, unless
the first one asks for a name that the past has taken. -/
def Meets (past : Memory) (r : Renumbering) (f : α → β) (x : Exec α) (y : Exec β)
    (m m' : Memory) : Prop :=
  past.Unasked (x.outcome m).2 →
    (y.outcome m').1 = r.outcome f (x.outcome m).1 ∧
      past.Atop r (x.outcome m).2 (y.outcome m').2

structure Follows (past : Memory) (r : Renumbering) (f : α → β) (x : Exec α) (y : Exec β) :
    Prop where
  asks : x.Keeps Memory.AskedMore
  meets : ∀ {m m'}, past.Atop r m m' → Meets past r f x y m m'

variable {f : α → β} {g : γ → δ} {x : Exec α} {y : Exec β} {k : α → Exec γ} {k' : β → Exec δ}

theorem Meets.bind (hx : Meets past r f x y m m') (hk : ∀ a, Follows past r g (k a) (k' (f a))) :
    Meets past r g (x >>= k) (y >>= k') m m' := by
  unfold Meets at hx ⊢
  rw [outcome_bind, outcome_bind]
  rcases hxm : x.outcome m with ⟨e | a, m₁⟩
  all_goals
    rcases hym : y.outcome m' with ⟨result, m₁'⟩
    rw [hxm, hym] at hx
    dsimp only at hx ⊢
  · intro unasked
    obtain ⟨rfl, atop⟩ := hx unasked
    exact ⟨rfl, atop⟩
  · intro unasked
    obtain ⟨rfl, atop⟩ := hx (unasked.of_askedMore ((hk a).asks m₁))
    exact (hk a).meets atop unasked

theorem Meets.get_bind {k : Memory → Exec γ} {k' : Memory → Exec δ}
    (hk : Meets past r g (k m) (k' m') m m') :
    Meets past r g (get >>= k) (get >>= k') m m' := hk

theorem Meets.tryCatch {handle : Raised → Exec α} {handle' : Raised → Exec β}
    (hx : Meets past r f x y m m')
    (hf : ∀ e, Follows past r f (handle e) (handle' (e.renumber r))) :
    Meets past r f (MonadExcept.tryCatch x handle) (MonadExcept.tryCatch y handle') m m' := by
  unfold Meets at hx ⊢
  rw [outcome_tryCatch, outcome_tryCatch]
  rcases hxm : x.outcome m with ⟨e | a, m₁⟩
  all_goals
    rcases hym : y.outcome m' with ⟨result, m₁'⟩
    rw [hxm, hym] at hx
    dsimp only at hx ⊢
  · intro unasked
    obtain ⟨rfl, atop⟩ := hx (unasked.of_askedMore ((hf e).asks m₁))
    exact (hf e).meets atop unasked
  · intro unasked
    obtain ⟨rfl, atop⟩ := hx unasked
    exact ⟨rfl, atop⟩

/-- What comes after some names were asked for may count on it that they are free. -/
theorem Meets.ask_bind {names : List String} {k : PUnit → Exec γ} {k' : PUnit → Exec δ}
    (atop : past.Atop r m m') (asks : ∀ u, (k u).Keeps Memory.AskedMore)
    (h : (∀ name ∈ names, past.Free name) → ∀ u, Follows past r g (k u) (k' u)) :
    Meets past r g ((modify fun m => m.ask names) >>= k) ((modify fun m => m.ask names) >>= k')
      m m' := by
  intro unasked
  have free (name : String) (hname : name ∈ names) : past.Free name :=
    unasked name (asks ⟨⟩ (m.ask names) (List.mem_append_left _ hname))
  exact (h free ⟨⟩).meets (atop.ask names) unasked

namespace Follows

theorem pure (a : α) : Follows past r f (Pure.pure a) (Pure.pure (f a)) where
  asks := asked_framing.pure a
  meets atop _ := ⟨rfl, atop⟩

theorem throw (e : Raised) :
    Follows past r f (MonadExcept.throw e) (MonadExcept.throw (e.renumber r)) where
  asks := asked_framing.throw e
  meets atop _ := ⟨rfl, atop⟩

theorem liftExcept {x : Except Raised α} {y : Except Raised β} (h : y = r.outcome f x) :
    Follows past r f (Script.liftExcept x) (Script.liftExcept y) where
  asks := asked_framing.liftExcept x
  meets atop _ := ⟨h, atop⟩

theorem bind (hx : Follows past r f x y) (hk : ∀ a, Follows past r g (k a) (k' (f a))) :
    Follows past r g (x >>= k) (y >>= k') where
  asks := asked_framing.bind hx.asks fun a => (hk a).asks
  meets atop := (hx.meets atop).bind hk

theorem change {h h' : Memory → Memory} (asks : ∀ m : Memory, m.AskedMore (h m))
    (atop : ∀ {m m'}, past.Atop r m m' → past.Atop r (h m) (h' m')) :
    Follows past r id (modify h : Exec PUnit) (modify h' : Exec PUnit) where
  asks := asks
  meets h _ := ⟨rfl, atop h⟩

theorem tryCatch {handle : Raised → Exec α} {handle' : Raised → Exec β}
    (hx : Follows past r f x y)
    (hf : ∀ e, Follows past r f (handle e) (handle' (e.renumber r))) :
    Follows past r f (MonadExcept.tryCatch x handle) (MonadExcept.tryCatch y handle') where
  asks := asked_framing.tryCatch hx.asks fun e => (hf e).asks
  meets atop := (hx.meets atop).tryCatch hf

theorem ite {c : Prop} [Decidable c] {x' : Exec α} {y' : Exec β} (h : Follows past r f x y)
    (h' : Follows past r f x' y') :
    Follows past r f (if c then x else x') (if c then y else y') := by
  split
  · exact h
  · exact h'

/-- A step that goes on from what the memory is. -/
theorem get_bind {k : Memory → Exec γ} {k' : Memory → Exec δ}
    (asks : ∀ m, (k m).Keeps Memory.AskedMore)
    (meets : ∀ {m m'}, past.Atop r m m' → Meets past r g (k m) (k' m') m m') :
    Follows past r g (get >>= k) (get >>= k') where
  asks := asked_framing.bind asked_framing.get asks
  meets atop := (meets atop).get_bind

/-- Nothing comes after what is raised. -/
theorem throw_bind (e : Raised) :
    Follows past r g ((MonadExcept.throw e : Exec α) >>= k)
      ((MonadExcept.throw (e.renumber r) : Exec β) >>= k') where
  asks := asked_framing.throw_bind e k
  meets atop _ := ⟨rfl, atop⟩

end Follows

end Exec

/-! ### Names -/

section Steps

open Exec

variable {ctx ctx' : Context}

def Scope.renumber (r : Renumbering) : Scope → Scope
  | .ofModule => .ofModule
  | .ofClass className names => .ofClass className (renumberNames r names)

@[simp] theorem nameFor_renumber (scope : Scope) (name : String) :
    (scope.renumber r).nameFor name = scope.nameFor name := by
  cases scope <;> rfl

structure Context.Follows (past : Memory) (r : Renumbering) (ctx ctx' : Context) : Prop where
  index : ctx'.index = ctx.index + r.modules
  fileName : ctx'.fileName = ctx.fileName
  request : ∀ name, Exec.Follows past r (· + r.modules) (ctx.request name) (ctx'.request name)

theorem moduleNames_follows (hctx : ctx.Follows past r ctx') :
    Follows past r (renumberNames r) (moduleNames ctx) (moduleNames ctx') where
  asks := asked_framing.moduleNames ctx
  meets := by
    intro m m' atop
    refine Meets.get_bind fun unasked => ⟨congrArg Except.ok ?_, atop⟩
    rw [hctx.index, atop.module?]
    cases m.module? ctx.index <;> rfl

theorem lookupName_follows (hctx : ctx.Follows past r ctx') (scope : Scope) (name : String) :
    Follows past r (Object.renumber r) (lookupName ctx scope name)
      (lookupName ctx' (scope.renumber r) name) := by
  have inModule : Follows past r (Object.renumber r) (lookupName ctx .ofModule name)
      (lookupName ctx' .ofModule name) := by
    refine (moduleNames_follows hctx).bind fun names => ?_
    rw [lookup_renumberNames]
    cases names.lookup name with
    | some o => exact .pure o
    | none =>
        have known := map_renumber_builtin? r name
        cases hb : builtin? name with
        | some o =>
            rw [hb] at known
            have given : Follows past r (Object.renumber r) (pure o : Exec Object)
                (pure (o.renumber r)) := .pure o
            rwa [Option.some.inj known] at given
        | none => exact .throw _
  cases scope with
  | ofModule => exact inModule
  | ofClass className names =>
      unfold lookupName Scope.renumber
      dsimp only
      rw [lookup_renumberNames]
      cases names.lookup name with
      | some o => exact .pure o
      | none => exact inModule

theorem lookupDotted_follows (whole : past.Whole) (hctx : ctx.Follows past r ctx') (scope : Scope)
    (target : String) :
    Follows past r (Object.renumber r) (lookupDotted ctx scope target)
      (lookupDotted ctx' (scope.renumber r) target) := by
  have F := asked_framing.toFraming
  have same : (scope.renumber r).nameFor = scope.nameFor := funext (nameFor_renumber scope)
  unfold lookupDotted
  dsimp only
  rw [same]
  split
  · exact .throw _
  · refine (lookupName_follows hctx scope _).bind fun o => ?_
    refine .get_bind (fun m => F.liftExcept _) fun {m m'} atop => ?_
    exact (Follows.liftExcept (atop.attributePath_eq whole o _)).meets atop

theorem bindName_follows (hctx : ctx.Follows past r ctx') (scope : Scope) (name : String)
    (o : Object) :
    Follows past r (Scope.renumber r) (bindName ctx scope name o)
      (bindName ctx' (scope.renumber r) name (o.renumber r)) := by
  cases scope with
  | ofModule =>
      refine .bind (.change (fun m => asked_framing.modify m _ _) fun {m m'} atop => ?_)
        fun _ => Follows.pure (f := Scope.renumber r) Scope.ofModule
      rw [hctx.index]
      exact atop.bindName ctx.index name o
  | ofClass className names =>
      simp only [bindName, Scope.renumber, assign_renumberNames]
      exact Follows.pure (Scope.ofClass className (assign name o names))

theorem bindIn_follows (hctx : ctx.Follows past r ctx') (scope : Scope) (name : String)
    (o : Object) :
    Follows past r (Scope.renumber r) (bindIn ctx scope name o)
      (bindIn ctx' (scope.renumber r) name (o.renumber r)) := by
  unfold bindIn
  rw [nameFor_renumber]
  exact bindName_follows hctx scope _ o

theorem deleteIn_follows (hctx : ctx.Follows past r ctx') (scope : Scope) (name : String) :
    Follows past r (Scope.renumber r) (deleteIn ctx scope name)
      (deleteIn ctx' (scope.renumber r) name) := by
  unfold deleteIn
  rw [nameFor_renumber]
  dsimp only
  generalize scope.nameFor name = name
  have dropped (names : List (String × Object)) :
      (renumberNames r names).filter (fun p => p.1 != name) =
        renumberNames r (names.filter fun p => p.1 != name) :=
    filter_renumberNames r (· != name) names
  cases scope with
  | ofModule =>
      refine (moduleNames_follows hctx).bind fun names => ?_
      rw [lookup_renumberNames, Option.isNone_map]
      refine .ite (.throw_bind _) (.bind (.change (fun m => ?_) fun {m m'} atop => ?_)
        fun _ => Follows.pure (f := Scope.renumber r) Scope.ofModule)
      · exact asked_framing.modify m _ _
      · rw [hctx.index]
        refine atop.modify ctx.index fun x => ?_
        exact congrArg (fun names => { x with names }) (dropped names)
  | ofClass className names =>
      simp only [Scope.renumber, pure_bind, lookup_renumberNames, Option.isNone_map]
      refine .ite (.throw_bind _) ?_
      rw [dropped]
      exact Follows.pure (Scope.ofClass className (names.filter fun p => p.1 != name))

theorem relativeTo_eq (r : Renumbering) (package : String) (up : Nat) (name : String) :
    relativeTo package up name = r.outcome id (relativeTo package up name) := by
  unfold relativeTo
  dsimp only
  split
  · rfl
  · split <;> rfl

theorem fullName_follows (hctx : ctx.Follows past r ctx') (name : String) :
    Follows past r id (fullName ctx name) (fullName ctx' name) := by
  have F := asked_framing.toFraming
  refine ⟨F.fullName ctx name, fun {m m'} atop => ?_⟩
  unfold fullName
  dsimp only
  split
  · exact (Follows.pure _).meets atop
  · refine Meets.get_bind ?_
    rw [hctx.index, atop.module?]
    cases m.module? ctx.index with
    | none => exact (Follows.throw _).meets atop
    | some x =>
        have relative (package : String) : Follows past r id
            (liftExcept (relativeTo package
              ((name.toList.takeWhile (· == '.')).length - 1)
              (String.ofList (name.toList.drop (name.toList.takeWhile (· == '.')).length))))
            (liftExcept (relativeTo package
              ((name.toList.takeWhile (· == '.')).length - 1)
              (String.ofList (name.toList.drop (name.toList.takeWhile (· == '.')).length)))) :=
          .liftExcept (relativeTo_eq r _ _ _)
        exact ((Follows.liftExcept (Module.package_renumber x)).bind relative).meets atop

theorem importedName_follows (whole : past.Whole) (index : Nat) (name : String) :
    Follows past r (Object.renumber r) (importedName index name)
      (importedName (index + r.modules) name) := by
  have F := asked_framing.toFraming
  refine ⟨F.importedName index name, fun {m m'} atop => ?_⟩
  unfold importedName
  refine Meets.get_bind ?_
  have seen := atop.attribute_eq whole (.module index) name
  simp only [Object.renumber] at seen
  rw [seen]
  cases m.attribute (.module index) name with
  | ok o => exact (Follows.pure o).meets atop
  | error e =>
      dsimp only [Renumbering.outcome_error]
      rw [Raised.isMissingAttribute_renumber, atop.module?]
      split
      · exact (Follows.throw_bind e).meets atop
      cases m.module? index with
      | none => exact (Follows.throw _).meets atop
      | some x =>
          dsimp only [Option.map_some]
          rw [Module.shownName_renumber]
          refine Meets.ask_bind atop (fun _ => ?_) fun free _ => ?_
          · split
            · exact F.pure _
            · exact F.throw _
          · rw [atop.free _ (free _ List.mem_cons_self)]
            cases m.loaded.lookup (x.shownName ++ "." ++ name) with
            | some sub => exact .pure (Object.module sub)
            | none => exact .throw _

theorem requestSubmodules_follows (whole : past.Whole) (hctx : ctx.Follows past r ctx')
    (index : Nat) (names : List String) :
    Follows past r id (requestSubmodules ctx index names)
      (requestSubmodules ctx' (index + r.modules) names) := by
  have F := asked_framing.toFraming
  induction names with
  | nil => exact .pure ()
  | cons name rest ih =>
      refine ⟨F.requestSubmodules (fun name => (hctx.request name).asks) index _,
        fun {m m'} atop => ?_⟩
      have seen := atop.attribute_eq whole (.module index) name
      simp only [Object.renumber] at seen
      unfold requestSubmodules
      refine Meets.get_bind ?_
      rw [atop.module?]
      cases m.module? index with
      | none => exact (Follows.pure ()).meets atop
      | some x =>
          refine Meets.get_bind ?_
          dsimp only
          rw [seen]
          rw [Module.shownName_renumber]
          rcases m.attribute (.module index) name with e | o
          all_goals
            simp only [Renumbering.outcome_error, Renumbering.outcome_ok,
              Raised.isMissingAttribute_renumber]
            refine Follows.meets ?_ atop
            -- Only that the submodule itself is not there is passed over.
            refine .ite (.bind (Follows.tryCatch (f := id) ?_ fun e => ?_) fun _ => ih) ih
            · exact (hctx.request _).bind fun _ => .pure ()
            · cases e with
              | ofImport f =>
                  cases f with
                  | noModule absent => exact .ite (.pure ()) (.throw _)
                  | _ => exact .throw _
              | _ => exact .throw _

theorem bindImported_follows (whole : past.Whole) (hctx : ctx.Follows past r ctx') (index : Nat)
    (scope : Scope) (names : List String) :
    Follows past r (Scope.renumber r) (bindImported ctx index scope names)
      (bindImported ctx' (index + r.modules) (scope.renumber r) names) := by
  induction names generalizing scope with
  | nil => exact .pure scope
  | cons name rest ih =>
      unfold bindImported
      rw [nameFor_renumber]
      refine (importedName_follows whole index _).bind fun o => ?_
      exact (bindName_follows hctx scope _ o).bind fun scope => ih scope

theorem offeredNames_renumber (x : Module) : offeredNames (x.renumber r) = offeredNames x := by
  unfold offeredNames
  rw [show (x.renumber r).names = renumberNames r x.names from rfl, lookup_renumberNames,
    keys_renumberNames]
  cases x.names.lookup "__all__" with
  | none => rfl
  | some o =>
      cases o with
      | value v => cases v <;> rfl
      | _ => rfl

theorem bindOffered_follows (whole : past.Whole) (hctx : ctx.Follows past r ctx') (index : Nat)
    (scope : Scope) (names : List String) :
    Follows past r (Scope.renumber r) (bindOffered ctx index scope names)
      (bindOffered ctx' (index + r.modules) (scope.renumber r) names) := by
  induction names generalizing scope with
  | nil => exact .pure scope
  | cons name rest ih =>
      have F := asked_framing.toItemFraming ctx.index
      refine ⟨F.bindOffered index scope _, fun {m m'} atop => ?_⟩
      unfold bindOffered
      refine Meets.get_bind ?_
      have seen := atop.attribute_eq whole (.module index) name
      refine ((Follows.liftExcept seen).meets atop).bind fun o => ?_
      exact (bindName_follows hctx scope name o).bind fun scope => ih scope

theorem bindWanted_follows (whole : past.Whole) (hctx : ctx.Follows past r ctx') (scope : Scope)
    (full : String) (index : Nat) (names : List String) :
    Follows past r (Scope.renumber r) (bindWanted ctx scope full index names)
      (bindWanted ctx' (scope.renumber r) full (index + r.modules) names) := by
  have F := asked_framing.toItemFraming ctx.index
  have request (name : String) := (hctx.request name).asks
  unfold bindWanted
  refine .ite ((hctx.request _).bind fun i => ?_) (.ite ?_ ?_)
  · exact bindIn_follows hctx scope _ (.module i)
  · refine .get_bind (fun m => ?_) fun {m m'} atop => ?_
    · exact F.bind (F.requestSubmodules request _ _) fun _ => F.bindOffered _ _ _
    · have offered : ((m'.module? (index + r.modules)).map offeredNames).getD [] =
          ((m.module? index).map offeredNames).getD [] := by
        rw [atop.module?]
        cases m.module? index with
        | none => rfl
        | some x => exact offeredNames_renumber x
      dsimp only
      rw [offered]
      refine ((requestSubmodules_follows whole hctx index _).bind fun _ => ?_).meets atop
      exact bindOffered_follows whole hctx index scope _
  · refine (requestSubmodules_follows whole hctx index names).bind fun _ => ?_
    exact bindImported_follows whole hctx index scope names

theorem useModule_follows (whole : past.Whole) (hctx : ctx.Follows past r ctx') (scope : Scope)
    (name : String) (names : List String) :
    Follows past r (Scope.renumber r) (useModule ctx scope name names)
      (useModule ctx' (scope.renumber r) name names) := by
  unfold useModule
  rw [nameFor_renumber]
  refine (fullName_follows hctx _).bind fun full => (hctx.request full).bind fun index => ?_
  exact bindWanted_follows whole hctx scope full index names

/-! ### Items -/

theorem pathEdit?_eq (r : Renumbering) (path : List String) (name : String)
    (argument : Option Value) :
    pathEdit? path name argument = r.outcome id (pathEdit? path name argument) := by
  unfold pathEdit?
  dsimp only
  split <;> first | rfl | (split <;> rfl)

theorem changePath_follows (ctx : Context) (name : String) (argument : Option Value) :
    Follows past r id (changePath name argument) (changePath name argument) := by
  have F := asked_framing.toItemFraming ctx.index
  refine ⟨F.changePath name argument, fun {m m'} atop => ?_⟩
  unfold changePath
  refine Meets.get_bind ?_
  rw [atop.searchPath]
  refine ((Follows.liftExcept (pathEdit?_eq r _ name argument)).bind fun change => ?_).meets atop
  cases change with
  | some e => exact .change (fun m => F.edit m e) fun atop => atop.edit e
  | none => exact .pure ()

theorem bodyStart_follows (hctx : ctx.Follows past r ctx') (scope : Scope) (name : String)
    (doc : DocValue) :
    Follows past r (renumberNames r) (bodyStart ctx scope name doc)
      (bodyStart ctx' (scope.renumber r) name doc) := by
  unfold bodyStart
  rw [nameFor_renumber]
  refine (lookupName_follows hctx .ofModule "__name__").bind fun home => ?_
  cases doc <;> exact Follows.pure (f := renumberNames r) _

theorem mapM_follows {α β γ : Type} {g : β → γ} {k : α → Exec β} {k' : α → Exec γ}
    (h : ∀ a, Follows past r g (k a) (k' a)) (as : List α) :
    Follows past r (List.map g) (as.mapM k) (as.mapM k') := by
  induction as with
  | nil => exact .pure []
  | cons a rest ih =>
      rw [List.mapM_cons, List.mapM_cons]
      exact (h a).bind fun b => ih.bind fun bs => .pure (b :: bs)

mutual

theorem runItem_follows (whole : past.Whole) (hctx : ctx.Follows past r ctx') (scope : Scope)
    (item : Item) :
    Follows past r (Scope.renumber r) (runItem ctx scope item)
      (runItem ctx' (scope.renumber r) item) := by
  have F := asked_framing.toItemFraming ctx.index
  cases item with
  | define form name doc =>
      have kept : (defined form doc).renumber r = defined form doc := by
        cases form <;> rfl
      have bound := bindIn_follows hctx scope name (defined form doc)
      rwa [kept] at bound
  | classBlock name bases doc members =>
      unfold runItem
      refine (mapM_follows (lookupDotted_follows whole hctx scope) bases).bind fun bases => ?_
      have kind : ofClassFault (kindOfBases (bases.map (Object.renumber r))) = _ :=
        (congrArg ofClassFault (kindOfBases_renumber r bases)).trans (ofClassFault_map r _ _)
      refine (Follows.liftExcept kind).bind fun kind => ?_
      refine (bodyStart_follows hctx scope name doc).bind fun start => ?_
      refine (runItems_follows whole hctx (.ofClass name start) members).bind fun body => ?_
      have rest (own : List (String × Object)) : Follows past r (Scope.renumber r)
          (do
            let made ← liftExcept (madeOf (← get).freshId name kind bases own)
            modify fun memory => { memory with freshId := memory.freshId + 1 }
            bindIn ctx scope name made)
          (do
            let made ← liftExcept (madeOf (← get).freshId name (kind.renumber r)
              (bases.map (Object.renumber r)) (renumberNames r own))
            modify fun memory => { memory with freshId := memory.freshId + 1 }
            bindIn ctx' (scope.renumber r) name made) := by
        refine .get_bind (fun m => ?_) fun {m m'} atop => ?_
        · exact F.bind (F.liftExcept _) fun _ => F.bind F.count fun _ => F.bindIn _ _ _
        · have made := madeOf_renumber r m.freshId name kind bases own
          -- The next number on top of the past is the one that the next number is moved to.
          rw [r.classId_of_le atop.own, ← atop.freshId] at made
          refine ((Follows.liftExcept made).bind fun o => ?_).meets atop
          exact (Follows.change F.count fun atop => atop.count).bind fun _ =>
            bindIn_follows hctx scope name o
      cases body with
      | ofModule => exact rest []
      | ofClass className names => exact rest names
  | lambda name => exact bindIn_follows hctx scope name (.function ⟨.absent, false, false⟩)
  | callable name => exact bindIn_follows hctx scope name .callable
  | constant name v => exact bindIn_follows hctx scope name (.value v)
  | «alias» name target =>
      unfold runItem
      exact (lookupDotted_follows whole hctx scope target).bind fun o =>
        bindIn_follows hctx scope name o
  | delete name => exact deleteIn_follows hctx scope name
  | useModule name names => exact useModule_follows whole hctx scope name names
  | throw kind message =>
      unfold runItem
      refine (lookupDotted_follows whole hctx scope kind).bind fun o => ?_
      have other : Follows past r (Scope.renumber r) (MonadExcept.throw (raisedBy o message))
          (MonadExcept.throw (raisedBy (o.renumber r) message)) := by
        rw [raisedBy_renumber]
        exact .throw _
      cases o with
      | pathMethod name => exact (changePath_follows ctx name message).bind fun _ => .throw _
      | _ => exact other
  | malformed =>
      unfold runItem
      rw [hctx.fileName]
      exact .throw _

theorem runItems_follows (whole : past.Whole) (hctx : ctx.Follows past r ctx') (scope : Scope)
    (items : List Item) :
    Follows past r (Scope.renumber r) (runItems ctx scope items)
      (runItems ctx' (scope.renumber r) items) := by
  cases items with
  | nil => exact .pure scope
  | cons item rest =>
      unfold runItems
      exact (runItem_follows whole hctx scope item).bind fun scope =>
        runItems_follows whole hctx scope rest

end

end Steps

end CommandManual.Script
