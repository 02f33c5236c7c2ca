import CommandManual.Proofs.Action

/-!
What the items of a command file keep. A command file changes the memory in few
ways: it binds and deletes names of its own module, it counts the classes that it
makes, it changes the search path, and it asks for other modules. So a relation
between memories that holds over any number of steps, and over each of these, holds
from the start of a file to its end, however it ends.
-/

namespace CommandManual.Script

variable {α β : Type}

/-! ### Running steps of command files -/

def Exec.outcome (x : Exec α) (m : Memory) : Except Raised α × Memory :=
  StateT.run (ExceptT.run x) m

namespace Exec

@[simp] theorem outcome_pure (a : α) (m : Memory) :
    (pure a : Exec α).outcome m = (.ok a, m) := rfl

@[simp] theorem outcome_throw (e : Raised) (m : Memory) :
    (throw e : Exec α).outcome m = (.error e, m) := rfl

@[simp] theorem outcome_get (m : Memory) : (get : Exec Memory).outcome m = (.ok m, m) := rfl

@[simp] theorem outcome_set (m m' : Memory) :
    (set m' : Exec PUnit).outcome m = (.ok ⟨⟩, m') := rfl

@[simp] theorem outcome_modify (f : Memory → Memory) (m : Memory) :
    (modify f : Exec PUnit).outcome m = (.ok ⟨⟩, f m) := rfl

theorem outcome_bind (x : Exec α) (f : α → Exec β) (m : Memory) :
    (x >>= f).outcome m =
      match x.outcome m with
      | (.ok a, m') => (f a).outcome m'
      | (.error e, m') => (.error e, m') := by
  rcases hx : x.outcome m with ⟨e | a, m'⟩
  · exact runStep_bind_of_error hx
  · exact runStep_bind_of_ok hx

theorem outcome_bind_eq_ok {x : Exec α} {f : α → Exec β} {m m'' : Memory} {b : β} :
    (x >>= f).outcome m = (.ok b, m'') ↔
      ∃ a m', x.outcome m = (.ok a, m') ∧ (f a).outcome m' = (.ok b, m'') :=
  runStep_bind_eq_ok

theorem outcome_bind_eq_error {x : Exec α} {f : α → Exec β} {m m'' : Memory} {e : Raised} :
    (x >>= f).outcome m = (.error e, m'') ↔
      x.outcome m = (.error e, m'') ∨
        ∃ a m', x.outcome m = (.ok a, m') ∧ (f a).outcome m' = (.error e, m'') :=
  runStep_bind_eq_error

theorem outcome_tryCatch (x : Exec α) (handle : Raised → Exec α) (m : Memory) :
    (tryCatch x handle).outcome m =
      match x.outcome m with
      | (.ok a, m') => (.ok a, m')
      | (.error e, m') => (handle e).outcome m' := by
  show StateT.run (ExceptT.run (ExceptT.tryCatch x handle)) m = _
  unfold ExceptT.tryCatch
  rcases hx : x.outcome m with ⟨e | a, m'⟩
  all_goals
    have hrun : StateT.run x m = (_, m') := hx
    simp only [ExceptT.run_mk, StateT.run_bind]
    rw [hrun]
    rfl

theorem outcome_map (f : α → β) (x : Exec α) (m : Memory) :
    (f <$> x).outcome m = ((x.outcome m).1.map f, (x.outcome m).2) := by
  rw [map_eq_pure_bind, outcome_bind]
  rcases x.outcome m with ⟨_ | a, m'⟩ <;> rfl

end Exec

/-! ### Relations that steps keep -/

def Exec.Keeps (R : Memory → Memory → Prop) (x : Exec α) : Prop := ∀ m, R m (x.outcome m).2

theorem Exec.Keeps.ite {R : Memory → Memory → Prop} {c : Prop} [Decidable c] {x y : Exec α}
    (hx : x.Keeps R) (hy : y.Keeps R) : (if c then x else y).Keeps R := by
  split
  · exact hx
  · exact hy

structure Memory.Framing (R : Memory → Memory → Prop) : Prop where
  refl : ∀ m, R m m
  trans : ∀ {m m' m''}, R m m' → R m' m'' → R m m''
  ask : ∀ m names, R m (m.ask names)

namespace Memory.Framing

open Exec

variable {R : Memory → Memory → Prop}

theorem pure (F : Framing R) (a : α) : (Pure.pure a : Exec α).Keeps R := F.refl

theorem throw (F : Framing R) (e : Raised) : (MonadExcept.throw e : Exec α).Keeps R := F.refl

theorem get (F : Framing R) : (MonadState.get : Exec Memory).Keeps R := F.refl

theorem liftExcept (F : Framing R) (x : Except Raised α) : (Script.liftExcept x).Keeps R := F.refl

theorem bind (F : Framing R) {x : Exec α} {f : α → Exec β} (hx : x.Keeps R)
    (hf : ∀ a, (f a).Keeps R) : (x >>= f).Keeps R := by
  intro m
  have h := hx m
  rw [outcome_bind]
  rcases hxm : x.outcome m with ⟨_ | a, m'⟩
  all_goals rw [hxm] at h
  · exact h
  · exact F.trans h (hf a m')

/-- Nothing comes after what is raised. -/
theorem throw_bind (F : Framing R) (e : Raised) (f : α → Exec β) :
    ((MonadExcept.throw e : Exec α) >>= f).Keeps R := F.refl

theorem tryCatch (F : Framing R) {x : Exec α} {handle : Raised → Exec α} (hx : x.Keeps R)
    (hf : ∀ e, (handle e).Keeps R) : (MonadExcept.tryCatch x handle).Keeps R := by
  intro m
  have h := hx m
  rw [outcome_tryCatch]
  rcases hxm : x.outcome m with ⟨e | a, m'⟩
  all_goals rw [hxm] at h
  · exact F.trans h (hf e m')
  · exact h

theorem mapM (F : Framing R) {f : α → Exec β} (hf : ∀ a, (f a).Keeps R) (xs : List α) :
    (xs.mapM f).Keeps R := by
  induction xs with
  | nil => exact F.pure _
  | cons x rest ih =>
      rw [List.mapM_cons]
      exact F.bind (hf x) fun _ => F.bind ih fun _ => F.pure _

end Memory.Framing

/-! ### Looking up names -/

namespace Memory.Framing

variable {R : Memory → Memory → Prop}

theorem moduleNames (F : Framing R) (ctx : Context) : (Script.moduleNames ctx).Keeps R :=
  F.bind F.get fun _ => F.pure _

theorem lookupName (F : Framing R) (ctx : Context) (scope : Scope) (name : String) :
    (Script.lookupName ctx scope name).Keeps R := by
  unfold Script.lookupName
  dsimp only
  split
  · exact F.pure _
  · refine F.bind (F.moduleNames ctx) fun names => ?_
    split
    · exact F.pure _
    · split
      · exact F.pure _
      · exact F.throw _

theorem lookupDotted (F : Framing R) (ctx : Context) (scope : Scope) (target : String) :
    (Script.lookupDotted ctx scope target).Keeps R := by
  unfold Script.lookupDotted
  dsimp only
  split
  · exact F.throw _
  · refine F.bind (F.lookupName ctx scope _) fun o => F.bind F.get fun m => ?_
    exact F.liftExcept _

theorem fullName (F : Framing R) (ctx : Context) (name : String) :
    (Script.fullName ctx name).Keeps R := by
  unfold Script.fullName
  dsimp only
  split
  · exact F.pure _
  · refine F.bind F.get fun m => ?_
    split
    · exact F.throw _
    · exact F.bind (F.liftExcept _) fun _ => F.liftExcept _

theorem importedName (F : Framing R) (index : Nat) (name : String) :
    (Script.importedName index name).Keeps R := by
  unfold Script.importedName
  refine F.bind F.get fun m => ?_
  dsimp only
  split
  · exact F.pure _
  · refine .ite (F.throw_bind _ _) ?_
    split
    · exact F.throw _
    · refine F.bind (fun m => F.ask m _) fun _ => ?_
      split
      · exact F.pure _
      · exact F.throw _

theorem bodyStart (F : Framing R) (ctx : Context) (scope : Scope) (name : String)
    (doc : DocValue) : (Script.bodyStart ctx scope name doc).Keeps R :=
  F.bind (F.lookupName _ _ _) fun _ => F.pure _

theorem requestSubmodules (F : Framing R) {ctx : Context}
    (hrequest : ∀ name, (ctx.request name).Keeps R) (index : Nat) (names : List String) :
    (Script.requestSubmodules ctx index names).Keeps R := by
  induction names with
  | nil => exact F.pure _
  | cons name rest ih =>
      unfold Script.requestSubmodules
      refine F.bind F.get fun m => ?_
      dsimp only
      split
      · refine F.bind F.get fun m' => .ite (F.bind (F.tryCatch ?_ fun e => ?_) fun _ => ih) ih
        · exact F.bind (hrequest _) fun _ => F.pure _
        · split
          · exact .ite (F.pure _) (F.throw _)
          · exact F.throw _
      · exact F.pure _

end Memory.Framing

/-! ### Items -/

/-- A relation between memories that also holds over what a file does to its own
module, which is at an index. -/
structure Memory.ItemFraming (R : Memory → Memory → Prop) (index : Nat) : Prop extends
    Framing R where
  count : ∀ m, R m { m with freshId := m.freshId + 1 }
  edit : ∀ m e, R m (m.edit e)
  names : ∀ m (f : List (String × Object) → List (String × Object)),
    R m (m.modify index fun x => { x with names := f x.names })

namespace Memory.ItemFraming

variable {R : Memory → Memory → Prop} {ctx : Context}

theorem bindName (F : ItemFraming R ctx.index) (scope : Scope) (name : String) (o : Object) :
    (Script.bindName ctx scope name o).Keeps R := by
  unfold Script.bindName
  split
  · exact F.bind (fun m => F.names m _) fun _ => F.pure _
  · exact F.pure _

theorem bindIn (F : ItemFraming R ctx.index) (scope : Scope) (name : String) (o : Object) :
    (Script.bindIn ctx scope name o).Keeps R :=
  F.bindName scope _ o

theorem deleteIn (F : ItemFraming R ctx.index) (scope : Scope) (name : String) :
    (Script.deleteIn ctx scope name).Keeps R := by
  unfold Script.deleteIn
  dsimp only
  split
  · refine F.bind (F.moduleNames ctx) fun names => .ite (F.throw_bind _ _) ?_
    exact F.bind (fun m => F.names m fun _ => _) fun _ => F.pure _
  · exact F.bind (F.pure _) fun names => .ite (F.throw_bind _ _) (F.pure _)

theorem bindImported (F : ItemFraming R ctx.index) (index : Nat) (scope : Scope)
    (names : List String) : (Script.bindImported ctx index scope names).Keeps R := by
  induction names generalizing scope with
  | nil => exact F.pure _
  | cons name rest ih =>
      unfold Script.bindImported
      refine F.bind (F.importedName _ _) fun o => ?_
      exact F.bind (F.bindName _ _ _) fun scope => ih scope

theorem bindOffered (F : ItemFraming R ctx.index) (index : Nat) (scope : Scope)
    (names : List String) : (Script.bindOffered ctx index scope names).Keeps R := by
  induction names generalizing scope with
  | nil => exact F.pure _
  | cons name rest ih =>
      unfold Script.bindOffered
      refine F.bind F.get fun m => F.bind (F.liftExcept _) fun o => ?_
      exact F.bind (F.bindName _ _ _) fun scope => ih scope

theorem bindWanted (F : ItemFraming R ctx.index)
    (hrequest : ∀ name, (ctx.request name).Keeps R) (scope : Scope) (full : String)
    (index : Nat) (names : List String) :
    (Script.bindWanted ctx scope full index names).Keeps R := by
  unfold Script.bindWanted
  refine .ite (F.bind (hrequest _) fun _ => F.bindIn _ _ _) (.ite ?_ ?_)
  · refine F.bind F.get fun m => F.bind (F.requestSubmodules hrequest _ _) fun _ => ?_
    exact F.bindOffered _ _ _
  · exact F.bind (F.requestSubmodules hrequest _ _) fun _ => F.bindImported _ _ _

theorem useModule (F : ItemFraming R ctx.index)
    (hrequest : ∀ name, (ctx.request name).Keeps R) (scope : Scope) (name : String)
    (names : List String) : (Script.useModule ctx scope name names).Keeps R :=
  F.bind (F.fullName _ _) fun full => F.bind (hrequest full) fun index =>
    F.bindWanted hrequest scope full index names

theorem changePath (F : ItemFraming R ctx.index) (name : String) (argument : Option Value) :
    (Script.changePath name argument).Keeps R := by
  unfold Script.changePath
  refine F.bind F.get fun m => F.bind (F.liftExcept _) fun change => ?_
  split
  · exact fun m => F.edit m _
  · exact F.pure _

mutual

theorem runItem (F : ItemFraming R ctx.index) (hrequest : ∀ name, (ctx.request name).Keeps R)
    (scope : Scope) (item : Item) : (Script.runItem ctx scope item).Keeps R := by
  cases item with
  | define form name doc => exact F.bindIn _ _ _
  | classBlock name bases doc members =>
      unfold Script.runItem
      refine F.bind (F.mapM (F.lookupDotted _ _) _) fun bases => ?_
      refine F.bind (F.liftExcept _) fun kind => F.bind (F.bodyStart _ _ _ _) fun start => ?_
      refine F.bind (F.runItems hrequest _ members) fun body => ?_
      refine F.bind F.get fun m => F.bind (F.liftExcept _) fun made => ?_
      exact F.bind (fun m => F.count m) fun _ => F.bindIn _ _ _
  | lambda name => exact F.bindIn _ _ _
  | callable name => exact F.bindIn _ _ _
  | constant name v => exact F.bindIn _ _ _
  | «alias» name target =>
      unfold Script.runItem
      exact F.bind (F.lookupDotted _ _ _) fun _ => F.bindIn _ _ _
  | delete name => exact F.deleteIn _ _
  | useModule name names => exact F.useModule hrequest _ _ _
  | throw kind message =>
      unfold Script.runItem
      refine F.bind (F.lookupDotted _ _ _) fun o => ?_
      split
      · exact F.bind (F.changePath _ _) fun _ => F.throw _
      · exact F.throw _
  | malformed => exact F.throw _

theorem runItems (F : ItemFraming R ctx.index) (hrequest : ∀ name, (ctx.request name).Keeps R)
    (scope : Scope) (items : List Item) : (Script.runItems ctx scope items).Keeps R := by
  cases items with
  | nil => exact F.pure _
  | cons item rest =>
      unfold Script.runItems
      exact F.bind (F.runItem hrequest scope item) fun scope => F.runItems hrequest scope rest

end

end Memory.ItemFraming

end CommandManual.Script
