import CommandManual.Proofs.Data.Keys
import CommandManual.Proofs.Frame
import CommandManual.Proofs.Text.Names

/-!
Runs of the registry. What is registered by hand stays until it is changed by hand,
and advertised commands of its name are passed over. The advertised commands are
looked up for a request at most once until the registry is cleared. The names are
told in increasing order, each once. All this holds of every sequence of calls, whatever
is advertised and however it fails.
-/

namespace CommandManual

/-! ### One intake -/

namespace Registry

theorem has_iff {r : Registry} {name : String} :
    r.has name = true ↔ ∃ t, r.targets.lookup name = some t :=
  Option.isSome_iff_exists

/-- What a name stands for, after something was registered. -/
theorem lookup_register (r : Registry) (name other : String) (t : Target) :
    (r.register other t).targets.lookup name =
      if name = other then some t else r.targets.lookup name := by
  split
  · rename_i same
    rw [same]
    exact lookup_assign_self other t r.targets
  · rename_i different
    exact lookup_assign_of_ne different t r.targets

theorem has_register (r : Registry) (name : String) (other : String) (t : Target)
    (h : r.has name = true) : (r.register other t).has name = true := by
  unfold has
  rw [lookup_register]
  split
  · rfl
  · exact h

/-- A name that is there, or that was missed before, needs no lookup. -/
theorem get_of_settled {r : Registry} {name : String}
    (settled : r.has name = true ∨ r.consulted = true) (entries : List EntryPoint) :
    r.get entries name = (r.targets.lookup name, none) := by
  rw [get, if_neg]
  rcases settled with h | h <;> simp [h]

theorem get_of_missed {r : Registry} {name : String} (missed : r.has name = false)
    (first : r.consulted = false) (entries : List EntryPoint) :
    r.get entries name =
      ((r.loadEntryPoints entries).registry.targets.lookup name,
        some (r.loadEntryPoints entries)) := by
  rw [get, if_pos]
  simp [missed, first]

variable {i : Intake} {name : String} (entries : List EntryPoint)

theorem consulted_takeIn (i : Intake) :
    (takeIn entries i).registry.consulted = i.registry.consulted := by
  fun_induction takeIn entries i with
  | case1 i => rfl
  | case2 e rest i known ih => exact ih
  | case3 e rest i unknown target loaded ih => exact ih
  | case4 | case6 => rfl
  | case5 e rest i unknown raised failed ordinary detail shown ih => exact ih

/-- A name that is known stands for the same afterwards. -/
theorem lookup_takeIn {t : Target} (h : i.registry.targets.lookup name = some t) :
    (takeIn entries i).registry.targets.lookup name = some t := by
  fun_induction takeIn entries i with
  | case1 | case4 | case6 => exact h
  | case2 e rest i known ih => exact ih h
  | case3 e rest i unknown target loaded ih =>
      refine ih ?_
      rw [lookup_register, if_neg ?_]
      · exact h
      · rintro rfl
        exact unknown (has_iff.mpr ⟨t, h⟩)
  | case5 e rest i unknown raised failed ordinary detail shown ih => exact ih h

/-- Entry points of a known name might as well not be there. -/
theorem takeIn_filter (h : i.registry.has name = true) :
    takeIn (entries.filter fun e => e.name != name) i = takeIn entries i := by
  induction entries generalizing i with
  | nil => rfl
  | cons e rest ih =>
      by_cases same : e.name = name
      · rw [List.filter_cons_of_neg (by simp [same]), takeIn, if_pos (by rw [same]; exact h)]
        exact ih h
      · rw [List.filter_cons_of_pos (by simp [same]), takeIn, takeIn]
        split
        · exact ih h
        · split
          · exact ih (has_register _ _ _ _ h)
          · split
            · rfl
            · split
              · exact ih h
              · rfl

end Registry

/-! ### The names -/

namespace Registry

def Distinct (r : Registry) : Prop := (r.targets.map Prod.fst).Nodup

theorem Distinct.register {r : Registry} (h : r.Distinct) (name : String) (t : Target) :
    (r.register name t).Distinct :=
  nodup_keys_assign name t h

theorem Distinct.unregister {r : Registry} (h : r.Distinct) (name : String) :
    (r.unregister name).Distinct :=
  h.sublist (List.filter_sublist.map Prod.fst)

theorem distinct_takeIn {i : Intake} (h : i.registry.Distinct) (entries : List EntryPoint) :
    (takeIn entries i).registry.Distinct := by
  fun_induction takeIn entries i with
  | case1 | case4 | case6 => exact h
  | case2 e rest i known ih => exact ih h
  | case3 e rest i unknown target loaded ih => exact ih (h.register e.name target)
  | case5 e rest i unknown raised failed ordinary detail shown ih => exact ih h

theorem mem_names_iff {r : Registry} {name : String} :
    name ∈ r.names ↔ r.has name = true := by
  rw [names, Text.mem_sortNames, has, List.lookup_isSome_iff, List.mem_map]
  simp only [beq_iff_eq, eq_comm (a := name)]

theorem Distinct.pairwise_lt_names {r : Registry} (h : r.Distinct) :
    r.names.Pairwise (· < ·) :=
  Text.pairwise_lt_sortNames h

end Registry

/-! ### Calls -/

namespace Workspace

def without (w : Workspace) (name : String) : Workspace :=
  { w with entryPoints := w.entryPoints.filter fun e => e.name != name }

def intake (w : Workspace) (group : String) : Workspace :=
  ((Action.loadEntryPoints group).outcome w).2

structure SameRegistry (w w' : Workspace) : Prop where
  registry : w'.registry = w.registry
  lookups : w'.lookups = w.lookups
  entryPoints : w'.entryPoints = w.entryPoints

theorem sameRegistry_framing : Framing SameRegistry where
  refl _ := ⟨rfl, rfl, rfl⟩
  trans h h' := ⟨h'.registry.trans h.registry, h'.lookups.trans h.lookups,
    h'.entryPoints.trans h.entryPoints⟩
  deliver _ _ := ⟨rfl, rfl, rfl⟩

end Workspace

namespace Action

/-- What an intake leaves, whether or not it was stopped. -/
theorem outcome_keepIntake_snd (group : String) (i : Registry.Intake) (w : Workspace) :
    ((keepIntake group i).outcome w).2 =
      (Registry.noteFailures i.failures).outcome.2.foldl Workspace.deliver
        { w with registry := i.registry, lookups := w.lookups ++ [group] } := by
  unfold keepIntake
  rw [outcome_bind, outcome_modify]
  dsimp only
  rw [outcome_bind, outcome_ofTraced]
  rcases (Registry.noteFailures i.failures).outcome.1 with fault | _
  · rfl
  · dsimp only
    split <;> rfl

theorem outcome_loadEntryPoints_snd (group : String) (w : Workspace) :
    ((loadEntryPoints group).outcome w).2 =
      ((keepIntake group (w.registry.loadEntryPoints (advertised group w))).outcome w).2 := by
  unfold loadEntryPoints
  rw [outcome_bind, outcome_get]
  dsimp only
  rw [outcome_bind]
  rcases (keepIntake _ _).outcome w with ⟨fault | _, w'⟩ <;> rfl

theorem outcome_registered_of_settled {name : String} {w : Workspace}
    (settled : w.registry.has name = true ∨ w.registry.consulted = true) :
    (registered name).outcome w = (.ok (w.registry.targets.lookup name), w) := by
  unfold registered
  rw [outcome_bind, outcome_get]
  dsimp only
  rw [Registry.get_of_settled settled]
  rfl

/-- The first request for a name that is not there takes in the advertised commands. -/
theorem outcome_registered_of_missed {name : String} {w : Workspace}
    (missed : w.registry.has name = false) (first : w.registry.consulted = false) :
    ((registered name).outcome w).2 = w.intake Registry.defaultGroup := by
  unfold registered Workspace.intake
  rw [outcome_loadEntryPoints_snd, outcome_bind, outcome_get]
  dsimp only
  rw [Registry.get_of_missed missed first]
  dsimp only
  rw [outcome_bind]
  rcases (keepIntake _ _).outcome w with ⟨fault | _, w'⟩ <;> rfl

/-- What registering a name leaves; that a target is replaced is noted. -/
theorem outcome_register_snd (name : String) (t : Target) (w : Workspace) :
    ((register name t).outcome w).2 =
      { (if w.registry.has name then
          w.deliver (.named Registry.logger .debug ("Replacing registered command " ++ name)
            [("name", .str name)])
        else w) with registry := w.registry.register name t } := by
  unfold register
  rw [outcome_bind, outcome_get]
  dsimp only
  split <;> rfl

end Action

namespace Workspace

variable (w : Workspace) (group name : String)

/-- What an intake makes of the registry. -/
theorem sameRegistry_intake :
    SameRegistry
      { w with
        registry := (w.registry.loadEntryPoints (Action.advertised group w)).registry
        lookups := w.lookups ++ [group] }
      (w.intake group) := by
  rw [intake, Action.outcome_loadEntryPoints_snd, Action.outcome_keepIntake_snd]
  exact sameRegistry_framing.ofTraced (Registry.noteFailures _) _

theorem consulted_intake : (w.intake group).registry.consulted = true := by
  rw [(w.sameRegistry_intake group).registry]
  exact Registry.consulted_takeIn _ _

theorem foldl_deliver_without (records : List Log.Record) :
    records.foldl deliver (w.without name) = (records.foldl deliver w).without name := by
  induction records generalizing w with
  | nil => rfl
  | cons r rest ih => exact ih (w.deliver r)

/-- Advertised commands of a known name are nothing to an intake. -/
theorem intake_without (known : w.registry.has name = true) :
    (w.without name).intake group = (w.intake group).without name := by
  have advertised : Action.advertised group (w.without name) =
      (Action.advertised group w).filter fun e => e.name != name := by
    simp only [Action.advertised, without, List.filter_filter, Bool.and_comm]
  have taken : (w.without name).registry.loadEntryPoints
      (Action.advertised group (w.without name)) =
        w.registry.loadEntryPoints (Action.advertised group w) := by
    rw [advertised]
    exact Registry.takeIn_filter (i := { registry := { w.registry with consulted := true } })
      (Action.advertised group w) known
  rw [intake, intake, Action.outcome_loadEntryPoints_snd, Action.outcome_loadEntryPoints_snd,
    Action.outcome_keepIntake_snd, Action.outcome_keepIntake_snd, taken, ← foldl_deliver_without]
  rfl

end Workspace

namespace Registry

inductive Call
  | register (name : String) (t : Target)
  | unregister (name : String)
  | get (name : String)
  | names
  | clear
  | loadEntryPoints (group : String)
  /-- From now on these commands are advertised. -/
  | install (entries : List EntryPoint)

namespace Call

def carryOut (w : Workspace) : Call → Workspace
  | register name t => ((Action.register name t).outcome w).2
  | unregister name => { w with registry := w.registry.unregister name }
  | get name => ((Action.registered name).outcome w).2
  | names => w
  | clear => { w with registry := w.registry.clear }
  | loadEntryPoints group => ((Action.loadEntryPoints group).outcome w).2
  | install entries => { w with entryPoints := entries }

def Changes (name : String) : Call → Prop
  | register other _ => other = name
  | unregister other => other = name
  | clear => True
  | _ => False

def without (name : String) : Call → Call
  | install entries => install (entries.filter fun e => e.name != name)
  | c => c

variable {c : Call} {name : String} {w : Workspace}

theorem carryOut_get_of_settled
    (settled : w.registry.has name = true ∨ w.registry.consulted = true) :
    (get name).carryOut w = w := by
  rw [carryOut, Action.outcome_registered_of_settled settled]

theorem carryOut_get_of_missed (missed : w.registry.has name = false)
    (first : w.registry.consulted = false) :
    (get name).carryOut w = w.intake defaultGroup := by
  rw [carryOut, Action.outcome_registered_of_missed missed first]

/-- A request leaves the workspace alone, or takes in the advertised commands. -/
theorem carryOut_get_cases (name : String) (w : Workspace) :
    (get name).carryOut w = w ∨
      w.registry.has name = false ∧ w.registry.consulted = false ∧
        (get name).carryOut w = w.intake defaultGroup := by
  cases missed : w.registry.has name with
  | true => exact .inl (carryOut_get_of_settled (.inl missed))
  | false =>
      cases first : w.registry.consulted with
      | true => exact .inl (carryOut_get_of_settled (.inr first))
      | false => exact .inr ⟨rfl, rfl, carryOut_get_of_missed missed first⟩

theorem registry_register (name : String) (t : Target) (w : Workspace) :
    ((register name t).carryOut w).registry = w.registry.register name t := by
  rw [carryOut, Action.outcome_register_snd]

/-- What is registered stays until a call changes it. -/
theorem lookup_carryOut (unchanged : ¬ c.Changes name) {t : Target}
    (h : w.registry.targets.lookup name = some t) :
    (c.carryOut w).registry.targets.lookup name = some t := by
  have intake (group : String) : (w.intake group).registry.targets.lookup name = some t := by
    rw [(w.sameRegistry_intake group).registry]
    exact lookup_takeIn _ h
  cases c with
  | register other t' =>
      rw [registry_register, lookup_register, if_neg fun same => unchanged same.symm]
      exact h
  | unregister other =>
      have different : name ≠ other := fun same => unchanged same.symm
      rw [carryOut, Registry.unregister, lookup_filter_keys (· != other),
        if_pos (by simp [different])]
      exact h
  | get other =>
      rcases carryOut_get_cases other w with same | ⟨-, -, taken⟩
      · rw [same]
        exact h
      · rw [taken]
        exact intake _
  | names | install => exact h
  | clear => exact absurd trivial unchanged
  | loadEntryPoints group => exact intake group

/-- While a name is known, advertised commands of that name change nothing at all. -/
theorem carryOut_without (c : Call) (known : w.registry.has name = true) :
    (c.without name).carryOut (w.without name) = (c.carryOut w).without name := by
  cases c with
  | register other t =>
      change ((Action.register other t).outcome (w.without name)).2 =
        ((Action.register other t).outcome w).2.without name
      rw [Action.outcome_register_snd, Action.outcome_register_snd]
      cases replaced : w.registry.has other with
      | true =>
          rw [if_pos rfl, if_pos (show (w.without name).registry.has other = true from replaced)]
          rfl
      | false =>
          have new : ¬ (w.without name).registry.has other = true := by
            simp [Workspace.without, replaced]
          rw [if_neg Bool.false_ne_true, if_neg new]
          rfl
  | get other =>
      change (get other).carryOut (w.without name) = _
      cases missed : w.registry.has other with
      | true =>
          rw [carryOut_get_of_settled (.inl missed)]
          exact carryOut_get_of_settled (.inl missed)
      | false =>
          cases first : w.registry.consulted with
          | true =>
              rw [carryOut_get_of_settled (.inr first)]
              exact carryOut_get_of_settled (.inr first)
          | false =>
              rw [carryOut_get_of_missed missed first, ← w.intake_without defaultGroup name known]
              exact carryOut_get_of_missed missed first
  | unregister | names | clear | install => rfl
  | loadEntryPoints group => exact w.intake_without group name known

theorem distinct_carryOut (c : Call) (h : w.registry.Distinct) :
    (c.carryOut w).registry.Distinct := by
  have intake (group : String) : (w.intake group).registry.Distinct := by
    rw [(w.sameRegistry_intake group).registry]
    exact distinct_takeIn h _
  cases c with
  | register other t =>
      rw [registry_register]
      exact h.register other t
  | unregister other => exact h.unregister other
  | get other =>
      rcases carryOut_get_cases other w with same | ⟨-, -, taken⟩
      · rw [same]
        exact h
      · rw [taken]
        exact intake _
  | names | install => exact h
  | clear => exact List.nodup_nil
  | loadEntryPoints group => exact intake group

def Misses (w : Workspace) : Call → Prop
  | get name => w.registry.has name = false
  | _ => False

/-- After which calls the advertised commands count as consulted. -/
theorem consulted_carryOut_iff (kept : c ≠ clear) :
    (c.carryOut w).registry.consulted = true ↔
      w.registry.consulted = true ∨ (∃ group, c = loadEntryPoints group) ∨ c.Misses w := by
  cases c with
  | register other t =>
      rw [registry_register]
      simp [Misses, Registry.register]
  | get other =>
      cases first : w.registry.consulted with
      | true =>
          rw [carryOut_get_of_settled (.inr first)]
          exact iff_of_true first (.inl rfl)
      | false =>
          cases missed : w.registry.has other with
          | true =>
              rw [carryOut_get_of_settled (.inl missed)]
              simp [Misses, first, missed]
          | false =>
              rw [carryOut_get_of_missed missed first]
              exact iff_of_true (w.consulted_intake _) (.inr (.inr missed))
  | unregister | names | install => simp [Misses, carryOut, Registry.unregister]
  | clear => exact absurd rfl kept
  | loadEntryPoints group =>
      exact iff_of_true (w.consulted_intake group) (.inr (.inl ⟨group, rfl⟩))

end Call

end Registry

/-! ### Sequences of calls -/

namespace Workspace

open Registry

def afterCalls (w : Workspace) (calls : List Call) : Workspace := calls.foldl Call.carryOut w

@[simp] theorem afterCalls_nil (w : Workspace) : w.afterCalls [] = w := rfl

@[simp] theorem afterCalls_cons (w : Workspace) (c : Call) (calls : List Call) :
    w.afterCalls (c :: calls) = (c.carryOut w).afterCalls calls := rfl

@[simp] theorem afterCalls_append (w : Workspace) (calls calls' : List Call) :
    w.afterCalls (calls ++ calls') = (w.afterCalls calls).afterCalls calls' :=
  List.foldl_append

/-- Whether one of some calls is a request for a name that is not there at that time. -/
def Missed (w : Workspace) (calls : List Call) : Prop :=
  ∃ before c after, calls = before ++ c :: after ∧ c.Misses (w.afterCalls before)

def LooksUp (w : Workspace) (name : String) : Prop :=
  ((Action.registered name).outcome w).2.lookups ≠ w.lookups

variable {w : Workspace} {calls : List Call} {name : String}

theorem lookup_afterCalls (unchanged : ∀ c ∈ calls, ¬ c.Changes name) {t : Target}
    (h : w.registry.targets.lookup name = some t) :
    (w.afterCalls calls).registry.targets.lookup name = some t := by
  induction calls generalizing w with
  | nil => exact h
  | cons c rest ih =>
      obtain ⟨first, later⟩ := List.forall_mem_cons.mp unchanged
      exact ih later (Call.lookup_carryOut first h)

theorem afterCalls_without (unchanged : ∀ c ∈ calls, ¬ c.Changes name) {t : Target}
    (h : w.registry.targets.lookup name = some t) :
    (w.without name).afterCalls (calls.map (Call.without name)) =
      (w.afterCalls calls).without name := by
  induction calls generalizing w with
  | nil => rfl
  | cons c rest ih =>
      obtain ⟨first, later⟩ := List.forall_mem_cons.mp unchanged
      rw [List.map_cons, afterCalls_cons, Call.carryOut_without c (has_iff.mpr ⟨t, h⟩)]
      exact ih later (Call.lookup_carryOut first h)

theorem distinct_afterCalls (h : w.registry.Distinct) : (w.afterCalls calls).registry.Distinct := by
  induction calls generalizing w with
  | nil => exact h
  | cons c rest ih => exact ih (Call.distinct_carryOut c h)

@[simp] theorem not_missed_nil : ¬ w.Missed [] := by simp [Missed]

@[simp] theorem missed_cons_iff {c : Call} :
    w.Missed (c :: calls) ↔ c.Misses w ∨ (c.carryOut w).Missed calls := by
  constructor
  · rintro ⟨before, c', after, split, misses⟩
    cases before with
    | nil =>
        cases split
        exact .inl misses
    | cons _ before =>
        cases split
        exact .inr ⟨before, c', after, rfl, misses⟩
  · rintro (misses | ⟨before, c', after, rfl, misses⟩)
    · exact ⟨[], c, calls, rfl, misses⟩
    · exact ⟨c :: before, c', after, rfl, misses⟩

/-- Until the registry is cleared, what is advertised counts as consulted from the first
intake or missed request on. -/
theorem consulted_afterCalls_iff (kept : Call.clear ∉ calls) :
    (w.afterCalls calls).registry.consulted = true ↔
      w.registry.consulted = true ∨ (∃ group, .loadEntryPoints group ∈ calls) ∨ w.Missed calls := by
  induction calls generalizing w with
  | nil => simp
  | cons c rest ih =>
      rw [List.mem_cons, not_or] at kept
      rw [afterCalls_cons, ih kept.2, Call.consulted_carryOut_iff (Ne.symm kept.1), missed_cons_iff]
      simp only [List.mem_cons, exists_or, eq_comm (a := c)]
      tauto

/-- A request changes no lookups, or makes one: if the name is not there and nothing was
looked up before. -/
theorem lookups_registered_cases (w : Workspace) (name : String) :
    ((Action.registered name).outcome w).2.lookups = w.lookups ∧
        ¬ (w.registry.has name = false ∧ w.registry.consulted = false) ∨
      ((Action.registered name).outcome w).2.lookups = w.lookups ++ [defaultGroup] ∧
        w.registry.has name = false ∧ w.registry.consulted = false := by
  rcases Classical.em (w.registry.has name = false ∧ w.registry.consulted = false) with
    ⟨missed, first⟩ | settled
  · refine .inr ⟨?_, missed, first⟩
    rw [Action.outcome_registered_of_missed missed first]
    exact (w.sameRegistry_intake defaultGroup).lookups
  · refine .inl ⟨?_, settled⟩
    rw [Action.outcome_registered_of_settled]
    simpa [imp_iff_not_or] using settled

theorem looksUp_iff :
    w.LooksUp name ↔ w.registry.has name = false ∧ w.registry.consulted = false := by
  rcases w.lookups_registered_cases name with ⟨same, settled⟩ | ⟨more, missed⟩
  · exact iff_of_false (fun looked => looked same) settled
  · refine iff_of_true (fun same => ?_) missed
    rw [more] at same
    simp at same

/-- Whether calls end where a registry is new: at the start, or when it was just cleared. -/
def Renews (calls : List Call) : Prop := calls = [] ∨ ∃ earlier, calls = earlier ++ [.clear]

theorem consulted_of_renews (fresh : w.registry = {}) (renewed : Renews calls) :
    (w.afterCalls calls).registry.consulted = false := by
  rcases renewed with rfl | ⟨earlier, rfl⟩
  · rw [afterCalls_nil, fresh]
  · rw [afterCalls_append]
    rfl

/-- What any calls make of a new registry. What is registered by hand is found until it is
changed by hand, and until then all goes as if no command of its name were advertised.
A request looks up what is advertised at most once, and does so exactly if the name is not
there and, since the registry was new, nothing was taken in and no request has missed. So
after such a lookup there is none until the registry is cleared. The names are strictly
increasing, and they are those that stand for something. -/
theorem registry_runs (fresh : w.registry = {}) (calls : List Call) :
    (∀ before name t after, calls = before ++ .register name t :: after →
      (∀ c ∈ after, ¬ c.Changes name) →
        (Action.registered name).outcome (w.afterCalls calls) =
            (.ok (some t), w.afterCalls calls) ∧
          ((w.afterCalls (before ++ [.register name t])).without name).afterCalls
              (after.map (Call.without name)) =
            (w.afterCalls calls).without name) ∧
    (∀ before past, calls = before ++ past → Renews before → Call.clear ∉ past →
      ∀ name, (w.afterCalls calls).LooksUp name ↔
        (w.afterCalls calls).registry.has name = false ∧
          (∀ group, .loadEntryPoints group ∉ past) ∧ ¬ (w.afterCalls before).Missed past) ∧
    (∀ name, (w.afterCalls calls).LooksUp name →
      ((Action.registered name).outcome (w.afterCalls calls)).2.lookups =
        (w.afterCalls calls).lookups ++ [defaultGroup]) ∧
    (∀ before first between, calls = before ++ .get first :: between → Call.clear ∉ between →
      (w.afterCalls before).LooksUp first → ∀ name, ¬ (w.afterCalls calls).LooksUp name) ∧
    (w.afterCalls calls).registry.names.Pairwise (· < ·) ∧
    ∀ name, name ∈ (w.afterCalls calls).registry.names ↔
      (w.afterCalls calls).registry.has name = true := by
  refine ⟨?_, ?_, ?_, ?_, ?_, fun name => mem_names_iff⟩
  · rintro before name t after rfl unchanged
    have found : (w.afterCalls (before ++ [.register name t])).registry.targets.lookup name =
        some t := by
      rw [afterCalls_append, afterCalls_cons, afterCalls_nil, Call.registry_register,
        lookup_register, if_pos rfl]
    rw [List.append_cons before, w.afterCalls_append (before ++ _)]
    have later := lookup_afterCalls unchanged found
    refine ⟨?_, afterCalls_without unchanged found⟩
    rw [Action.outcome_registered_of_settled (.inl (has_iff.mpr ⟨t, later⟩)), later]
  · rintro before past rfl renewed kept name
    have new := consulted_of_renews fresh renewed
    rw [looksUp_iff, afterCalls_append, ← Bool.not_eq_true (Registry.consulted _),
      consulted_afterCalls_iff kept]
    simp [new]
  · intro name looked
    rcases (w.afterCalls calls).lookups_registered_cases name with ⟨same, -⟩ | ⟨more, -⟩
    · exact absurd same looked
    · exact more
  · rintro before first between rfl kept looked name later
    -- The first lookup has set the mark that the registry bears until it is cleared.
    obtain ⟨missed, -⟩ := looksUp_iff.mp looked
    rw [looksUp_iff, afterCalls_append] at later
    have marked : ((w.afterCalls before).afterCalls (.get first :: between)).registry.consulted =
        true :=
      (consulted_afterCalls_iff (by simpa using kept)).mpr
        (.inr (.inr (missed_cons_iff.mpr (.inl missed))))
    rw [later.2] at marked
    cases marked
  · have distinct : w.registry.Distinct := by
      rw [fresh]
      exact List.nodup_nil
    exact (distinct_afterCalls distinct).pairwise_lt_names

/-! ### A run -/

def advert (name : String) (outcome : Except Script.Raised Target) : EntryPoint :=
  { name, value := "pack:" ++ name, group := defaultGroup, outcome }

def numbered (n : Nat) : Target := .object (.value (.int n))

/-- A workspace with a new registry. The first advertised command cannot be loaded. -/
def fairground : Workspace where
  tree := { entries := [], here := [] }
  entryPoints :=
    [advert "bow" (.error (.undefinedName "Bow")), advert "greet" (.ok (numbered 1)),
      advert "wave" (.ok (numbered 2))]

/-- One command is registered by hand, one is asked for that is advertised, and one
that cannot be loaded. -/
def visit : List Call := [.register "greet" (numbered 3), .get "wave", .get "bow"]

/-- The request for `wave` looks up what is advertised and the one for `bow` does not. What
was registered by hand stays, and only one of the other two is there at the end. -/
theorem fairground_visited :
    fairground.registry = {} ∧
      (Action.registered "greet").outcome (fairground.afterCalls visit) =
        (.ok (some (numbered 3)), fairground.afterCalls visit) ∧
      (fairground.afterCalls (visit.take 1)).LooksUp "wave" ∧
      ¬ (fairground.afterCalls visit).LooksUp "bow" ∧
      (fairground.afterCalls visit).registry.names.Pairwise (· < ·) ∧
      "wave" ∈ (fairground.afterCalls visit).registry.names ∧
      "bow" ∉ (fairground.afterCalls visit).registry.names := by
  obtain ⟨kept, -, -, once, increasing, listed⟩ := registry_runs (w := fairground) rfl visit
  have looked : (fairground.afterCalls (visit.take 1)).LooksUp "wave" := by
    obtain ⟨-, exactly, -⟩ := registry_runs (w := fairground) rfl (visit.take 1)
    refine (exactly [] (visit.take 1) rfl (.inl rfl) (by simp [visit]) "wave").mpr
      ⟨by decide +kernel, by simp [visit], ?_⟩
    simp [visit, Call.Misses]
  refine ⟨rfl, ?_, looked, ?_, increasing, ?_, ?_⟩
  · exact (kept [] "greet" (numbered 3) [.get "wave", .get "bow"] rfl (by simp [Call.Changes])).1
  · exact once (visit.take 1) "wave" [.get "bow"] rfl (by simp) looked "bow"
  · exact (listed "wave").mpr (by decide +kernel)
  · exact fun hmem => absurd ((listed "bow").mp hmem) (by decide +kernel)

end Workspace

end CommandManual
