import CommandManual.Proofs.Manual.Breach

/-!
The work on a command against the problems that the program has names for. What goes
wrong with a command is never a fault of the configuration. The one way in which it
counts as such a problem is that a module says so: the class of the command is
imported, and on the way a module raises an error of that kind.
-/

namespace CommandManual

open CommandManual.Script

/-- Neither a fault of the configuration, nor an error of a command file that counts as a
problem of the program's own. -/
def Fault.isSettled : Fault → Bool
  | configuration .. => false
  | signalled .. => false
  | _ => true

theorem Fault.isSettled_of_isExplained {fault : Fault} (h : fault.isExplained = true) :
    fault.isSettled = false := by
  cases fault <;> first | rfl | cases h

namespace Action

variable {α β : Type}

/-! ### Steps that settle -/

def Settles (x : Except Fault α) : Prop := ∀ fault, x = .error fault → fault.isSettled = true

def Settled (x : Action α) : Prop := ∀ w, Settles (x.outcome w).1

theorem settles_ok (a : α) : Settles (.ok a) := by
  rintro fault ⟨⟩

theorem settles_error {fault : Fault} (h : fault.isSettled = true) :
    Settles (.error fault : Except Fault α) := by
  rintro _ ⟨⟩
  exact h

theorem Settles.map {x : Except Fault α} (h : Settles x) (f : α → β) : Settles (x.map f) := by
  cases x with
  | error fault => exact settles_error (h fault rfl)
  | ok a => exact settles_ok _

theorem settles_mapError {ε : Type} (x : Except ε α) {f : ε → Fault}
    (h : ∀ e, (f e).isSettled = true) : Settles (x.mapError f) := by
  cases x with
  | error e => exact settles_error (h e)
  | ok a => exact settles_ok a

theorem settled_pure (a : α) : (pure a : Action α).Settled := fun _ => settles_ok a

theorem settled_get : (get : Action Workspace).Settled := fun w => settles_ok w

theorem settled_throw {fault : Fault} (h : fault.isSettled = true) :
    (throw fault : Action α).Settled :=
  fun _ => settles_error h

theorem settled_ofExcept {x : Except Fault α} (h : Settles x) : (ofExcept x).Settled := fun _ => h

theorem settled_ofTraced {x : Traced α} (h : Settles x.outcome.1) : (ofTraced x).Settled :=
  fun _ => h

theorem settled_note (logger : String) (level : Log.Level) (message : String)
    (values : List (String × Value)) : (note logger level message values).Settled :=
  fun _ => settles_ok ()

theorem settled_ofExec (x : Exec α) : (ofExec x).Settled := fun _ => settles_ok _

theorem Settled.bind {x : Action α} {f : α → Action β} (hx : x.Settled)
    (hf : ∀ a, (f a).Settled) : (x >>= f).Settled := by
  intro w
  rw [outcome_bind]
  rcases hxw : x.outcome w with ⟨fault | a, w'⟩
  · exact settles_error (hx w fault (by rw [hxw]))
  · exact hf a w'

/-! ### Steps of the work on a command -/

theorem settled_findFile (path : Path) (className : String) :
    (findFile path className).Settled := by
  unfold findFile
  refine .bind settled_get fun w => .bind (settled_ofExcept ?_) fun found => ?_
  · exact settles_mapError _ fun _ => rfl
  split
  · refine .bind (settled_ofExcept ?_) fun _ => settled_pure _
    exact settles_mapError _ fun _ => rfl
  · exact settled_throw rfl

theorem settled_loadNew (path : Path) (className : String) (file : Path) :
    (loadNew path className file).Settled := by
  unfold loadNew
  refine .bind settled_get fun w => ?_
  dsimp only
  split
  · exact settled_throw rfl
  · exact settled_throw rfl
  · refine .bind (settled_ofExec _) fun result => ?_
    split
    · refine settled_throw ?_
      unfold unloadable
      split
      · split <;> rfl
      · rfl
    · exact .bind (settled_note _ _ _ _) fun _ => settled_pure _

theorem settled_loadFile (path : Path) (className : String) :
    (loadFile path className).Settled := by
  unfold loadFile
  refine .bind (settled_findFile _ _) fun file => .bind settled_get fun w => ?_
  split
  · exact settled_pure _
  · exact settled_loadNew _ _ _

theorem settled_resolveClass (index : Nat) (className : String) :
    (resolveClass index className).Settled := by
  unfold resolveClass
  refine .bind settled_get fun w => ?_
  split
  · refine settled_throw ?_
    split <;> rfl
  · exact settled_pure _
  · exact settled_throw rfl

theorem settled_answeringProvider (d : Descriptor) (o : Object) :
    (answeringProvider d o).Settled := by
  unfold answeringProvider
  refine .bind settled_get fun w => .bind (settled_ofExcept ?_) fun answers => ?_
  · exact settles_mapError _ fun _ => rfl
  split
  · exact settled_pure _
  · exact settled_throw rfl

theorem settled_registered (name : String) : (registered name).Settled := by
  have intake (group : String) (i : Registry.Intake) : (keepIntake group i).Settled := by
    unfold keepIntake
    refine .bind (fun _ => settles_ok _) fun _ => .bind (settled_ofTraced ?_) fun _ => ?_
    · rw [Traced.outcome, Registry.noteFailures_run]
      exact settles_ok _
    split
    · exact settled_throw rfl
    · exact settled_pure _
  unfold registered
  refine .bind settled_get fun w => ?_
  dsimp only
  split
  · exact .bind (intake _ _) fun _ => settled_pure _
  · exact settled_pure _

theorem settles_collectDocs (className : String) (methods : List (String × Function))
    (records : List Log.Record) :
    Settles (StateT.run (ExceptT.run (collectDocs className methods)) records).1 := by
  induction methods generalizing records with
  | nil => exact settles_ok _
  | cons m rest ih =>
      obtain ⟨name, f⟩ := m
      rw [collectDocs_cons_run]
      rcases hdoc : f.methodDoc? name with fault | _ | doc
      · unfold Function.methodDoc? at hdoc
        split at hdoc <;> cases hdoc
        exact settles_error rfl
      · exact ih _
      · exact (ih records).map _

theorem settles_methodDocs (memory : Memory) (provider : Provider) :
    Settles (provider.methodDocs memory).outcome.1 := by
  cases provider with
  | ofClass d o =>
      by_cases isClass : ∃ c, o = .cls c
      · obtain ⟨c, rfl⟩ := isClass
        rw [methodDocs_ofClass_fst]
        exact (settles_collectDocs c.name c.publicMethods []).map _
      · have noClass : ∃ fault, memory.classFor o = .error fault ∧ fault.isSettled = true := by
          unfold Memory.classFor
          split
          · exact absurd ⟨_, rfl⟩ isClass
          · split <;> exact ⟨_, rfl, rfl⟩
        obtain ⟨fault, hfault, settled⟩ := noClass
        rw [Provider.methodDocs, Traced.outcome, Traced.run_bind, Traced.run_ofExcept, hfault]
        exact settles_error settled
  | fixed d docs => exact settles_ok _
  | object o => exact settles_mapError _ fun _ => rfl

theorem settled_docsFrom (d : Descriptor) (provider : Provider) :
    (docsFrom d provider).Settled := by
  unfold docsFrom
  refine .bind settled_get fun w => ?_
  refine .bind (settled_ofTraced (settles_methodDocs _ _)) fun answer => ?_
  have listed : (ofExcept answer.list).Settled := by
    refine settled_ofExcept ?_
    cases answer with
    | docs known => exact settles_ok _
    | object o => exact settles_mapError _ fun _ => rfl
  refine .bind (settled_ofExcept ?_) fun empty => ?_
  · cases answer with
    | docs known => exact settles_ok _
    | object o => exact settles_mapError _ fun _ => rfl
  split
  · exact .bind (settled_note _ _ _ _) fun _ => listed
  · exact listed

theorem settled_writePage (destination : String) (page : Page) :
    (writePage destination page).Settled := by
  unfold writePage
  refine .bind settled_get fun w => ?_
  split
  · exact settled_throw rfl
  · exact settled_throw rfl
  · exact .bind (fun _ => settles_ok _) fun _ =>
      .bind (settled_note _ _ _ _) fun _ => settled_pure _

/-! ### What is left unsettled -/

def Unsettled (x : Action α) (w : Workspace) (fault : Fault) : Prop :=
  (x.outcome w).1 = .error fault ∧ fault.isSettled = false

theorem Settled.not_unsettled {x : Action α} (h : x.Settled) (w : Workspace) (fault : Fault) :
    ¬ x.Unsettled w fault := by
  rintro ⟨failed, unsettled⟩
  rw [h w fault failed] at unsettled
  cases unsettled

theorem unsettled_bind {x : Action α} {f : α → Action β} {w : Workspace} {fault : Fault} :
    (x >>= f).Unsettled w fault ↔
      x.Unsettled w fault ∨ ∃ a w', x.outcome w = (.ok a, w') ∧ (f a).Unsettled w' fault := by
  unfold Unsettled
  rw [outcome_bind]
  rcases x.outcome w with ⟨e | a, w'⟩
  · simp
  · constructor
    · exact fun h => .inr ⟨a, w', rfl, h⟩
    · rintro (⟨⟨⟩, -⟩ | ⟨_, _, ⟨⟩, h⟩)
      exact h

/-- What comes after a step is settled, so only the step itself counts. -/
theorem unsettled_bind_left {x : Action α} {f : α → Action β} (hf : ∀ a, (f a).Settled)
    {w : Workspace} {fault : Fault} : (x >>= f).Unsettled w fault ↔ x.Unsettled w fault := by
  rw [unsettled_bind, or_iff_left]
  rintro ⟨a, w', -, h⟩
  exact (hf a).not_unsettled w' fault h

/-- The first step is settled, so only what comes after it counts. -/
theorem unsettled_bind_right {x : Action α} {f : α → Action β} (hx : x.Settled) {w : Workspace}
    {fault : Fault} :
    (x >>= f).Unsettled w fault ↔
      ∃ a w', x.outcome w = (.ok a, w') ∧ (f a).Unsettled w' fault := by
  rw [unsettled_bind, or_iff_right (hx.not_unsettled w fault)]

theorem importClass_unsettled_iff {classPath : String} {w : Workspace} {fault : Fault} :
    (importClass classPath).Unsettled w fault ↔
      ∃ kind r, fault = .signalled kind r ∧ ImportSignals classPath w kind r := by
  unfold importClass ImportSignals
  split
  · rename_i divided
    refine iff_of_false ((settled_throw rfl).not_unsettled w fault) ?_
    rintro ⟨_, _, _, _, _, h, -⟩
    rw [divided] at h
    cases h
  · rename_i moduleName className divided
    rw [unsettled_bind_right settled_get, divided]
    simp only [outcome_get, Prod.mk.injEq, Except.ok.injEq]
    constructor
    · rintro ⟨_, _, ⟨rfl, rfl⟩, h⟩
      obtain ⟨result, w', ran, h⟩ := (unsettled_bind_right (settled_ofExec _)).mp h
      rw [outcome_ofExec] at ran
      cases ran
      split at h
      · exact absurd h ((settled_resolveClass _ _).not_unsettled _ _)
      · rename_i e raised
        obtain ⟨failed, unsettled⟩ := h
        -- What is no import error goes on as it is; it is unsettled if it is a problem of
        -- the program's own.
        cases himport : e.isImport with
        | true =>
            rw [himport] at failed
            cases failed
            cases unsettled
        | false =>
            simp only [himport, Bool.false_eq_true, if_false, outcome_throw,
              Except.error.injEq] at failed
            cases hproblem : e.problem? with
            | none =>
                rw [Fault.ofRaised, hproblem] at failed
                cases failed
                cases unsettled
            | some kind =>
                rw [Fault.ofRaised, hproblem] at failed
                exact ⟨kind, e, failed.symm, _, _, rfl, raised, himport, hproblem⟩
    · rintro ⟨kind, r, rfl, _, _, ⟨rfl, rfl⟩, raised, himport, hproblem⟩
      refine ⟨w, w, ⟨rfl, rfl⟩, (unsettled_bind_right (settled_ofExec _)).mpr
        ⟨_, _, outcome_ofExec _ _, ?_⟩⟩
      rw [raised]
      simp [Unsettled, himport, Fault.ofRaised, hproblem, Fault.isSettled]

theorem targetProvider_unsettled_iff {d : Descriptor} {target : Option Target} {w : Workspace}
    {fault : Fault} :
    (targetProvider d target).Unsettled w fault ↔
      (target = none ∨ target = some (.object (.value .null))) ∧ d.className ≠ "" ∧
        (importClass d.className).Unsettled w fault := by
  have imported : (importedProvider d).Unsettled w fault ↔
      d.className ≠ "" ∧ (importClass d.className).Unsettled w fault := by
    unfold importedProvider
    split
    · rename_i hname
      exact iff_of_false ((settled_throw rfl).not_unsettled w fault) fun h => h.1 hname
    · rename_i hname
      rw [unsettled_bind_left fun _ => settled_pure _, and_iff_right hname]
  unfold targetProvider
  split
  · exact iff_of_false ((settled_pure _).not_unsettled w fault) (by simp)
  · exact iff_of_false ((settled_pure _).not_unsettled w fault) (by simp)
  · simp [imported]
  · simp [imported]
  · rename_i o _ given
    have given : o ≠ .value .null := given
    exact iff_of_false ((settled_answeringProvider d o).not_unsettled w fault) (by simp [given])

/-- The work on a command ends in a fault that is not settled exactly when a module says
so while the class of the command is imported. -/
theorem documentCommand_unsettled_iff {job : Job} {d : Descriptor} {w : Workspace}
    {fault : Fault} :
    (documentCommand job d).Unsettled w fault ↔
      ∃ kind r, fault = .signalled kind r ∧ Signals d w kind r := by
  unfold documentCommand renderCommand
  rw [unsettled_bind_left fun _ => settled_writePage _ _,
    unsettled_bind_left fun _ => .bind (settled_docsFrom _ _) fun _ => settled_pure _]
  unfold loadProvider Signals
  split
  · rename_i path source
    have settled : (do
        let index ← loadFile path d.className
        return .ofClass d (.cls (← resolveClass index d.className)) : Action Provider).Settled :=
      .bind (settled_loadFile _ _) fun _ => .bind (settled_resolveClass _ _) fun _ => settled_pure _
    refine iff_of_false (settled.not_unsettled w fault) ?_
    rintro ⟨_, _, -, h, -⟩
    rw [source] at h
    cases h
  · rename_i source
    rw [unsettled_bind_right (settled_registered _)]
    simp only [targetProvider_unsettled_iff, importClass_unsettled_iff]
    constructor
    · rintro ⟨target, w', known, nothing, named, kind, r, hfault, signals⟩
      exact ⟨kind, r, hfault, source, target, w', known, nothing, named, signals⟩
    · rintro ⟨kind, r, hfault, -, target, w', known, nothing, named, signals⟩
      exact ⟨target, w', known, nothing, named, kind, r, hfault, signals⟩

end Action

end CommandManual
