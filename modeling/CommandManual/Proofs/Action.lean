import CommandManual.Workspace

/-!
Running steps. A step is known by its outcome, so every way of putting steps
together gets one equation for the outcome, and a sequence of two steps gets two
more that take apart how it came to its end. The kinds of steps only differ in the
state that they change and in what ends them, so a sequence is dealt with once.
-/

namespace CommandManual

variable {α β : Type}

@[simp] theorem mapError_ok {ε ε' : Type} (f : ε → ε') (a : α) :
    (Except.ok a).mapError f = .ok a := rfl

@[simp] theorem mapError_error {ε ε' : Type} (f : ε → ε') (e : ε) :
    (Except.error e : Except ε α).mapError f = .error (f e) := rfl

section Sequence

variable {ε σ : Type} {x : ExceptT ε (StateM σ) α} {f : α → ExceptT ε (StateM σ) β} {s s'' : σ}

def runStep (x : ExceptT ε (StateM σ) α) (s : σ) : Except ε α × σ := StateT.run (ExceptT.run x) s

theorem runStep_bind_of_ok {a : α} {s' : σ} (h : runStep x s = (.ok a, s')) :
    runStep (x >>= f) s = runStep (f a) s' := by
  simp only [runStep, ExceptT.run_bind, StateT.run_bind] at h ⊢
  rw [h]
  rfl

theorem runStep_bind_of_error {e : ε} {s' : σ} (h : runStep x s = (.error e, s')) :
    runStep (x >>= f) s = (.error e, s') := by
  simp only [runStep, ExceptT.run_bind, StateT.run_bind] at h ⊢
  rw [h]
  rfl

theorem runStep_bind_eq_ok {b : β} :
    runStep (x >>= f) s = (.ok b, s'') ↔
      ∃ a s', runStep x s = (.ok a, s') ∧ runStep (f a) s' = (.ok b, s'') := by
  rcases hx : runStep x s with ⟨_ | a, s'⟩
  · simp [runStep_bind_of_error hx]
  · rw [runStep_bind_of_ok hx]
    exact ⟨fun h => ⟨a, s', rfl, h⟩, by rintro ⟨_, _, ⟨⟩, h⟩; exact h⟩

theorem runStep_bind_eq_error {e : ε} :
    runStep (x >>= f) s = (.error e, s'') ↔
      runStep x s = (.error e, s'') ∨
        ∃ a s', runStep x s = (.ok a, s') ∧ runStep (f a) s' = (.error e, s'') := by
  rcases hx : runStep x s with ⟨_ | a, s'⟩
  · simp [runStep_bind_of_error hx]
  · rw [runStep_bind_of_ok hx]
    constructor
    · exact fun h => .inr ⟨a, s', rfl, h⟩
    · rintro (h | ⟨_, _, ⟨⟩, h⟩)
      · cases h
      · exact h

end Sequence

namespace Traced

@[simp] theorem outcome_pure (a : α) : (pure a : Traced α).outcome = (.ok a, []) := rfl

@[simp] theorem outcome_ofExcept (x : Except Fault α) : (ofExcept x).outcome = (x, []) := rfl

@[simp] theorem outcome_note (logger : String) (level : Log.Level) (message : String)
    (values : List (String × Value)) :
    (note logger level message values).outcome =
      (.ok (), [.named logger level message values]) := rfl

@[simp] theorem run_pure (a : α) (records : List Log.Record) :
    StateT.run (ExceptT.run (pure a : Traced α)) records = (.ok a, records) := rfl

@[simp] theorem run_ofExcept (x : Except Fault α) (records : List Log.Record) :
    StateT.run (ExceptT.run (ofExcept x)) records = (x, records) := rfl

@[simp] theorem run_note (logger : String) (level : Log.Level) (message : String)
    (values : List (String × Value)) (records : List Log.Record) :
    StateT.run (ExceptT.run (note logger level message values)) records =
      (.ok (), records ++ [.named logger level message values]) := rfl

theorem run_bind (x : Traced α) (f : α → Traced β) (records : List Log.Record) :
    StateT.run (ExceptT.run (x >>= f)) records =
      match StateT.run (ExceptT.run x) records with
      | (.ok a, records') => StateT.run (ExceptT.run (f a)) records'
      | (.error e, records') => (.error e, records') := by
  rcases hx : StateT.run (ExceptT.run x) records with ⟨e | a, records'⟩
  · exact runStep_bind_of_error hx
  · exact runStep_bind_of_ok hx

end Traced

namespace Action

@[simp] theorem outcome_pure (a : α) (w : Workspace) :
    (pure a : Action α).outcome w = (.ok a, w) := rfl

@[simp] theorem outcome_throw (f : Fault) (w : Workspace) :
    (throw f : Action α).outcome w = (.error f, w) := rfl

@[simp] theorem outcome_get (w : Workspace) :
    (get : Action Workspace).outcome w = (.ok w, w) := rfl

@[simp] theorem outcome_set (w w' : Workspace) :
    (set w' : Action PUnit).outcome w = (.ok ⟨⟩, w') := rfl

@[simp] theorem outcome_modify (f : Workspace → Workspace) (w : Workspace) :
    (modify f : Action PUnit).outcome w = (.ok ⟨⟩, f w) := rfl

@[simp] theorem outcome_ofExcept (x : Except Fault α) (w : Workspace) :
    (ofExcept x).outcome w = (x, w) := rfl

@[simp] theorem outcome_ofTraced (x : Traced α) (w : Workspace) :
    (ofTraced x).outcome w = (x.outcome.1, x.outcome.2.foldl Workspace.deliver w) := rfl

@[simp] theorem outcome_attempt (x : Action α) (w : Workspace) :
    (attempt x).outcome w = (.ok (x.outcome w).1, (x.outcome w).2) := rfl

@[simp] theorem outcome_note (logger : String) (level : Log.Level) (message : String)
    (values : List (String × Value)) (w : Workspace) :
    (note logger level message values).outcome w =
      (.ok (), w.deliver (.named logger level message values)) := rfl

/-- What a step of a command file leaves behind is kept, whatever came of it. -/
@[simp] theorem outcome_ofExec (x : Script.Exec α) (w : Workspace) :
    (ofExec x).outcome w =
      (.ok (StateT.run (ExceptT.run x) w.memory).1,
        { w with memory := (StateT.run (ExceptT.run x) w.memory).2 }) := rfl

/-! ### One step after the other -/

theorem outcome_bind (x : Action α) (f : α → Action β) (w : Workspace) :
    (x >>= f).outcome w =
      match x.outcome w with
      | (.ok a, w') => (f a).outcome w'
      | (.error e, w') => (.error e, w') := by
  rcases hx : x.outcome w with ⟨e | a, w'⟩
  · exact runStep_bind_of_error hx
  · exact runStep_bind_of_ok hx

@[simp] theorem outcome_map (f : α → β) (x : Action α) (w : Workspace) :
    (f <$> x).outcome w = ((x.outcome w).1.map f, (x.outcome w).2) := by
  rw [map_eq_pure_bind, outcome_bind]
  rcases x.outcome w with ⟨_ | a, w'⟩ <;> rfl

theorem outcome_bind_eq_ok {x : Action α} {f : α → Action β} {w w'' : Workspace} {b : β} :
    (x >>= f).outcome w = (.ok b, w'') ↔
      ∃ a w', x.outcome w = (.ok a, w') ∧ (f a).outcome w' = (.ok b, w'') :=
  runStep_bind_eq_ok

theorem outcome_bind_eq_error {x : Action α} {f : α → Action β} {w w'' : Workspace}
    {e : Fault} :
    (x >>= f).outcome w = (.error e, w'') ↔
      x.outcome w = (.error e, w'') ∨
        ∃ a w', x.outcome w = (.ok a, w') ∧ (f a).outcome w' = (.error e, w'') :=
  runStep_bind_eq_error

end Action

end CommandManual
