import CommandManual.Proofs.Action

/-!
Faults that end a whole run. A class that is not found and a page that cannot be
written only end the work on one command; every other fault goes past the loop
over the commands. `Escapes` says that a step ends in such a fault, and the rules
below take it through sequences of steps.
-/

namespace CommandManual

namespace Action

variable {α β : Type}

def Escapes (x : Action α) (w : Workspace) : Prop :=
  ∃ fault, (x.outcome w).1 = .error fault ∧ fault.endsOneCommand = false

@[simp] theorem escapes_pure (a : α) (w : Workspace) : ¬ (pure a : Action α).Escapes w := by
  simp [Escapes]

@[simp] theorem escapes_throw (fault : Fault) (w : Workspace) :
    (throw fault : Action α).Escapes w ↔ fault.endsOneCommand = false := by
  simp [Escapes]

@[simp] theorem escapes_ofExcept (x : Except Fault α) (w : Workspace) :
    (ofExcept x).Escapes w ↔ ∃ fault, x = .error fault ∧ fault.endsOneCommand = false := by
  simp [Escapes]

@[simp] theorem escapes_ofTraced (x : Traced α) (w : Workspace) :
    (ofTraced x).Escapes w ↔
      ∃ fault, x.outcome.1 = .error fault ∧ fault.endsOneCommand = false := by
  simp [Escapes]

@[simp] theorem escapes_note (logger : String) (level : Log.Level) (message : String)
    (values : List (String × Value)) (w : Workspace) :
    ¬ (note logger level message values).Escapes w := by
  simp [Escapes]

theorem escapes_bind {x : Action α} {f : α → Action β} {w : Workspace} :
    (x >>= f).Escapes w ↔
      x.Escapes w ∨ ∃ a w', x.outcome w = (.ok a, w') ∧ (f a).Escapes w' := by
  unfold Escapes
  rw [outcome_bind]
  rcases hx : x.outcome w with ⟨fault | a, w'⟩
  · simp
  · constructor
    · exact fun h => .inr ⟨a, w', rfl, h⟩
    · rintro (⟨_, ⟨⟩, _⟩ | ⟨_, _, ⟨⟩, h⟩)
      exact h

@[simp] theorem escapes_map (f : α → β) (x : Action α) (w : Workspace) :
    (f <$> x).Escapes w ↔ x.Escapes w := by
  unfold Escapes
  rw [outcome_map]
  rcases x.outcome w with ⟨_ | a, w'⟩ <;> simp [Except.map]

/-- After a step that gives something, only what comes next can escape. -/
theorem escapes_bind_of_ok {x : Action α} {f : α → Action β} {w w' : Workspace} {a : α}
    (h : x.outcome w = (.ok a, w')) : (x >>= f).Escapes w ↔ (f a).Escapes w' := by
  unfold Escapes
  rw [outcome_bind, h]

@[simp] theorem escapes_get_bind (f : Workspace → Action β) (w : Workspace) :
    (get >>= f).Escapes w ↔ (f w).Escapes w :=
  escapes_bind_of_ok (outcome_get w)

end Action

end CommandManual
