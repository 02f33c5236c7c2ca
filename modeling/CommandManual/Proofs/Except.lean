import CommandManual.Fault
import Mathlib.Data.List.Forall2

/-!
Computations that may end in a fault: how one after the other comes to its end, and how
one for each member of a list does.
-/

namespace CommandManual

variable {α β : Type}

@[simp] theorem except_ok_bind {ε : Type} (a : α) (f : α → Except ε β) :
    (Except.ok a >>= f) = f a := rfl

theorem eq_ok_of_toOption {ε : Type} {x : Except ε α} {a : α} (h : x.toOption = some a) :
    x = .ok a := by
  cases x with
  | error e => cases h
  | ok b => exact congrArg Except.ok (Option.some.inj h)

def inFault? {ε : Type} (f : ε → Option β) : Except ε α → Option β
  | .error e => f e
  | .ok _ => none

theorem exists_of_inFault? {ε : Type} {f : ε → Option β} {x : Except ε α} {b : β}
    (h : inFault? f x = some b) : ∃ e, x = .error e ∧ f e = some b := by
  cases x with
  | error e => exact ⟨e, rfl, h⟩
  | ok a => cases h

theorem except_map_ok {ε : Type} (a : α) (g : α → β) :
    (Except.ok a : Except ε α).map g = .ok (g a) := rfl

theorem except_map_bind {ε γ : Type} (x : Except ε α) (f : α → Except ε β) (g : β → γ) :
    (x >>= f).map g = x >>= fun a => (f a).map g := by
  cases x <;> rfl

theorem except_bind_map {ε γ : Type} (x : Except ε α) (g : α → β) (f : β → Except ε γ) :
    x.map g >>= f = x >>= fun a => f (g a) := by
  cases x <;> rfl

theorem except_bind_eq_error {ε : Type} {x : Except ε α} {f : α → Except ε β} {e : ε} :
    x >>= f = .error e ↔ x = .error e ∨ ∃ a, x = .ok a ∧ f a = .error e := by
  cases x with
  | error e' =>
      show Except.error e' = Except.error e ↔ _
      simp
  | ok a => simp

theorem except_bind_eq_ok {ε : Type} {x : Except ε α} {f : α → Except ε β} {b : β} :
    x >>= f = .ok b ↔ ∃ a, x = .ok a ∧ f a = .ok b := by
  cases x with
  | error e =>
      show Except.error e = Except.ok b ↔ _
      simp
  | ok a => simp

theorem mapM_eq_ok_iff {ε : Type} {f : α → Except ε β} {xs : List α} {ys : List β} :
    xs.mapM f = .ok ys ↔ List.Forall₂ (fun x y => f x = .ok y) xs ys := by
  induction xs generalizing ys with
  | nil => cases ys <;> simp [pure, Except.pure]
  | cons x rest ih =>
      rw [List.mapM_cons, except_bind_eq_ok]
      simp only [except_bind_eq_ok, ih]
      constructor
      · rintro ⟨y, hy, ys', hrest, h⟩
        cases h
        exact .cons hy hrest
      · intro h
        cases h with
        | cons hy hrest => exact ⟨_, hy, _, hrest, rfl⟩

theorem exists_of_mem_mapM {ε : Type} {f : α → Except ε β} {xs : List α} {ys : List β}
    (h : xs.mapM f = .ok ys) {y : β} (hy : y ∈ ys) : ∃ x ∈ xs, f x = .ok y := by
  have each := mapM_eq_ok_iff.mp h
  clear h
  induction each with
  | nil => cases hy
  | @cons x z xs ys found _ ih =>
      rcases List.mem_cons.mp hy with rfl | hy
      · exact ⟨x, List.mem_cons_self, found⟩
      · obtain ⟨x', hx', found'⟩ := ih hy
        exact ⟨x', List.mem_cons_of_mem x hx', found'⟩

theorem exists_mapM_eq_ok_iff {ε : Type} {f : α → Except ε β} {xs : List α} :
    (∃ ys, xs.mapM f = .ok ys) ↔ ∀ x ∈ xs, ∃ y, f x = .ok y := by
  simp only [mapM_eq_ok_iff]
  induction xs with
  | nil => simp
  | cons x rest ih => simp [List.forall₂_cons_left_iff, ← ih]

/-- The first member that fails is the one that counts. -/
theorem mapM_eq_error_iff {ε : Type} {f : α → Except ε β} {xs : List α} {e : ε} :
    xs.mapM f = .error e ↔ ∃ before x after, xs = before ++ x :: after ∧
      (∀ y ∈ before, ∃ b, f y = .ok b) ∧ f x = .error e := by
  induction xs with
  | nil => simp [pure, Except.pure]
  | cons x rest ih =>
      rw [List.mapM_cons, except_bind_eq_error]
      constructor
      · rintro (failed | ⟨b, hx, h⟩)
        · exact ⟨[], x, rest, rfl, by simp, failed⟩
        · rcases except_bind_eq_error.mp h with h | ⟨bs, -, h⟩
          · obtain ⟨before, y, after, rfl, fine, failed⟩ := ih.mp h
            exact ⟨x :: before, y, after, rfl, by simpa [hx] using fine, failed⟩
          · cases h
      · rintro ⟨before, y, after, split, fine, failed⟩
        cases before with
        | nil =>
            obtain ⟨rfl, rfl⟩ := List.cons.inj split
            exact .inl failed
        | cons z before =>
            obtain ⟨rfl, rfl⟩ := List.cons.inj split
            obtain ⟨⟨b, hx⟩, fine⟩ := List.forall_mem_cons.mp fine
            refine .inr ⟨b, hx, except_bind_eq_error.mpr (.inl ?_)⟩
            exact ih.mpr ⟨before, y, after, rfl, fine, failed⟩

theorem exists_of_mapM_eq_error {ε : Type} {f : α → Except ε β} {xs : List α} {e : ε}
    (h : xs.mapM f = .error e) : ∃ x ∈ xs, f x = .error e := by
  obtain ⟨before, x, after, rfl, -, failed⟩ := mapM_eq_error_iff.mp h
  exact ⟨x, by simp, failed⟩

end CommandManual
