import CommandManual.Data.Value

/-!
Values that count as equal. Numbers agree by what they amount to, whatever their
kind, and everything else only with its own kind. So of two values that agree both
count as given or neither does. What counts as given has a text that is not empty.
-/

namespace CommandManual

theorem Binary64.ratio_fst_eq_zero_iff (m : Nat) (e : Int) : (ratio m e).1 = 0 ↔ m = 0 := by
  have hpos : twoTo e.toNat ≠ 0 := Nat.ne_of_gt (Nat.pow_pos Nat.two_pos)
  unfold ratio scale
  split
  · exact Nat.mul_eq_zero.trans (or_iff_left hpos)
  · rfl

theorem Binary64.Decimal.layout_ne_empty (x : Decimal) : x.layout ≠ "" := by
  rw [layout]
  split
  · split
    · simp
    · split <;> simp
  · rw [exponentText]
    split <;> simp

theorem Binary64.toText_ne_empty (x : Binary64) : x.toText ≠ "" := by
  cases x with
  | nan => simp [toText]
  | infinite negative => cases negative <;> simp [toText]
  | finite negative m e =>
      have digits : (if m = 0 then "0.0" else (shortest m e).layout) ≠ "" := by
        split
        · simp
        · exact Decimal.layout_ne_empty _
      simp [toText, digits]

namespace Value

/-- A number counts as given unless it is zero. -/
theorem isTruthy_of_ratio? {v : Value} {n : Int} {d : Nat} (h : v.ratio? = some (n, d)) :
    v.isTruthy = decide (n ≠ 0) := by
  unfold ratio? at h
  split at h
  · cases h
    simp [isTruthy, bne, Bool.beq_eq_decide_eq]
  · rename_i b
    cases h
    cases b <;> rfl
  · rename_i negative m e
    have hzero := Binary64.ratio_fst_eq_zero_iff m e
    rw [isTruthy, Binary64.isZero]
    generalize Binary64.ratio m e = fraction at h hzero
    cases h
    cases negative <;> simp [← hzero, Bool.beq_eq_decide_eq]
  · rename_i negative
    cases h
    cases negative <;> rfl
  · cases h

theorem isTruthy_of_sameNumber {x y : Value} (h : x.sameNumber y = true) :
    x.isTruthy = y.isTruthy := by
  unfold sameNumber at h
  rcases hx : x.ratio? with _ | ⟨n, d⟩
  · rw [hx] at h
    cases h
  rcases hy : y.ratio? with _ | ⟨m, e⟩
  · rw [hx, hy] at h
    cases d <;> cases h
  rw [isTruthy_of_ratio? hx, isTruthy_of_ratio? hy]
  rw [hx, hy] at h
  cases d with
  | zero =>
      cases e with
      | zero => rw [eq_of_beq h]
      | succ e => cases h
  | succ d =>
      cases e with
      | zero => cases h
      | succ e =>
          have heq : n * (e + 1 : Nat) = m * (d + 1 : Nat) := eq_of_beq h
          have hzero : n = 0 ↔ m = 0 := by
            constructor
            · rintro rfl
              rw [Int.zero_mul] at heq
              exact (Int.mul_eq_zero.mp heq.symm).resolve_right (by omega)
            · rintro rfl
              rw [Int.zero_mul] at heq
              exact (Int.mul_eq_zero.mp heq).resolve_right (by omega)
          simp [hzero]

theorem isTruthy_of_agrees {x y : Value} (h : x.agrees y = true) : x.isTruthy = y.isTruthy := by
  unfold agrees at h
  split at h
  · rfl
  · rw [eq_of_beq h]
  · rfl
  · rfl
  · rfl
  · rename_i items others
    -- Lists that agree have the same length.
    cases items with
    | nil =>
        cases others with
        | nil => rfl
        | cons => cases h
    | cons =>
        cases others with
        | nil => cases h
        | cons => rfl
  · rename_i fields others
    have hlength : fields.length = others.length := by
      rw [Bool.and_eq_true] at h
      exact eq_of_beq h.1
    have hempty : fields = [] ↔ others = [] := by
      rw [← List.length_eq_zero_iff, hlength, List.length_eq_zero_iff]
    rw [isTruthy, isTruthy, Bool.eq_iff_iff]
    simp [hempty]
  · exact isTruthy_of_sameNumber h

theorem agrees_eq_sameNumber {x : Value} {r : Int × Nat} (hx : x.ratio? = some r) (y : Value) :
    x.agrees y = x.sameNumber y := by
  cases x with
  | bool b => rw [agrees] <;> simp
  | int n => rw [agrees] <;> simp
  | float z => rw [agrees] <;> simp
  | _ => cases hx

/-- A text only agrees with itself. -/
theorem eq_or_not_text_of_agrees {x y : Value} (h : x.agrees y = true) :
    x = y ∨ (∀ s, x ≠ .str s) ∧ ∀ s, y ≠ .str s := by
  unfold agrees at h
  split at h
  · exact .inl rfl
  · exact .inl (congrArg Value.str (eq_of_beq h))
  · exact .inr (by simp)
  · exact .inr (by simp)
  · exact .inr (by simp)
  · exact .inr (by simp)
  · exact .inr (by simp)
  · refine .inr ⟨?_, ?_⟩
    · rintro s rfl
      cases h
    · rintro s rfl
      unfold sameNumber at h
      split at h <;> simp_all [ratio?]

/-! ### Texts of values -/

theorem unshownBound_pos : 0 < unshownBound := by decide +kernel

/-- A value that is too long to be shown counts as given. -/
theorem isTruthy_of_hasLongInteger {v : Value} (long : v.hasLongInteger = true) :
    v.isTruthy = true := by
  cases v with
  | int n =>
      have bound : unshownBound ≤ n.natAbs := by simpa [hasLongInteger] using long
      have nonzero : n ≠ 0 := by
        have := unshownBound_pos
        omega
      simpa [isTruthy] using nonzero
  | list items =>
      cases items with
      | nil => simp [hasLongInteger, anyLongInteger] at long
      | cons => rfl
  | table fields =>
      cases fields with
      | nil => simp [hasLongInteger, anyLongField] at long
      | cons => rfl
  | _ => simp [hasLongInteger] at long

/-- What counts as given has a text. -/
theorem display_ne_empty {v : Value} (given : v.isTruthy = true) : v.display ≠ "" := by
  cases v with
  | null => cases given
  | bool b => cases b <;> simp [display, quoted]
  | int n => cases n <;> simp [display, quoted, toString, Int.repr]
  | float x => simpa [display, quoted] using x.toText_ne_empty
  | str s => exact bne_iff_ne.mp given
  | date d => simp [display, Date.iso]
  | time t => simp [display, TimeOfDay.iso]
  | timestamp t => simp [display, Timestamp.iso]
  | list items => simp [display, quoted]
  | table fields => simp [display, quoted]

end Value

end CommandManual
