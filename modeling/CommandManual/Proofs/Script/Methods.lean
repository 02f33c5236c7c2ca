import CommandManual.Proofs.Script.Hierarchy

/-!
The methods that are documented, and those that attribute lookup finds. Public
methods are collected along the lookup order, and only the name of a method that
was collected keeps later ones out. So a name is collected with the first method
that a class in the lookup order holds under it, while attribute lookup stops at
the first class that holds anything under it.
-/

namespace CommandManual.Script

/-! ### Collecting methods -/

theorem mem_collectMethods_iff {seen : List String} {members : List (String × Object)}
    {name : String} {f : Function} :
    (name, f) ∈ collectMethods seen members ↔
      isPublic name = true ∧ name ∉ seen ∧ methodAmong name members = some f := by
  induction members generalizing seen with
  | nil => simp [collectMethods, methodAmong]
  | cons m rest ih =>
      obtain ⟨key, o⟩ := m
      rw [methodAmong_cons, collectMethods]
      dsimp only
      split
      · -- The name is private or was seen before, and so is not collected.
        rename_i skipped
        rw [ih]
        by_cases hkey : key = name
        · subst hkey
          constructor
          all_goals
            rintro ⟨hpublic, hnew, -⟩
            simp [hpublic, hnew] at skipped
        · rw [if_neg hkey, Option.none_or]
      · rename_i taken
        simp only [Bool.or_eq_true, Bool.not_eq_true', List.contains_eq_mem,
          decide_eq_true_eq, not_or, Bool.not_eq_false] at taken
        split
        · -- A method is collected, and its name keeps later ones out.
          rename_i g hmethod
          rw [List.mem_cons, ih, Prod.mk.injEq]
          by_cases hkey : key = name
          · subst hkey
            simp [hmethod, taken, eq_comm]
          · simp [hkey, Ne.symm hkey]
        · -- What is no method is passed over, and its name is not seen.
          rename_i hmethod
          rw [ih, hmethod, ite_self, Option.none_or]

/-- The public methods of a class are those that come first under their names
among the methods in its lookup order. -/
theorem Class.Built.mem_publicMethods_iff {c : Class} (built : c.Built) {name : String}
    {f : Function} :
    (name, f) ∈ c.publicMethods ↔
      isPublic name = true ∧ c.lineage.findSome? (fun k => k.method? name) = some f := by
  have listed : methodAmong name (c.lineage.flatMap Class.own) =
      c.lineage.findSome? (fun k => k.method? name) := by
    have lists := built.listsMethods
    generalize c.lineage = lineage at lists
    induction lineage with
    | nil => rfl
    | cons k rest ih =>
        rw [List.flatMap_cons, methodAmong_append, lists k List.mem_cons_self name,
          ih fun j hj => lists j (List.mem_cons_of_mem k hj), List.findSome?_cons]
        cases k.method? name <;> rfl
  rw [Class.publicMethods, mem_collectMethods_iff, listed]
  simp

/-! ### Attribute lookup -/

/-- What attribute lookup finds under a name is no method, though a class in the
lookup order holds a method under it. -/
def Class.Masks (c : Class) (name : String) : Prop :=
  (∃ o, c.attribute? name = some o ∧ o.asMethod? = none) ∧
    ∃ k ∈ c.lineage, (k.method? name).isSome = true

/-- The first method along a lookup order is what is found first, if that is a method. -/
theorem findSome?_method?_of_findSome?_member? {lineage : List Class} {name : String}
    {o : Object} {f : Function}
    (h : lineage.findSome? (fun k => k.member? name) = some o) (hf : o.asMethod? = some f) :
    lineage.findSome? (fun k => k.method? name) = some f := by
  induction lineage with
  | nil => cases h
  | cons k rest ih =>
      rw [List.findSome?_cons] at h ⊢
      rcases hmember : k.member? name with _ | o'
      · rw [hmember] at h
        rw [Class.method?, hmember]
        exact ih h
      · rw [hmember] at h
        cases h
        rw [Class.method?, hmember, Option.bind_some, hf]

/-- The methods that are documented are those that attribute lookup finds,
exactly when no public name is masked. -/
theorem publicMethods_effective_iff {c : Class} (built : c.Built) :
    (∀ name f, (name, f) ∈ c.publicMethods →
        ∃ o, c.attribute? name = some o ∧ o.asMethod? = some f) ↔
      ∀ name, isPublic name = true → ¬ c.Masks name := by
  constructor
  · rintro effective name hpublic ⟨⟨o, hfound, hother⟩, k, hk, hmethod⟩
    -- Some method is held under the name, and the first of them is collected.
    have hsome : (c.lineage.findSome? fun k => k.method? name).isSome = true :=
      List.findSome?_isSome_iff.mpr ⟨k, hk, hmethod⟩
    obtain ⟨f, hf⟩ := Option.isSome_iff_exists.mp hsome
    obtain ⟨o', hfound', hmethod'⟩ :=
      effective name f (built.mem_publicMethods_iff.mpr ⟨hpublic, hf⟩)
    cases hfound.symm.trans hfound'
    cases hother.symm.trans hmethod'
  · intro unmasked name f hmem
    obtain ⟨hpublic, hf⟩ := built.mem_publicMethods_iff.mp hmem
    obtain ⟨k, hk, hmethod⟩ := List.exists_of_findSome?_eq_some hf
    have hsome : (c.attribute? name).isSome = true := by
      refine List.findSome?_isSome_iff.mpr ⟨k, hk, ?_⟩
      obtain ⟨o, hmember, -⟩ := Option.bind_eq_some_iff.mp hmethod
      rw [hmember]
      rfl
    obtain ⟨o, hfound⟩ := Option.isSome_iff_exists.mp hsome
    refine ⟨o, hfound, ?_⟩
    rcases hother : o.asMethod? with _ | g
    · exact absurd ⟨⟨o, hfound, hother⟩, k, hk, by rw [hmethod]; rfl⟩ (unmasked name hpublic)
    · rw [← hf, findSome?_method?_of_findSome?_member? hfound hother]

def derivedFrom (body own : List (String × Object)) : Except Raised Class := do
  let base ← newClass firstFreeId "Base" [] body
  newClass (firstFreeId + 1) "Derived" [base] own

/-- A method that is overridden by a method masks nothing. -/
theorem override_masks_nothing :
    ∃ c, derivedFrom [("run", .function { doc := .text "Base.".toList })]
        [("run", .classMethod { doc := .text "Derived.".toList })] = .ok c ∧
      ∀ name, isPublic name = true → ¬ c.Masks name := by
  have effective : (derivedFrom [("run", .function { doc := .text "Base.".toList })]
      [("run", .classMethod { doc := .text "Derived.".toList })]).toOption.map
        (fun c => (c.publicMethods, (c.attribute? "run").bind Object.asMethod?)) =
      some ([("run", { doc := .text "Derived.".toList })],
        some { doc := .text "Derived.".toList }) := by
    decide +kernel
  rcases hmade : derivedFrom [("run", .function { doc := .text "Base.".toList })]
      [("run", .classMethod { doc := .text "Derived.".toList })] with e | c
  · rw [hmade] at effective
    cases effective
  · rw [hmade] at effective
    obtain ⟨hmethods, hfound⟩ := Prod.mk.inj (Option.some.inj effective)
    obtain ⟨base, hbase, hderived⟩ := except_bind_eq_ok.mp hmade
    have hbuilt : c.Built := by
      refine .derived (Nat.le_succ _) ?_ (by decide) hderived
      intro k hk
      rw [List.mem_singleton.mp hk]
      refine .derived (Nat.le_refl _) ?_ (by decide) hbase
      intro k hk
      cases hk
    refine ⟨c, rfl, (publicMethods_effective_iff hbuilt).mp fun name f hmem => ?_⟩
    rw [hmethods] at hmem
    cases List.mem_singleton.mp hmem
    exact Option.bind_eq_some_iff.mp hfound

/-- A method that is overridden by a property is documented all the same. -/
theorem masked_method_is_documented :
    (derivedFrom [("run", .function { doc := .text "Base.".toList })]
      [("run", .property { doc := .text "Derived.".toList })]).toOption.map
        (fun c => (c.publicMethods, (c.attribute? "run").bind Object.asMethod?)) =
      some ([("run", { doc := .text "Base.".toList })], none) := by
  decide +kernel

end CommandManual.Script
