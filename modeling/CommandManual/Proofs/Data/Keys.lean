import CommandManual.Data.Value
import Mathlib.Data.List.Basic

/-!
Lists of pairs that stand for tables: what is found under a key after the pairs of a
key were dropped, and the keys after one was set.
-/

namespace CommandManual

variable {κ α : Type} [BEq κ]

theorem mem_of_lookup [LawfulBEq κ] {key : κ} {value : α} {fields : List (κ × α)}
    (h : fields.lookup key = some value) : (key, value) ∈ fields := by
  obtain ⟨before, after, rfl, -⟩ := List.lookup_eq_some_iff.mp h
  exact List.mem_append_right _ List.mem_cons_self

/-- When pairs are dropped by their keys, the keys that are kept stand for what they did. -/
theorem lookup_filter_keys [LawfulBEq κ] (keep : κ → Bool) (fields : List (κ × α)) (key : κ) :
    (fields.filter fun f => keep f.1).lookup key =
      if keep key then fields.lookup key else none := by
  induction fields with
  | nil => simp
  | cons f rest ih =>
      obtain ⟨other, value⟩ := f
      rw [List.filter_cons, List.lookup_cons]
      cases found : key == other with
      | true =>
          obtain rfl := eq_of_beq found
          cases kept : keep key with
          | true => simp
          | false => simpa [kept] using ih
      | false =>
          cases keep other with
          | true => simpa [List.lookup_cons, found] using ih
          | false => simpa using ih

theorem mem_keys_of_mem_assign {key other : κ} {value : α} {fields : List (κ × α)}
    (h : other ∈ (assign key value fields).map Prod.fst) :
    other = key ∨ other ∈ fields.map Prod.fst := by
  induction fields with
  | nil => exact .inl (List.mem_singleton.mp h)
  | cons f rest ih =>
      rw [assign] at h
      split at h
      · exact .inr h
      · rcases List.mem_cons.mp h with rfl | later
        · exact .inr List.mem_cons_self
        · exact (ih later).imp_right (List.mem_cons_of_mem _)

/-- Setting a key keeps the keys distinct. -/
theorem nodup_keys_assign [LawfulBEq κ] (key : κ) (value : α) {fields : List (κ × α)}
    (h : (fields.map Prod.fst).Nodup) : ((assign key value fields).map Prod.fst).Nodup := by
  induction fields with
  | nil => exact List.nodup_cons.mpr ⟨List.not_mem_nil, List.nodup_nil⟩
  | cons f rest ih =>
      obtain ⟨new, distinct⟩ := List.nodup_cons.mp h
      rw [assign]
      split
      · exact h
      · rename_i different
        refine List.nodup_cons.mpr ⟨fun hmem => ?_, ih distinct⟩
        rcases mem_keys_of_mem_assign hmem with rfl | old
        · exact different (BEq.refl _)
        · exact new old

/-- Setting a key keeps the keys as they are, but for a new one at the end. -/
theorem keys_assign [LawfulBEq κ] (key : κ) (value : α) (fields : List (κ × α)) :
    (assign key value fields).map Prod.fst =
      if key ∈ fields.map Prod.fst then fields.map Prod.fst else fields.map Prod.fst ++ [key] := by
  induction fields with
  | nil => rfl
  | cons f rest ih =>
      obtain ⟨other, old⟩ := f
      by_cases h : key = other
      · simp [assign, h]
      · by_cases later : key ∈ rest.map Prod.fst
        · rw [if_pos later] at ih
          simp [assign, h, ih, List.mem_map.mp later]
        · rw [if_neg later] at ih
          rw [if_neg (by simpa [h] using later)]
          simp [assign, h, ih]

/-- A table is made of its keys and what stands under them. -/
theorem filterMap_keys_eq [LawfulBEq κ] {fields : List (κ × α)}
    (distinct : (fields.map Prod.fst).Nodup) :
    ((fields.map Prod.fst).filterMap fun key =>
      (fields.lookup key).map fun value => (key, value)) = fields := by
  induction fields with
  | nil => rfl
  | cons f rest ih =>
      obtain ⟨key, value⟩ := f
      obtain ⟨new, others⟩ := List.nodup_cons.mp distinct
      have same : ∀ other ∈ rest.map Prod.fst, other ≠ key := by
        rintro other hmem rfl
        exact new hmem
      rw [List.map_cons, List.filterMap_cons_some (b := (key, value)) (by simp)]
      congr 1
      refine (List.filterMap_congr fun other hmem => ?_).trans (ih others)
      rw [List.lookup_cons, beq_false_of_ne (same other hmem)]

end CommandManual
