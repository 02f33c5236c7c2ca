import CommandManual.Data.Json.Reader
import CommandManual.Proofs.Data.Keys
import CommandManual.Proofs.Except
import Mathlib.Data.List.Induction

/-!
What a document says about its tables. A document as it is written may give a key
more than once; the value that is read from it has the key once, at the place where
it is first written and with the value that is written last.
-/

namespace CommandManual.Json

/-! ### Keys that are written more than once -/

def lastUnder (key : String) (fields : List (String × Value)) : Option Value :=
  fields.reverse.lookup key

def once (fields : List (String × Value)) : List (String × Value) :=
  (fields.map Prod.fst).eraseDups.filterMap fun key =>
    (lastUnder key fields).map fun value => (key, value)

theorem mergeFields_concat (fields : List (String × Value)) (key : String) (value : Value) :
    mergeFields (fields ++ [(key, value)]) = assign key value (mergeFields fields) := by
  simp [mergeFields]

theorem keys_mergeFields (fields : List (String × Value)) :
    (mergeFields fields).map Prod.fst = (fields.map Prod.fst).eraseDups := by
  -- Pairs are set from the first to the last, so the induction takes the last one off.
  induction fields using List.reverseRecOn with
  | nil => rfl
  | append_singleton fields f ih =>
      obtain ⟨key, value⟩ := f
      rw [mergeFields_concat, keys_assign, ih, List.map_append, List.eraseDups_append]
      by_cases h : key ∈ fields.map Prod.fst
      · rw [if_pos (List.mem_eraseDups.mpr h)]
        simp [List.removeAll, List.mem_map.mp h]
      · rw [if_neg fun hmem => h (List.mem_eraseDups.mp hmem)]
        have new : ¬ ∃ value, (key, value) ∈ fields := by simpa using h
        simp [List.removeAll, new, List.eraseDups_cons]

theorem lookup_mergeFields (fields : List (String × Value)) (key : String) :
    (mergeFields fields).lookup key = lastUnder key fields := by
  induction fields using List.reverseRecOn with
  | nil => rfl
  | append_singleton fields f ih =>
      obtain ⟨other, value⟩ := f
      rw [mergeFields_concat, lastUnder, List.reverse_concat, List.lookup_cons]
      by_cases h : key = other
      · simp [h]
      · rw [lookup_assign_of_ne h, ih, beq_false_of_ne h]
        rfl

theorem nodup_keys_mergeFields (fields : List (String × Value)) :
    ((mergeFields fields).map Prod.fst).Nodup := by
  induction fields using List.reverseRecOn with
  | nil => exact List.nodup_nil
  | append_singleton fields f ih =>
      obtain ⟨key, value⟩ := f
      rw [mergeFields_concat]
      exact nodup_keys_assign key value ih

theorem mergeFields_eq_once (fields : List (String × Value)) :
    mergeFields fields = once fields := by
  rw [← filterMap_keys_eq (nodup_keys_mergeFields fields), keys_mergeFields]
  simp only [lookup_mergeFields, once]

/-! ### Documents as they are written -/

/-- A value as it is written, with at most `depth` arrays and objects around each
other: an object has its keys as often as they stand there. -/
def written : (depth : Nat) → Reader Value
  | 0, cur => value 0 cur
  | depth + 1, cur =>
    match cur.rest with
    | '\x7b' :: _ => do
      let (fields, cur) ← collection '\x7d' (field (written depth)) cur
      .ok (.table fields, cur)
    | '[' :: _ => do
      let (items, cur) ← collection ']' (written depth) cur
      .ok (.list items, cur)
    | _ => value.scalar cur

def parseWritten (depth : Nat) (doc : Text) : Except Error Value :=
  if doc.head? == some (Char.ofNat 0xfeff) then fail .byteOrderMark 0
  else do
    let (v, cur) ← written depth (Cursor.mk doc 0).skipSpace
    let cur := cur.skipSpace
    if cur.rest.isEmpty then .ok v else fail .extraData cur.position

mutual

def decoded : Value → Value
  | .list items => .list (decodedItems items)
  | .table fields => .table (once (decodedFields fields))
  | v => v

def decodedItems : List Value → List Value
  | [] => []
  | v :: vs => decoded v :: decodedItems vs

def decodedFields : List (String × Value) → List (String × Value)
  | [] => []
  | (key, v) :: fs => (key, decoded v) :: decodedFields fs

end

theorem decodedItems_eq_map (items : List Value) : decodedItems items = items.map decoded := by
  induction items with
  | nil => rfl
  | cons v vs ih => rw [decodedItems, ih, List.map_cons]

theorem decodedFields_eq_map (fields : List (String × Value)) :
    decodedFields fields = fields.map (Prod.map id decoded) := by
  induction fields with
  | nil => rfl
  | cons f fs ih =>
      obtain ⟨key, v⟩ := f
      rw [decodedFields, ih, List.map_cons, Prod.map_apply, id]

/-! ### The reader and the document -/

section readers

variable {α β : Type}

def Reader.changed (f : α → β) (reader : Reader α) : Reader β :=
  fun cur => (reader cur).map (Prod.map f id)

theorem Reader.changed_apply (f : α → β) (reader : Reader α) (cur : Cursor) :
    reader.changed f cur = (reader cur).map (Prod.map f id) := rfl

theorem members_changed (close : Char) (f : α → β) (member : Reader α) (fuel : Nat)
    (cur : Cursor) :
    members close (member.changed f) fuel cur =
      (members close member fuel cur).map (Prod.map (List.map f) id) := by
  induction fuel generalizing cur with
  | zero => rfl
  | succ fuel ih =>
      simp only [members, Reader.changed_apply, except_bind_map, except_map_bind]
      congr 1
      funext ⟨x, after⟩
      cases hrest : after.skipSpace.rest with
      | nil => simp only [Prod.map_apply, id, hrest]; rfl
      | cons c r =>
          simp only [Prod.map_apply, id, hrest, ih, except_bind_map]
          split
          · rfl
          · split
            · rw [except_map_bind]
              rfl
            · rfl

theorem collection_changed (close : Char) (f : α → β) (member : Reader α) (cur : Cursor) :
    collection close (member.changed f) cur =
      (collection close member cur).map (Prod.map (List.map f) id) := by
  unfold collection
  dsimp only
  rw [members_changed]
  split <;> rfl

theorem field_changed (f : Value → Value) (reader : Reader Value) :
    field (reader.changed f) = (field reader).changed (Prod.map id f) := by
  funext cur
  simp only [field, Reader.changed_apply]
  split
  · rw [except_map_bind]
    congr 1
    funext ⟨key, after⟩
    dsimp only
    split
    · rw [except_bind_map, except_map_bind]
      rfl
    · rfl
  · rfl

end readers

theorem decoded_number {cur after : Cursor} {v : Value} (h : number cur = .ok (v, after)) :
    decoded v = v := by
  unfold number at h
  dsimp only at h
  generalize (if (cur.rest.head? == some '-') = true then cur.drop 1 else cur) = unsigned at h
  split at h
  · cases h
  · split at h
    · split at h
      · cases h
      · cases h
        rfl
    · cases h
      rfl

theorem decoded_constant {cur after : Cursor} {v : Value}
    (h : constant? cur = some (v, after)) : decoded v = v := by
  obtain ⟨⟨word, constant⟩, hmem, found⟩ := List.exists_of_findSome?_eq_some h
  have plain : ∀ c ∈ constants, decoded c.2 = c.2 := by
    simp [constants, decoded]
  dsimp only at found
  split at found
  · cases found
    exact plain _ hmem
  · cases found

/-- What is neither an array nor an object is read as it is written. -/
theorem decoded_scalar {cur after : Cursor} {v : Value} (h : value.scalar cur = .ok (v, after)) :
    decoded v = v := by
  unfold value.scalar at h
  split at h
  · cases h
  · obtain ⟨⟨s, after'⟩, -, h⟩ := except_bind_eq_ok.mp h
    cases h
    rfl
  · split at h
    · rename_i found
      cases h
      exact decoded_constant found
    · exact decoded_number h

theorem scalar_changed : Reader.changed decoded value.scalar = value.scalar := by
  funext cur
  rw [Reader.changed_apply]
  rcases h : value.scalar cur with e | ⟨v, after⟩
  · rfl
  · rw [except_map_ok, Prod.map_apply, decoded_scalar h]
    rfl

/-- The reader merges the fields of an object as soon as it has read them, which is the same
as reading all as it is written and merging afterwards. -/
theorem value_eq_changed (depth : Nat) : value depth = (written depth).changed decoded := by
  induction depth with
  | zero =>
      funext cur
      rw [Reader.changed_apply, written, value]
      split
      · rfl
      · rfl
      · exact (congrFun scalar_changed cur).symm
  | succ depth ih =>
      funext cur
      rw [Reader.changed_apply, value, ih, field_changed, collection_changed,
        collection_changed]
      split
      · rename_i opening
        rw [written]
        simp only [opening, except_bind_map, except_map_bind, except_map_ok, Prod.map, id,
          decoded, decodedFields_eq_map, mergeFields_eq_once]
      · rename_i opening
        rw [written]
        simp only [opening, except_bind_map, except_map_bind, except_map_ok, Prod.map, id,
          decoded, decodedItems_eq_map]
      · rename_i noTable noList
        -- The other reader does not find an opening character either.
        have scalar : written (depth + 1) cur = value.scalar cur := by
          rw [written]
          split
          · exact absurd ‹_› (noTable _)
          · exact absurd ‹_› (noList _)
          · rfl
        rw [scalar]
        exact (congrFun scalar_changed cur).symm

/-- Reading a document gives the value that the document as it is written stands for. -/
theorem parse_eq_map_decoded (depth : Nat) (doc : Text) :
    parse depth doc = (parseWritten depth doc).map decoded := by
  unfold parse parseWritten
  rw [value_eq_changed]
  split
  · rfl
  · rw [Reader.changed_apply, except_bind_map, except_map_bind]
    congr 1
    funext ⟨v, after⟩
    dsimp only [Prod.map_apply, id]
    split <;> rfl

end CommandManual.Json
