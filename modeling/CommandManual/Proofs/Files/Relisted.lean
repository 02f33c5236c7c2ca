import CommandManual.Proofs.Files.Shape
import CommandManual.Proofs.Text.Names

/-!
Trees that list their directories in different orders. Two such trees hold the same entries at
the same places. Names are sorted before they are looked at, so no question about a path has
another answer, and the two trees stay alike when the same is written to both.
-/

namespace CommandManual

/-! ### Tables in another order -/

section Tables

variable {κ α β : Type} [BEq κ]

theorem lookup_perm [LawfulBEq κ] {fields fields' : List (κ × α)} (perm : fields.Perm fields')
    (distinct : (fields.map Prod.fst).Nodup) (key : κ) :
    fields.lookup key = fields'.lookup key := by
  induction perm with
  | nil => rfl
  | cons f _ ih =>
      obtain ⟨other, value⟩ := f
      have later := ih (List.nodup_cons.mp distinct).2
      rw [List.lookup_cons, List.lookup_cons, later]
  | swap f g rest =>
      -- The two keys that change their places are different.
      have apart : g.1 ≠ f.1 := by
        intro same
        apply (List.nodup_cons.mp distinct).1
        rw [same]
        exact List.mem_cons_self
      obtain ⟨first, value⟩ := f
      obtain ⟨second, value'⟩ := g
      simp only [List.lookup_cons]
      cases atFirst : key == first with
      | false => rfl
      | true =>
          cases atSecond : key == second with
          | false => rfl
          | true => exact absurd ((eq_of_beq atSecond).symm.trans (eq_of_beq atFirst)) apart
  | trans first _ ih ih' =>
      exact (ih distinct).trans (ih' (((first.map Prod.fst).nodup_iff).mp distinct))

/-- A key that is set is added at the end, unless it is there. -/
theorem filterMap_keys_assign (g : κ → Option β) (key : κ) (value : α)
    (fields : List (κ × α)) :
    (assign key value fields).filterMap (fun f => g f.1) =
      fields.filterMap (fun f => g f.1) ++
        if (fields.lookup key).isSome then [] else (g key).toList := by
  induction fields with
  | nil => cases found : g key <;> simp [assign, found]
  | cons f rest ih =>
      obtain ⟨other, old⟩ := f
      rw [assign, List.lookup_cons]
      cases same : key == other with
      | true => simp [List.filterMap_cons]
      | false =>
          simp only [Bool.false_eq_true, if_false, List.filterMap_cons, ih]
          cases g other <;> rfl

end Tables

namespace FileTree

/-- The second tree is the first one with its directories listed in another order. -/
structure Relisted (tree tree' : FileTree) : Prop where
  here : tree'.here = tree.here
  get? : ∀ place, tree'.get? place = tree.get? place
  names : ∀ place, (tree'.names place).Perm (tree.names place)

def nameIn? (directory place : Place) : Option String :=
  match place.getLast? with
  | some name => if place.dropLast = directory then some name else none
  | none => none

theorem names_put (tree : FileTree) (place directory : Place) (entry : Entry) :
    (tree.put place entry).names directory = tree.names directory ++
      if (tree.entries.lookup place).isSome then [] else (nameIn? directory place).toList :=
  filterMap_keys_assign (nameIn? directory) place entry tree.entries

/-- Entries at distinct places make up the same tree in every order. -/
theorem relisted_of_perm {entries entries' : List (Place × Entry)} (here : Place)
    (perm : entries.Perm entries') (distinct : (entries.map Prod.fst).Nodup) :
    Relisted ⟨entries, here⟩ ⟨entries', here⟩ where
  here := rfl
  get? place := by
    have same := lookup_perm perm distinct place
    simp only [FileTree.get?, same]
  names _ := (perm.filterMap _).symm

theorem nodup_names {tree : FileTree} (distinct : (tree.entries.map Prod.fst).Nodup)
    (directory : Place) : (tree.names directory).Nodup := by
  have listed : tree.names directory =
      (tree.entries.map Prod.fst).filterMap (nameIn? directory) := by
    rw [List.filterMap_map]
    rfl
  rw [listed]
  refine distinct.filterMap fun place place' name hplace hplace' => ?_
  have parts {p : Place} (h : name ∈ nameIn? directory p) : p = directory ++ [name] := by
    rw [Option.mem_def, nameIn?] at h
    split at h
    · rename_i last hlast
      split at h
      · rename_i within
        obtain rfl := Option.some.inj h
        rw [← within]
        exact (List.dropLast_append_getLast? _ hlast).symm
      · cases h
    · cases h
  rw [parts hplace, parts hplace']

namespace Relisted

variable {tree tree' : FileTree}

/-! ### Looking -/

theorem advance (h : tree.Relisted tree') (purpose : Purpose) (directory : Place)
    (names : List String) :
    tree'.advance purpose directory names = tree.advance purpose directory names := by
  induction names generalizing directory with
  | nil => rfl
  | cons name rest ih => simp only [FileTree.advance, h.get?, ih]

theorem walk (h : tree.Relisted tree') (purpose : Purpose) (links : Nat) (directory : Place)
    (names : List String) :
    tree'.walk purpose links directory names = tree.walk purpose links directory names := by
  induction links generalizing directory names with
  | zero => rw [FileTree.walk, FileTree.walk, h.advance]
  | succ links ih =>
      rw [FileTree.walk, FileTree.walk, h.advance]
      simp only [ih]

theorem locate (h : tree.Relisted tree') (purpose : Purpose) (path : Path) :
    tree'.locate purpose path = tree.locate purpose path := by
  rw [FileTree.locate, FileTree.locate, h.here]
  simp only [h.walk]

theorem stat (h : tree.Relisted tree') (path : Path) : tree'.stat path = tree.stat path := by
  rw [FileTree.stat, FileTree.stat, h.locate]
  simp only [h.get?]

theorem isFile (h : tree.Relisted tree') (path : Path) : tree'.isFile path = tree.isFile path := by
  simp only [FileTree.isFile, leadsTo, h.stat]

theorem isDirectory (h : tree.Relisted tree') (path : Path) :
    tree'.isDirectory path = tree.isDirectory path := by
  simp only [FileTree.isDirectory, leadsTo, h.stat]

theorem read (h : tree.Relisted tree') (path : Path) : tree'.read path = tree.read path := by
  simp only [FileTree.read, h.stat]

/-- The order in which a directory is listed is lost when its names are sorted. -/
theorem list (h : tree.Relisted tree') (path : Path) : tree'.list path = tree.list path := by
  rw [FileTree.list, FileTree.list, h.locate]
  cases tree.locate .follow path with
  | error e => rfl
  | ok place => exact Text.sortNames_eq_of_perm (h.names place)

/-! ### Writing -/

theorem put (h : tree.Relisted tree') (place : Place) (entry : Entry) :
    (tree.put place entry).Relisted (tree'.put place entry) where
  here := h.here
  get? other := by
    by_cases same : other = place
    · subst same
      exact get?_put_congr tree tree' other entry
    · rw [get?_put_of_ne tree' same, get?_put_of_ne tree same, h.get?]
  names directory := by
    have known : place ≠ [] →
        (tree'.entries.lookup place).isSome = (tree.entries.lookup place).isSome := by
      intro nonempty
      have found := h.get? place
      rw [FileTree.get?, FileTree.get?, if_neg (by simpa using nonempty),
        if_neg (by simpa using nonempty)] at found
      rw [found]
    rw [names_put, names_put]
    apply (h.names directory).append
    by_cases root : place = []
    · -- The root is not listed anywhere.
      have unnamed : (nameIn? directory place).toList = [] := by
        rw [root]
        rfl
      rw [unnamed, ite_self, ite_self]
    · rw [known root]

theorem makeDirectory (h : tree.Relisted tree') (path : Path) :
    (∃ e, tree.makeDirectory path = .error e ∧ tree'.makeDirectory path = .error e) ∨
      ∃ made made', tree.makeDirectory path = .ok made ∧ tree'.makeDirectory path = .ok made' ∧
        made.Relisted made' := by
  unfold FileTree.makeDirectory
  rw [h.locate]
  cases tree.locate .keepLink path with
  | error e => exact .inl ⟨e, rfl, rfl⟩
  | ok place =>
      dsimp only
      rw [h.get?]
      split
      · exact .inl ⟨.present, rfl, rfl⟩
      · exact .inr ⟨_, _, rfl, rfl, h.put place .directory⟩

theorem write (h : tree.Relisted tree') (path : Path) (content : Content) :
    (∃ e, tree.write path content = .error e ∧ tree'.write path content = .error e) ∨
      ∃ written written', tree.write path content = .ok written ∧
        tree'.write path content = .ok written' ∧ written.Relisted written' := by
  unfold FileTree.write
  rw [h.locate]
  split
  · exact .inl ⟨_, rfl, rfl⟩
  · cases tree.locate .write path with
    | error e => exact .inl ⟨_, rfl, rfl⟩
    | ok place =>
        dsimp only
        rw [h.get?]
        split
        · exact .inr ⟨_, _, rfl, rfl, h.put place _⟩
        · exact .inr ⟨_, _, rfl, rfl, h.put place _⟩
        · exact .inl ⟨_, rfl, rfl⟩

structure Same {α : Type} (x x' : α × FileTree) : Prop where
  result : x'.1 = x.1
  tree : x.2.Relisted x'.2

theorem orPresent (h : tree.Relisted tree') (path : Path) (e : Refusal) :
    Same (tree.orPresent path e) (tree'.orPresent path e) := by
  unfold FileTree.orPresent
  rw [h.isDirectory]
  split <;> exact ⟨rfl, h⟩

/-- A directory that is made without those on the way to it. -/
theorem ensureDirectoryWithin_zero (h : tree.Relisted tree') (path : Path) :
    Same (FileTree.ensureDirectoryWithin 0 path tree)
      (FileTree.ensureDirectoryWithin 0 path tree') := by
  unfold FileTree.ensureDirectoryWithin
  rcases h.makeDirectory path with ⟨e, failed, failed'⟩ | ⟨made, made', did, did', alike⟩
  · rw [failed, failed']
    cases e with
    | noEntry => exact ⟨rfl, h⟩
    | _ => exact h.orPresent path _
  · rw [did, did']
    exact ⟨rfl, alike⟩

theorem ensureDirectoryWithin (h : tree.Relisted tree') (depth : Nat) (path : Path) :
    Same (ensureDirectoryWithin depth path tree) (ensureDirectoryWithin depth path tree') := by
  induction depth generalizing path tree tree' with
  | zero => exact h.ensureDirectoryWithin_zero path
  | succ depth ih =>
      unfold FileTree.ensureDirectoryWithin
      rcases h.makeDirectory path with ⟨e, failed, failed'⟩ | ⟨made, made', did, did', alike⟩
      · rw [failed, failed']
        cases e with
        | noEntry =>
            have above := ih h path.parent
            dsimp only
            rcases run : FileTree.ensureDirectoryWithin depth path.parent tree with ⟨result, t⟩
            rcases run' : FileTree.ensureDirectoryWithin depth path.parent tree' with ⟨result', t'⟩
            rw [run, run'] at above
            obtain ⟨same, later⟩ := above
            obtain rfl : result' = result := same
            -- Once the way is there, the directory is made as if it stood alone.
            cases result' with
            | error e => exact ⟨rfl, later⟩
            | ok _ =>
                have alone := later.ensureDirectoryWithin_zero path
                unfold FileTree.ensureDirectoryWithin at alone
                exact alone
        | _ => exact h.orPresent path _
      · rw [did, did']
        exact ⟨rfl, alike⟩

theorem ensureDirectory (h : tree.Relisted tree') (path : Path) :
    Same (tree.ensureDirectory path) (tree'.ensureDirectory path) := by
  unfold FileTree.ensureDirectory
  split
  · exact ⟨rfl, h⟩
  · exact h.ensureDirectoryWithin _ path

end Relisted

end FileTree

end CommandManual
