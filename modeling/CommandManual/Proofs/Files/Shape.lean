import CommandManual.Proofs.Files.Walk

/-!
Trees of one shape. Two trees have the same shape when they hold files,
directories and links at the same places, and only the contents of the files may
be different. Whatever is asked of a tree but the content of a file then has the
same answer: where a path leads, what it leads to, and what a directory holds.
Writing over a file keeps the shape of a tree.
-/

namespace CommandManual

def Entry.emptied : Entry → Entry
  | .file _ => .file (.bytes [])
  | entry => entry

namespace FileTree

def shape (tree : FileTree) : List (Place × Entry) :=
  tree.entries.map (Prod.map id Entry.emptied)

structure SameShape (tree tree' : FileTree) : Prop where
  here : tree'.here = tree.here
  shape : tree'.shape = tree.shape

namespace SameShape

variable {tree tree' tree'' : FileTree}

theorem refl (tree : FileTree) : tree.SameShape tree := ⟨rfl, rfl⟩

theorem symm (h : tree.SameShape tree') : tree'.SameShape tree := ⟨h.here.symm, h.shape.symm⟩

theorem trans (h : tree.SameShape tree') (h' : tree'.SameShape tree'') :
    tree.SameShape tree'' :=
  ⟨h'.here.trans h.here, h'.shape.trans h.shape⟩

end SameShape

/-! ### What a shape tells -/

theorem lookup_shape (place : Place) (entries : List (Place × Entry)) :
    (entries.map (Prod.map id Entry.emptied)).lookup place =
      (entries.lookup place).map Entry.emptied := by
  induction entries with
  | nil => rfl
  | cons entry rest ih =>
      rw [List.map_cons, List.lookup_cons, List.lookup_cons, ih, Prod.map_fst, id]
      cases place == entry.1 <;> rfl

theorem SameShape.get? {tree tree' : FileTree} (h : tree.SameShape tree') (place : Place) :
    (tree'.get? place).map Entry.emptied = (tree.get? place).map Entry.emptied := by
  unfold FileTree.get?
  split
  · rfl
  · rw [← lookup_shape, ← lookup_shape]
    exact congrArg (List.lookup place) h.shape

theorem SameShape.names {tree tree' : FileTree} (h : tree.SameShape tree') (place : Place) :
    tree'.names place = tree.names place := by
  have ofShape (t : FileTree) : t.names place = FileTree.names ⟨t.shape, []⟩ place := by
    rw [FileTree.names, FileTree.names, FileTree.shape, List.filterMap_map]
    rfl
  rw [ofShape tree', h.shape, ← ofShape tree]

/-- A walk without links depends on the shape of a tree alone. -/
theorem SameShape.advance {tree tree' : FileTree} (h : tree.SameShape tree')
    (purpose : Purpose) (directory : Place) (names : List String) :
    tree'.advance purpose directory names = tree.advance purpose directory names := by
  induction names generalizing directory with
  | nil => rfl
  | cons name rest ih =>
      have same := h.get? (directory ++ [name])
      simp only [FileTree.advance, ih]
      generalize tree.get? (directory ++ [name]) = entry at same ⊢
      generalize tree'.get? (directory ++ [name]) = entry' at same ⊢
      rcases entry with _ | _ | _ | target <;> rcases entry' with _ | _ | _ | target' <;>
        cases same <;> rfl

theorem SameShape.walk {tree tree' : FileTree} (h : tree.SameShape tree') (purpose : Purpose)
    (links : Nat) (directory : Place) (names : List String) :
    tree'.walk purpose links directory names = tree.walk purpose links directory names := by
  induction links generalizing directory names with
  | zero => rw [FileTree.walk, FileTree.walk, h.advance]
  | succ links ih =>
      rw [FileTree.walk, FileTree.walk, h.advance]
      simp only [ih]

theorem SameShape.locate {tree tree' : FileTree} (h : tree.SameShape tree')
    (purpose : Purpose) (path : Path) : tree'.locate purpose path = tree.locate purpose path := by
  rw [FileTree.locate, FileTree.locate, h.here]
  simp only [h.walk]

theorem SameShape.list {tree tree' : FileTree} (h : tree.SameShape tree') (path : Path) :
    tree'.list path = tree.list path := by
  rw [FileTree.list, FileTree.list, h.locate]
  simp only [h.names]

/-- A question about what a path leads to, whatever a file contains. -/
theorem SameShape.leadsTo {tree tree' : FileTree} (h : tree.SameShape tree')
    {kind : Entry → Bool} (blind : ∀ entry, kind entry.emptied = kind entry) (path : Path) :
    tree'.leadsTo kind path = tree.leadsTo kind path := by
  unfold FileTree.leadsTo stat
  rw [h.locate]
  rcases tree.locate .follow path with e | place
  · rfl
  · have same := h.get? place
    rcases hentry : tree.get? place with _ | entry
    all_goals rcases hentry' : tree'.get? place with _ | entry'
    all_goals rw [hentry, hentry'] at same
    · simp [hentry, hentry']
    · cases same
    · cases same
    · have hkind : kind entry' = kind entry := by
        rw [← blind entry', ← blind entry]
        exact congrArg kind (Option.some.inj same)
      simp [hentry, hentry', hkind]

theorem SameShape.isFile {tree tree' : FileTree} (h : tree.SameShape tree') (path : Path) :
    tree'.isFile path = tree.isFile path :=
  h.leadsTo (by rintro (_ | _ | _) <;> rfl) path

theorem SameShape.isDirectory {tree tree' : FileTree} (h : tree.SameShape tree')
    (path : Path) : tree'.isDirectory path = tree.isDirectory path :=
  h.leadsTo (by rintro (_ | _ | _) <;> rfl) path

/-- What is read at a path only depends on the file there. -/
theorem SameShape.read {tree tree' : FileTree} (h : tree.SameShape tree') {path : Path}
    (same : ∀ place, tree.locate .follow path = .ok place →
      tree'.get? place = tree.get? place) : tree'.read path = tree.read path := by
  unfold FileTree.read stat
  rw [h.locate]
  rcases hplace : tree.locate .follow path with e | place
  · rfl
  · simp only [same place hplace]

/-! ### Writing over files -/

theorem get?_put_congr (tree tree' : FileTree) (place : Place) (entry : Entry) :
    (tree'.put place entry).get? place = (tree.put place entry).get? place := by
  simp [FileTree.get?, put]

theorem map_emptied_assign {place : Place} {content : Content} (content' : Content)
    {entries : List (Place × Entry)} (h : entries.lookup place = some (.file content)) :
    (assign place (.file content') entries).map (Prod.map id Entry.emptied) =
      entries.map (Prod.map id Entry.emptied) := by
  induction entries with
  | nil => cases h
  | cons entry rest ih =>
      obtain ⟨key, found⟩ := entry
      rw [List.lookup_cons] at h
      cases hp : place == key with
      | true =>
          rw [hp] at h
          cases h
          simp [assign, hp, Entry.emptied]
      | false =>
          rw [hp] at h
          simp [assign, hp, ih h]

theorem sameShape_put {tree : FileTree} {place : Place} {content : Content}
    (h : tree.get? place = some (.file content)) (content' : Content) :
    tree.SameShape (tree.put place (.file content')) := by
  have found : tree.entries.lookup place = some (.file content) := by
    unfold FileTree.get? at h
    split at h
    · cases h
    · exact h
  exact ⟨rfl, map_emptied_assign content' found⟩

end FileTree

end CommandManual
