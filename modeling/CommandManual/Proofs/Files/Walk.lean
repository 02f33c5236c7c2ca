import CommandManual.Files.Access

/-!
How walks through a file tree end. A walk only depends on the directories and
links of the tree, so writing a file in place of another one, or where there was
none, leaves every walk that gets somewhere as it was.
-/

namespace CommandManual

def Entry.isWay : Entry → Bool
  | .file _ => false
  | _ => true

namespace FileTree

/-! ### Refusals -/

theorem advance_eq_error {tree : FileTree} {purpose : Purpose} {directory : Place}
    {names : List String} {e : Refusal} (hp : purpose ≠ .write)
    (h : tree.advance purpose directory names = .error e) :
    e = .noEntry ∨ e = .notDirectory ∨ e = .nameTooLong := by
  fun_induction advance tree purpose directory names <;> simp_all

theorem walk_eq_error {tree : FileTree} {purpose : Purpose} {links : Nat} {directory : Place}
    {names : List String} {e : Refusal} (hp : purpose ≠ .write)
    (h : tree.walk purpose links directory names = .error e) :
    e = .noEntry ∨ e = .notDirectory ∨ e = .nameTooLong ∨ e = .tooManyLinks := by
  fun_induction walk tree purpose links directory names with
  | case1 links directory names e' stopped =>
      cases h
      rcases advance_eq_error hp stopped with rfl | rfl | rfl <;> simp
  | case2 => cases h
  | case3 => cases h; simp
  | case4 directory names directory' target rest links reached start ih => exact ih h

/-- A path is only refused to be looked at when a name in it is too long. -/
theorem leadsTo_eq_error_iff {tree : FileTree} {kind : Entry → Bool} {path : Path} :
    (∃ e, tree.leadsTo kind path = .error e) ↔
      hasNull path = false ∧ tree.locate .follow path = .error .nameTooLong := by
  unfold leadsTo stat
  cases hnull : hasNull path with
  | true => simp
  | false =>
      rcases hlocate : tree.locate .follow path with e | place
      · have hcases : e = .noEntry ∨ e = .notDirectory ∨ e = .nameTooLong ∨
            e = .tooManyLinks := by
          unfold locate at hlocate
          split at hlocate
          · cases hlocate; simp
          · exact walk_eq_error (by simp) hlocate
        rcases hcases with rfl | rfl | rfl | rfl <;> simp
      · rcases hentry : tree.get? place with _ | entry <;> simp [hentry]

/-- A file can be read, and nothing else can. -/
theorem isFile_eq_true_iff {tree : FileTree} {path : Path} :
    tree.isFile path = .ok true ↔ ∃ content, tree.read path = .ok content := by
  unfold isFile leadsTo read
  cases hasNull path with
  | true => simp
  | false =>
      rcases tree.stat path with e | entry
      · cases e <;> simp
      · cases entry <;> simp

theorem locate_of_leadsTo {tree : FileTree} {kind : Entry → Bool} {path : Path}
    (h : tree.leadsTo kind path = .ok true) : ∃ place, tree.locate .follow path = .ok place := by
  unfold leadsTo stat at h
  split at h
  · cases h
  · rcases hlocate : tree.locate .follow path with e | place
    · rw [hlocate] at h
      cases e <;> simp at h
    · exact ⟨place, rfl⟩

theorem write_eq_nullCharacter_iff {tree : FileTree} {path : Path} {content : Content} :
    tree.write path content = .error .nullCharacter ↔ hasNull path = true := by
  unfold write
  split
  · simp [*]
  · split
    · simp [*]
    · split <;> simp [*]

/-! ### Directories and links -/

def way? (tree : FileTree) (place : Place) : Option Entry :=
  (tree.get? place).filter Entry.isWay

theorem way?_eq_none_iff {tree : FileTree} {place : Place} :
    tree.way? place = none ↔
      tree.get? place = none ∨ ∃ content, tree.get? place = some (.file content) := by
  unfold way?
  rcases tree.get? place with _ | content | _ | target <;> simp [Entry.isWay]

theorem way?_eq_some_iff {tree : FileTree} {place : Place} {entry : Entry} :
    tree.way? place = some entry ↔ tree.get? place = some entry ∧ entry.isWay = true := by
  simp [way?, Option.filter_eq_some_iff]

structure SameWays (tree tree' : FileTree) : Prop where
  here : tree'.here = tree.here
  way? : ∀ place, tree'.way? place = tree.way? place

namespace SameWays

variable {tree tree' tree'' : FileTree}

theorem refl (tree : FileTree) : tree.SameWays tree := ⟨rfl, fun _ => rfl⟩

theorem trans (h : tree.SameWays tree') (h' : tree'.SameWays tree'') : tree.SameWays tree'' :=
  ⟨h'.here.trans h.here, fun place => (h'.way? place).trans (h.way? place)⟩

theorem get?_of_isWay (h : tree.SameWays tree') {place : Place} {entry : Entry}
    (he : tree.get? place = some entry) (hw : entry.isWay = true) :
    tree'.get? place = some entry := by
  have hway : tree'.way? place = some entry :=
    (h.way? place).trans (way?_eq_some_iff.mpr ⟨he, hw⟩)
  exact (way?_eq_some_iff.mp hway).1

end SameWays

theorem sameWays_put {tree : FileTree} {place : Place} (h : tree.way? place = none)
    (content : Content) : tree.SameWays (tree.put place (.file content)) := by
  refine ⟨rfl, fun other => ?_⟩
  by_cases hp : other = place
  · subst hp
    have hne : other ≠ [] := by
      rintro rfl
      cases h
    rw [h, way?, get?_put_self tree hne]
    rfl
  · rw [way?, get?_put_of_ne tree hp, way?]

/-! ### Single steps -/

structure IsStep (name : String) : Prop where
  ne_empty : name ≠ ""
  ne_dot : name ≠ "."
  ne_up : name ≠ ".."
  short : name.utf8ByteSize ≤ longestName

theorem advance_follow_of_isStep (tree : FileTree) (directory : Place) {name : String}
    (h : IsStep name) (rest : List String) :
    tree.advance .follow directory (name :: rest) =
      match tree.get? (directory ++ [name]) with
      | none => if rest.isEmpty then .ok (.arrived (directory ++ [name])) else .error .noEntry
      | some .directory => tree.advance .follow (directory ++ [name]) rest
      | some (.file _) =>
        if rest.isEmpty then .ok (.arrived (directory ++ [name])) else .error .notDirectory
      | some (.link target) => .ok (.atLink directory target rest) := by
  rw [advance, if_neg (by simp [h.ne_empty, h.ne_dot]), if_neg h.ne_up, if_neg (by simp),
    if_neg (Nat.not_lt.mpr h.short)]
  rcases hentry : tree.get? (directory ++ [name]) with _ | _ | _ | target <;> simp [hentry]

theorem advance_follow_last {tree : FileTree} {directory : Place} {name : String}
    (h : IsStep name) (hend : tree.way? (directory ++ [name]) = none) :
    tree.advance .follow directory [name] = .ok (.arrived (directory ++ [name])) := by
  rw [tree.advance_follow_of_isStep directory h]
  rcases way?_eq_none_iff.mp hend with hentry | ⟨content, hentry⟩
  · simp [hentry]
  · simp [hentry]

/-! ### Where files are written and read -/

/-- A walk for writing or reading gets to the same place as one for reading, as
long as the directories and links stay. -/
theorem advance_of_sameWays {tree tree' : FileTree} (h : tree.SameWays tree')
    {purpose : Purpose} (hp : purpose ≠ .keepLink) {directory : Place} {names : List String}
    {reached : Reached} (ha : tree.advance purpose directory names = .ok reached) :
    tree'.advance .follow directory names = .ok reached := by
  induction names generalizing directory with
  | nil => exact ha
  | cons name rest ih =>
      unfold advance at ha
      split at ha
      · rename_i hdot
        rw [advance, if_pos hdot]
        exact ih ha
      split at ha
      · rename_i hdot hup
        rw [advance, if_neg hdot, if_pos hup]
        exact ih ha
      split at ha
      · cases ha
      split at ha
      · cases ha
      rename_i hdot hup _ hlong
      simp only [Bool.or_eq_true, decide_eq_true_eq, not_or] at hdot
      have hstep : IsStep name := ⟨hdot.1, hdot.2, hup, Nat.not_lt.mp hlong⟩
      -- A file or nothing at the end of the path may change into one another.
      have hlast (hend : tree.way? (directory ++ [name]) = none) :
          tree'.advance .follow directory [name] = .ok (.arrived (directory ++ [name])) :=
        advance_follow_last hstep ((h.way? _).trans hend)
      dsimp only at ha
      split at ha
      · rename_i hentry
        cases rest with
        | nil =>
            rw [← ha]
            exact hlast (way?_eq_none_iff.mpr (.inl hentry))
        | cons => cases ha
      · rename_i hentry
        rw [tree'.advance_follow_of_isStep directory hstep, h.get?_of_isWay hentry rfl]
        exact ih ha
      · rename_i content hentry
        cases rest with
        | nil =>
            rw [← ha]
            exact hlast (way?_eq_none_iff.mpr (.inr ⟨content, hentry⟩))
        | cons => cases ha
      · rename_i target hentry
        rw [tree'.advance_follow_of_isStep directory hstep, h.get?_of_isWay hentry rfl]
        simpa [hp] using ha

theorem walk_of_sameWays {tree tree' : FileTree} (h : tree.SameWays tree')
    {purpose : Purpose} (hp : purpose ≠ .keepLink) {links : Nat} {directory place : Place}
    {names : List String} (hw : tree.walk purpose links directory names = .ok place) :
    tree'.walk .follow links directory names = .ok place := by
  fun_induction walk tree purpose links directory names with
  | case1 => cases hw
  | case2 links directory names place' arrived =>
      rw [walk, advance_of_sameWays h hp arrived]
      exact hw
  | case3 => cases hw
  | case4 directory names directory' target rest reached links start ih =>
      rw [walk, advance_of_sameWays h hp reached]
      exact ih hw

theorem locate_of_sameWays {tree tree' : FileTree} (h : tree.SameWays tree')
    {purpose : Purpose} (hp : purpose ≠ .keepLink) {path : Path} {place : Place}
    (hl : tree.locate purpose path = .ok place) :
    tree'.locate .follow path = .ok place := by
  unfold locate at hl ⊢
  split at hl
  · cases hl
  · rename_i hlong
    rw [if_neg hlong, h.here]
    exact walk_of_sameWays h hp hl

theorem write_eq_ok_iff {tree tree' : FileTree} {path : Path} {content : Content} :
    tree.write path content = .ok tree' ↔
      hasNull path = false ∧ ∃ place, tree.locate .write path = .ok place ∧
        tree.way? place = none ∧ tree' = tree.put place (.file content) := by
  unfold write
  cases hnull : hasNull path with
  | true => simp
  | false =>
      rcases hlocate : tree.locate .write path with e | place
      · simp
      · simp only [Bool.false_eq_true, if_false, true_and, Except.ok.injEq, exists_eq_left',
          way?]
        rcases tree.get? place with _ | _ | _ | _ <;>
          simp [Option.filter, Entry.isWay, eq_comm]

theorem read_eq_ok_iff {tree : FileTree} {path : Path} {content : Content} :
    tree.read path = .ok content ↔
      hasNull path = false ∧ ∃ place, tree.locate .follow path = .ok place ∧
        tree.get? place = some (.file content) := by
  unfold read stat
  cases hasNull path with
  | true => simp
  | false =>
      rcases tree.locate .follow path with e | place
      · simp
      · rcases hentry : tree.get? place with _ | _ | _ | _ <;> simp [hentry]

end FileTree

end CommandManual
