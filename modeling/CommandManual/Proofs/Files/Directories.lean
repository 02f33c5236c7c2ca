import CommandManual.Proofs.Files.Walk

/-!
Making directories. Nothing is lost when a directory is made: it stands where
there was nothing, and every walk that got somewhere gets to the same place
afterwards. So what making a directory with all on the way to it adds to a tree
are directories that the path, or a path above it, leads to, also when a later
one cannot be made.
-/

namespace CommandManual

namespace FileTree

/-- The second tree is the first one with more directories: they stand where
there was nothing. -/
structure MoreDirectories (tree tree' : FileTree) : Prop where
  here : tree'.here = tree.here
  get? : ∀ place, tree'.get? place = tree.get? place ∨
    tree.get? place = none ∧ tree'.get? place = some .directory

namespace MoreDirectories

variable {tree tree' tree'' : FileTree}

theorem refl (tree : FileTree) : tree.MoreDirectories tree := ⟨rfl, fun _ => .inl rfl⟩

theorem get?_of_some (h : tree.MoreDirectories tree') {place : Place} {entry : Entry}
    (hentry : tree.get? place = some entry) : tree'.get? place = some entry := by
  rcases h.get? place with same | ⟨absent, -⟩
  · exact same.trans hentry
  · rw [hentry] at absent
    cases absent

theorem trans (h : tree.MoreDirectories tree') (h' : tree'.MoreDirectories tree'') :
    tree.MoreDirectories tree'' := by
  refine ⟨h'.here.trans h.here, fun place => ?_⟩
  rcases h.get? place with same | ⟨absent, made⟩
  · rw [← same]
    exact h'.get? place
  · exact .inr ⟨absent, h'.get?_of_some made⟩

end MoreDirectories

theorem moreDirectories_put {tree : FileTree} {place : Place} (h : tree.get? place = none) :
    tree.MoreDirectories (tree.put place .directory) := by
  refine ⟨rfl, fun other => ?_⟩
  by_cases heq : other = place
  · subst heq
    have hne : other ≠ [] := by
      rintro rfl
      cases h
    exact .inr ⟨h, tree.get?_put_self hne _⟩
  · exact .inl (tree.get?_put_of_ne heq _)

/-! ### Walks among more directories -/

/-- A walk that does not end at a link gets to the same place when links at the
end are followed and there are more directories. -/
theorem advance_of_moreDirectories {tree tree' : FileTree} (h : tree.MoreDirectories tree')
    {purpose : Purpose} {directory : Place} {names : List String} {reached : Reached}
    (hend : purpose = .keepLink → ∀ place target, reached = .arrived place →
      tree.get? place ≠ some (.link target))
    (ha : tree.advance purpose directory names = .ok reached) :
    tree'.advance .follow directory names = .ok reached := by
  induction names generalizing directory with
  | nil => exact ha
  | cons name rest ih =>
      unfold advance at ha
      split at ha
      · rename_i hdot
        rw [advance, if_pos hdot]
        exact ih ha
      split at ha
      · rename_i hdot hup
        rw [advance, if_neg hdot, if_pos hup]
        exact ih ha
      split at ha
      · cases ha
      split at ha
      · cases ha
      rename_i hdot hup _ hlong
      simp only [Bool.or_eq_true, decide_eq_true_eq, not_or] at hdot
      have hstep : IsStep name := ⟨hdot.1, hdot.2, hup, Nat.not_lt.mp hlong⟩
      rw [tree'.advance_follow_of_isStep directory hstep]
      dsimp only at ha
      split at ha
      · rename_i hentry
        cases rest with
        | nil =>
            -- At the end there may be a new directory, and then the walk stops inside.
            rcases h.get? (directory ++ [name]) with same | ⟨-, made⟩
            · rw [same, hentry]
              exact ha
            · rw [made]
              exact ha
        | cons => cases ha
      · rename_i hentry
        rw [h.get?_of_some hentry]
        exact ih ha
      · rename_i content hentry
        rw [h.get?_of_some hentry]
        exact ha
      · rename_i target hentry
        rw [h.get?_of_some hentry]
        split at ha
        · rename_i hkeep
          simp only [Bool.and_eq_true, decide_eq_true_eq] at hkeep
          cases ha
          exact absurd hentry (hend hkeep.2 _ target rfl)
        · exact ha

theorem walk_of_moreDirectories {tree tree' : FileTree} (h : tree.MoreDirectories tree')
    {purpose : Purpose} {links : Nat} {directory place : Place} {names : List String}
    (hend : purpose = .keepLink → ∀ target, tree.get? place ≠ some (.link target))
    (hw : tree.walk purpose links directory names = .ok place) :
    tree'.walk .follow links directory names = .ok place := by
  fun_induction walk tree purpose links directory names with
  | case1 => cases hw
  | case2 links directory names place' arrived =>
      cases hw
      rw [walk, advance_of_moreDirectories h ?_ arrived]
      rintro hkeep _ target ⟨⟩
      exact hend hkeep target
  | case3 => cases hw
  | case4 directory names directory' target rest reached links start ih =>
      rw [walk, advance_of_moreDirectories h ?_ reached]
      · exact ih hw
      · rintro - _ _ ⟨⟩

theorem locate_of_moreDirectories {tree tree' : FileTree} (h : tree.MoreDirectories tree')
    {purpose : Purpose} {path : Path} {place : Place}
    (hend : purpose = .keepLink → ∀ target, tree.get? place ≠ some (.link target))
    (hl : tree.locate purpose path = .ok place) : tree'.locate .follow path = .ok place := by
  unfold locate at hl ⊢
  split at hl
  · cases hl
  · rename_i hlong
    rw [if_neg hlong, h.here]
    exact walk_of_moreDirectories h hend hl

/-! ### The directories on the way to a path -/

/-- The second tree is the first one with more directories, to which a path or a
path above it leads. -/
structure Opens (path : Path) (tree tree' : FileTree) : Prop extends
    tree.MoreDirectories tree' where
  led : ∀ place, tree.get? place = none → tree'.get? place = some .directory →
    ∃ n, tree'.locate .follow ⟨path.root, path.parts.take n⟩ = .ok place

namespace Opens

variable {path : Path} {tree tree' tree'' : FileTree}

theorem refl (path : Path) (tree : FileTree) : Opens path tree tree := by
  refine ⟨.refl tree, fun place absent made => ?_⟩
  rw [absent] at made
  cases made

theorem trans (h : Opens path tree tree') (h' : Opens path tree' tree'') :
    Opens path tree tree'' := by
  refine ⟨h.toMoreDirectories.trans h'.toMoreDirectories, fun place absent made => ?_⟩
  rcases h.get? place with same | ⟨-, madeFirst⟩
  · exact h'.led place (same.trans absent) made
  · obtain ⟨n, located⟩ := h.led place absent madeFirst
    refine ⟨n, locate_of_moreDirectories h'.toMoreDirectories ?_ located⟩
    rintro ⟨⟩

/-- The directories above a path are on the way to it. -/
theorem of_parent (h : Opens path.parent tree tree') : Opens path tree tree' := by
  refine ⟨h.toMoreDirectories, fun place absent made => ?_⟩
  obtain ⟨n, located⟩ := h.led place absent made
  refine ⟨min n (path.parts.length - 1), ?_⟩
  rw [← List.take_take, ← List.dropLast_eq_take]
  exact located

end Opens

theorem opens_of_makeDirectory {path : Path} {tree tree' : FileTree}
    (h : tree.makeDirectory path = .ok tree') : Opens path tree tree' := by
  unfold makeDirectory at h
  rcases located : tree.locate .keepLink path with e | place
  all_goals
    rw [located] at h
    dsimp only at h
  · cases h
  split at h
  · cases h
  rename_i hentry
  have absent : tree.get? place = none := by simpa using hentry
  cases h
  have more := moreDirectories_put absent
  refine ⟨more, fun other habsent made => ?_⟩
  by_cases hne : other ≠ place
  · rw [tree.get?_put_of_ne hne, habsent] at made
    cases made
  obtain rfl := Decidable.not_not.mp hne
  refine ⟨path.parts.length, ?_⟩
  rw [List.take_length]
  refine locate_of_moreDirectories more ?_ located
  intro _ target
  rw [absent]
  simp

theorem orPresent_snd (tree : FileTree) (path : Path) (e : Refusal) :
    (tree.orPresent path e).2 = tree := by
  unfold orPresent
  split <;> rfl

/-- Making a directory with those on the way to it only opens the way to it,
whether it can be made or not. -/
theorem opens_ensureDirectoryWithin (depth : Nat) (path : Path) (tree : FileTree) :
    Opens path tree (ensureDirectoryWithin depth path tree).2 := by
  induction depth generalizing path tree with
  | zero =>
      unfold ensureDirectoryWithin
      split
      · rename_i made
        exact opens_of_makeDirectory made
      · exact .refl path tree
      · rw [orPresent_snd]
        exact .refl path tree
  | succ depth ih =>
      unfold ensureDirectoryWithin
      split
      · rename_i made
        exact opens_of_makeDirectory made
      · have above := (ih path.parent tree).of_parent
        dsimp only
        split
        · rename_i hrun
          rw [hrun] at above
          exact above
        · rename_i hrun
          rw [hrun] at above
          split
          · rename_i made
            exact above.trans (opens_of_makeDirectory made)
          · exact above
          · rw [orPresent_snd]
            exact above
      · rw [orPresent_snd]
        exact .refl path tree

theorem opens_ensureDirectory (path : Path) (tree : FileTree) :
    Opens path tree (tree.ensureDirectory path).2 := by
  unfold ensureDirectory
  split
  · exact .refl path tree
  · exact opens_ensureDirectoryWithin _ path tree

/-! ### Directories that are there in the end -/

theorem isDirectory_of_makeDirectory {path : Path} {tree tree' : FileTree}
    (noNull : hasNull path = false) (h : tree.makeDirectory path = .ok tree') :
    tree'.isDirectory path = .ok true := by
  unfold makeDirectory at h
  rcases located : tree.locate .keepLink path with e | place
  all_goals
    rw [located] at h
    dsimp only at h
  · cases h
  split at h
  · cases h
  rename_i hentry
  have absent : tree.get? place = none := by simpa using hentry
  cases h
  have nonempty : place ≠ [] := by
    rintro rfl
    cases absent
  have follows : (tree.put place .directory).locate .follow path = .ok place := by
    refine locate_of_moreDirectories (moreDirectories_put absent) (fun _ target => ?_) located
    rw [absent]
    simp
  rw [isDirectory, leadsTo, noNull, stat, follows]
  simp [get?_put_self _ nonempty]

theorem isDirectory_of_orPresent {path : Path} {tree tree' : FileTree} {e : Refusal}
    (h : tree.orPresent path e = (.ok (), tree')) : tree'.isDirectory path = .ok true := by
  unfold orPresent at h
  split at h
  · rename_i there
    cases h
    exact there
  all_goals cases h

/-- A directory that was made, or found there, is there. -/
theorem isDirectory_of_ensureDirectory {path : Path} {tree tree' : FileTree}
    (h : tree.ensureDirectory path = (.ok (), tree')) : tree'.isDirectory path = .ok true := by
  unfold ensureDirectory at h
  split at h
  · cases h
  rename_i noNull
  rw [Bool.not_eq_true] at noNull
  unfold ensureDirectoryWithin at h
  split at h
  · rename_i made
    cases h
    exact isDirectory_of_makeDirectory noNull made
  · split at h
    · cases h
    · split at h
      · cases h
      · split at h
        · rename_i made
          cases h
          exact isDirectory_of_makeDirectory noNull made
        · cases h
        · exact isDirectory_of_orPresent h
  · exact isDirectory_of_orPresent h

end FileTree

end CommandManual
