import CommandManual.Proofs.Files.Directories
import CommandManual.Proofs.Files.Paths
import CommandManual.Proofs.Manual.Pages
import CommandManual.Settings.Load

/-!
The directory that is made for the pages and the one that they are written to. A destination is
read as a path when its directory is made; for a page its slashes at the end are dropped first,
and a slash is put before the name. A destination of nothing but slashes has no name left by
then, so its pages go to the root, which is another path than the empty one and than the one
with two slashes.
-/

namespace CommandManual

open CommandManual.Path

def pagesDirectory (destination : String) : Path :=
  if destination.toList.all (· == '/') then ⟨.slash, []⟩ else ofString destination

theorem all_isSlash_iff {t : Text} : t.all (· == '/') = true ↔ ∀ c ∈ t, c = '/' := by
  simp only [List.all_eq_true, beq_iff_eq]

theorem pagesDirectory_of_slashes {destination : String}
    (slashes : ∀ c ∈ destination.toList, c = '/') : pagesDirectory destination = ofString "/" := by
  rw [pagesDirectory, if_pos (all_isSlash_iff.mpr slashes)]
  rfl

theorem rootOf_eq_relative_iff {t : Text} : rootOf t = .relative ↔ t.takeWhile (· == '/') = [] := by
  rw [rootOf]
  rcases t.takeWhile (· == '/') with _ | ⟨c, _ | ⟨d, _ | ⟨e, r⟩⟩⟩ <;> simp

/-- The root of a path that is written with a slash between a directory and a relative one. -/
theorem rootOf_withoutEndSlashes_append {t name : Text} (relative : rootOf name = .relative) :
    rootOf (withoutEndSlashes t ++ '/' :: name) =
      if t.all (· == '/') then .slash else rootOf t := by
  split
  · rename_i slashes
    have single : ('/' :: name).takeWhile (· == '/') = ['/'] := by
      rw [List.takeWhile_cons_of_pos (by rfl), rootOf_eq_relative_iff.mp relative]
    rw [withoutEndSlashes_eq_nil_iff.mpr (all_isSlash_iff.mp slashes), List.nil_append, rootOf,
      single]
    rfl
  · rename_i other
    have named : ∃ c ∈ withoutEndSlashes t, c ≠ '/' := by
      obtain ⟨slashes, split, all⟩ := exists_withoutEndSlashes_eq t
      by_contra none
      simp only [ne_eq, not_exists, not_and, not_not] at none
      refine other (all_isSlash_iff.mpr fun c hc => ?_)
      rw [split] at hc
      exact (List.mem_append.mp hc).elim (none c) (all c)
    obtain ⟨slashes, split, -⟩ := exists_withoutEndSlashes_eq t
    conv_rhs => rw [split]
    rw [rootOf_append _ named, rootOf_append _ named]

/-- A page is written in the directory for pages. -/
theorem outputPath_eq_join {destination fileName : String}
    (relative : (ofString fileName).isAbsolute = false) :
    outputPath destination fileName = (pagesDirectory destination).join (ofString fileName) := by
  have relativeRoot : rootOf fileName.toList = .relative := by
    simpa [isAbsolute, ofString, ofText] using relative
  have parts : partsOf (withoutEndSlashes destination.toList ++ '/' :: fileName.toList) =
      partsOf destination.toList ++ partsOf fileName.toList := by
    rw [partsOf_append_slash, partsOf_withoutEndSlashes]
  have whole : outputPath destination fileName =
      ofText (withoutEndSlashes destination.toList ++ '/' :: fileName.toList) := rfl
  rw [whole, ofText, rootOf_withoutEndSlashes_append relativeRoot, parts, join, relative,
    pagesDirectory]
  split
  · rename_i slashes
    rw [partsOf_of_slashes (all_isSlash_iff.mp slashes)]
    rfl
  · rw [List.map_append]
    rfl

theorem rootOf_eq_slash_iff {t : Text} (slashes : ∀ c ∈ t, c = '/') :
    rootOf t = .slash ↔ t ≠ [] ∧ t ≠ ['/', '/'] := by
  have whole : t.takeWhile (· == '/') = t :=
    List.takeWhile_eq_self_iff.mpr fun c hc => by simpa using slashes c hc
  rw [rootOf, whole]
  rcases t with _ | ⟨c, _ | ⟨d, _ | ⟨e, r⟩⟩⟩
  case cons.cons.nil =>
    obtain ⟨rfl, rfl⟩ : c = '/' ∧ d = '/' := by simpa using slashes
    simp
  all_goals simp

/-- The directory for pages is the destination unless the destination is empty or consists of
two slashes. -/
theorem pagesDirectory_eq_iff {destination : String} :
    pagesDirectory destination = ofString destination ↔ destination ≠ "" ∧ destination ≠ "//" := by
  rw [ne_eq, ne_eq, ← String.toList_inj, ← String.toList_inj, pagesDirectory]
  split
  · rename_i slashes
    rw [all_isSlash_iff] at slashes
    rw [ofString, ofText, partsOf_of_slashes slashes, List.map_nil, eq_comm, Path.mk.injEq,
      and_iff_left rfl]
    exact rootOf_eq_slash_iff slashes
  · rename_i other
    rw [all_isSlash_iff] at other
    refine iff_of_true rfl ⟨fun empty => other ?_, fun slashes => other ?_⟩
    · simp [empty]
    · simp [slashes]

theorem join_eq_join_iff {p p' q : Path} (relative : q.isAbsolute = false) :
    p.join q = p'.join q ↔ p = p' := by
  obtain ⟨root, parts⟩ := p
  obtain ⟨root', parts'⟩ := p'
  simp [join, relative]

/-- A name without slashes that is neither empty nor a dot is a path of one part. -/
theorem ofString_of_single {name : String} (single : '/' ∉ name.toList) (nonempty : name ≠ "")
    (other : name ≠ ".") : ofString name = ⟨.relative, [name]⟩ := by
  have first : name.toList.takeWhile (· == '/') = [] := by
    cases start : name.toList with
    | nil => rfl
    | cons c r =>
        rw [start] at single
        refine List.takeWhile_cons_of_neg ?_
        rw [beq_iff_eq]
        rintro rfl
        exact single List.mem_cons_self
  have whole : Text.splitWhere (· == '/') name.toList = [name.toList] := by
    refine Text.splitWhere_eq_singleton fun c hc => beq_false_of_ne ?_
    rintro rfl
    exact single hc
  have named : name.toList ≠ [] := by simpa using nonempty
  have noDot : name.toList ≠ ['.'] := by
    rw [ne_eq, ← String.toList_inj] at other
    exact other
  rw [ofString, ofText, rootOf_eq_relative_iff.mpr first, partsOf, whole]
  simp [named, noDot]

theorem ofString_fileName {page : Page} (single : '/' ∉ page.commandName.toList) :
    ofString page.fileName = ⟨.relative, [page.fileName]⟩ := by
  have letters : page.fileName.toList = page.commandName.toList ++ ".md".toList :=
    String.toList_append
  have long : 3 ≤ page.fileName.toList.length := by
    rw [letters, List.length_append]
    exact Nat.le_add_left 3 _
  refine ofString_of_single ?_ ?_ ?_
  · rw [letters, List.mem_append, not_or]
    exact ⟨single, by decide⟩
  · intro empty
    rw [empty] at long
    exact absurd long (by decide)
  · intro dot
    rw [dot] at long
    exact absurd long (by decide)

namespace Action

theorem ensureDestination_eq_ok {destination : String} {w w' : Workspace} {path : Path}
    (h : (ensureDestination destination).outcome w = (.ok path, w')) :
    path = ofString destination ∧ w'.tree.isDirectory path = .ok true := by
  unfold ensureDestination at h
  rw [outcome_bind, outcome_get] at h
  dsimp only at h
  rcases made : w.tree.ensureDirectory (ofString destination) with
    ⟨(⟨refusal, shown⟩ | _) | _, tree⟩
  all_goals
    rw [made] at h
    cases h
  exact ⟨rfl, FileTree.isDirectory_of_ensureDirectory made⟩

/-- Pages are written in the directory that is made for them, exactly if the destination is
neither empty nor two slashes; for these they are written in the root. So a page whose command
has no slash in its name is directly in the destination, with the same two exceptions. -/
theorem pages_in_destination_iff {destination : String} {w w' : Workspace} {path : Path}
    (made : (ensureDestination destination).outcome w = (.ok path, w')) :
    w'.tree.isDirectory path = .ok true ∧
    (∀ fileName, (ofString fileName).isAbsolute = false →
      (outputPath destination fileName = path.join (ofString fileName) ↔
        destination ≠ "" ∧ destination ≠ "//") ∧
      (destination = "" ∨ destination = "//" →
        outputPath destination fileName = (ofString "/").join (ofString fileName))) ∧
    ∀ (page : Page) (written : Path) (v v' : Workspace), '/' ∉ page.commandName.toList →
      (writePage destination page).outcome v = (.ok written, v') →
      (written = path.child page.fileName ↔ destination ≠ "" ∧ destination ≠ "//") := by
  obtain ⟨rfl, there⟩ := ensureDestination_eq_ok made
  refine ⟨there, fun fileName relative => ⟨?_, ?_⟩, ?_⟩
  · rw [outputPath_eq_join relative, join_eq_join_iff relative, pagesDirectory_eq_iff]
  · rw [outputPath_eq_join relative, join_eq_join_iff relative]
    rintro (rfl | rfl) <;> exact pagesDirectory_of_slashes (by simp)
  · intro page written v v' single wrote
    obtain ⟨rfl, -⟩ := writePage_eq_ok_iff.mp wrote
    have name := ofString_fileName single
    have relative : (ofString page.fileName).isAbsolute = false := by
      rw [name]
      rfl
    have child : (ofString destination).child page.fileName =
        (ofString destination).join (ofString page.fileName) := by
      rw [name, join_ofParts, Path.child]
    rw [child, outputPath_eq_join relative, join_eq_join_iff relative, pagesDirectory_eq_iff]

/-- A destination with slashes at its end and a dot in it. -/
theorem dotted_destination_holds_page :
    ∃ path w', (ensureDestination "./new/docs//").outcome greetingProject = (.ok path, w') ∧
      w'.tree.isDirectory path = .ok true ∧
      outputPath "./new/docs//" "greet.md" = path.child "greet.md" := by
  have accepted : ((ensureDestination "./new/docs//").outcome greetingProject).1.toOption =
      some ⟨.relative, ["new", "docs"]⟩ := by decide +kernel
  rcases made : (ensureDestination "./new/docs//").outcome greetingProject with ⟨_ | path, w'⟩
  all_goals
    rw [made] at accepted
    cases accepted
  obtain ⟨there, inside, -⟩ := pages_in_destination_iff made
  refine ⟨_, w', rfl, there, ?_⟩
  exact (inside "greet.md" (by decide +kernel)).1.mpr (by decide)

def unnamedProject : Workspace :=
  { greetingProject with
    tree := greetingProject.tree.put ["p", "pyproject.toml"]
      (.file (.text "[tool.manify]\ndestination = \"\"".toList)) }

/-- The destination of the settings is empty, the working directory is found for it, and the
page is written to the root. -/
theorem unnamed_destination_is_left :
    (Settings.load unnamedProject.tree [] none).toOption.map Settings.destination = some "" ∧
      ((ensureDestination "").outcome unnamedProject).1.toOption = some Path.here ∧
      ((generate { destination := "" } {}).outcome unnamedProject).1.toOption.map
        Report.generated = some [⟨.slash, ["greet.md"]⟩] ∧
      outputPath "" "greet.md" ≠ Path.here.join (ofString "greet.md") := by
  refine ⟨?_, ?_, ?_, ?_⟩ <;> decide +kernel

end Action

end CommandManual
