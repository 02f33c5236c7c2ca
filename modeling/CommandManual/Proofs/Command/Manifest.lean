import CommandManual.Command.Manifest
import CommandManual.Proofs.Action
import CommandManual.Proofs.Except
import CommandManual.Proofs.Files.Shape

/-!
What comes of reading one manifest. The commands that it declares carry its
directory. Apart from a document with an integer that is too long or with values
that are nested too deep, whatever is wrong with a manifest is a fault of the
configuration, which is what only skips a plugin.
-/

namespace CommandManual

variable {α β : Type}

namespace Manifest

/-! ### The file of a manifest -/

def pathIn (directory : Path) (name : String) : Path := directory.join (Path.ofString name)

theorem sectionIn_of_isFile {tree : FileTree} {directory : Path} {shown name : String}
    (h : tree.isFile (pathIn directory name) = .ok true) :
    sectionIn tree directory shown name = (do
      let text ← readText tree (pathIn directory name)
      extraSection (pathIn directory name) (← readValue (pathIn directory name) text)) := by
  unfold pathIn at h ⊢
  unfold sectionIn
  simp only [h, accessed, mapError_ok, except_ok_bind, Bool.not_true, Bool.false_eq_true,
    if_false]

/-- Of the tree, the commands of a manifest only depend on the manifest. -/
theorem commands_eq_of_access {tree tree' : FileTree} {directory : Path} {name : String}
    (isFile : tree'.isFile (pathIn directory name) = tree.isFile (pathIn directory name))
    (read : tree'.read (pathIn directory name) = tree.read (pathIn directory name)) :
    commands tree' directory name = commands tree directory name := by
  unfold pathIn at isFile read
  unfold commands sectionIn readText
  dsimp only
  rw [isFile, read]

theorem commands_eq_of_stat {tree tree' : FileTree} {directory : Path} {name : String}
    (h : tree'.stat (pathIn directory name) = tree.stat (pathIn directory name)) :
    commands tree' directory name = commands tree directory name := by
  refine commands_eq_of_access ?_ ?_
  · rw [FileTree.isFile, FileTree.isFile, FileTree.leadsTo, FileTree.leadsTo, h]
  · rw [FileTree.read, FileTree.read, h]

/-- Two trees of one shape that hold the same file in the place of a manifest
declare the same commands there. -/
theorem commands_congr {tree tree' : FileTree} (shape : tree.SameShape tree')
    {directory : Path} {name : String}
    (same : ∀ place, tree.locate .follow (pathIn directory name) = .ok place →
      tree'.get? place = tree.get? place) :
    commands tree' directory name = commands tree directory name :=
  commands_eq_of_access (shape.isFile _) (shape.read same)

/-! ### Faults of the configuration -/

def Skippable (x : Except Fault α) : Prop := ∀ e, x = .error e → e.isConfiguration = true

theorem skippable_ok (a : α) : Skippable (.ok a) := by
  intro e h
  cases h

theorem skippable_fault (reason : String) : Skippable (fault reason : Except Fault α) := by
  intro e h
  cases h
  rfl

theorem Skippable.bind {x : Except Fault α} {f : α → Except Fault β} (hx : Skippable x)
    (hf : ∀ a, Skippable (f a)) : Skippable (x >>= f) := by
  intro e h
  rcases except_bind_eq_error.mp h with h | ⟨a, -, h⟩
  · exact hx e h
  · exact hf a e h

theorem Skippable.mapM {f : α → Except Fault β} (h : ∀ a, Skippable (f a)) (xs : List α) :
    Skippable (xs.mapM f) := by
  intro e he
  obtain ⟨x, -, hx⟩ := exists_of_mapM_eq_error he
  exact h x e hx

theorem skippable_readText (tree : FileTree) (path : Path) : Skippable (readText tree path) := by
  unfold readText
  split
  · exact skippable_fault _
  · split
    · exact skippable_fault _
    · exact skippable_ok _

theorem skippable_extraSection (path : Path) (v : Value) : Skippable (extraSection path v) := by
  unfold extraSection
  split
  · split
    · exact skippable_ok _
    · exact skippable_fault _
  · exact skippable_fault _

theorem skippable_listedCommand (directory : Path) (entry : Value) :
    Skippable (listedCommand directory entry) := by
  unfold listedCommand
  dsimp only
  split
  · split
    · exact skippable_fault _
    · exact skippable_ok _
  · exact skippable_fault _

theorem skippable_keyedClass (key : String) (fields : List (String × Value)) :
    Skippable (keyedClass key fields) := by
  unfold keyedClass
  split
  · split
    · exact skippable_fault _
    · exact skippable_ok _
  · exact skippable_fault _

theorem skippable_keyedFile (key : String) (fields : List (String × Value)) :
    Skippable (keyedFile key fields) := by
  unfold keyedFile
  split
  · exact skippable_ok _
  · exact skippable_ok _
  · split
    · exact skippable_fault _
    · exact skippable_ok _
  · exact skippable_fault _

theorem skippable_keyedName (key : String) (fields : List (String × Value)) :
    Skippable (keyedName key fields) := by
  have checked (s : String) : Skippable
      (if s = "" then keyedFault key "has an invalid 'command'" else .ok s) := by
    split
    · exact skippable_fault _
    · exact skippable_ok _
  unfold keyedName
  dsimp only
  split
  · exact checked key
  · exact checked key
  · exact checked _
  · exact skippable_fault _

theorem skippable_keyedCommand (directory : Path) (key : String) (config : Value) :
    Skippable (keyedCommand directory key config) := by
  unfold keyedCommand
  split
  · refine .bind (skippable_keyedClass key _) fun _ => ?_
    refine .bind (skippable_keyedFile key _) fun _ => ?_
    exact .bind (skippable_keyedName key _) fun _ => skippable_ok _
  · exact skippable_fault _

theorem skippable_declared (directory : Path) (extra : List (String × Value)) :
    Skippable (declared directory extra) := by
  have listed (v : Value) : Skippable (listedCommands directory v) := by
    unfold listedCommands
    split
    · exact .mapM (skippable_listedCommand directory) _
    · exact skippable_fault _
  have keyed (v : Value) : Skippable (keyedCommands directory v) := by
    unfold keyedCommands
    split
    · exact .mapM (fun (key, config) => skippable_keyedCommand directory key config) _
    · exact skippable_fault _
  unfold declared
  refine .bind ?_ fun _ => .bind ?_ fun _ => skippable_ok _
  · cases extra.lookup "commands" with
    | none => exact skippable_ok _
    | some v => exact listed v
  · cases extra.lookup "wp-cli-commands" with
    | none => exact skippable_ok _
    | some v => exact keyed v

/-! ### Documents that go too far -/

/-- The text of a manifest holds an integer that is too long, or values that are
nested too deep. -/
def Excessive (tree : FileTree) (directory : Path) (name : String) : Prop :=
  ∃ text, readText tree (pathIn directory name) = .ok text ∧
    ((∃ digits, Json.parse nestingLimit text = .error (.longInteger digits)) ∨
      ∃ nesting, Json.parse nestingLimit text = .error (.tooDeep nesting))

theorem readValue_breach_iff {path : Path} {text : Text} :
    (∃ e, readValue path text = .error e ∧ e.isConfiguration = false) ↔
      (∃ digits, Json.parse nestingLimit text = .error (.longInteger digits)) ∨
        ∃ nesting, Json.parse nestingLimit text = .error (.tooDeep nesting) := by
  unfold readValue
  rcases Json.parse nestingLimit text with (⟨problem, position⟩ | digits | nesting) | v <;>
    simp [fault, Fault.isConfiguration]

/-- The only faults of a manifest that are none of the configuration come from a
document that goes too far. -/
theorem commands_breach_iff {tree : FileTree} {directory : Path} {name : String}
    (isFile : tree.isFile (pathIn directory name) = .ok true) :
    (∃ e, commands tree directory name = .error e ∧ e.isConfiguration = false) ↔
      Excessive tree directory name := by
  unfold commands
  rw [sectionIn_of_isFile isFile]
  simp only [Excessive, ← @readValue_breach_iff (pathIn directory name)]
  constructor
  · rintro ⟨e, h, other⟩
    -- No step but the reading of the document can give such a fault.
    have skips {α : Type} {x : Except Fault α} (hx : Skippable x) : x ≠ .error e := by
      intro he
      rw [hx e he] at other
      cases other
    rcases except_bind_eq_error.mp h with h | ⟨extra, -, h⟩
    · rcases except_bind_eq_error.mp h with h | ⟨text, htext, h⟩
      · exact absurd h (skips (skippable_readText _ _))
      · rcases except_bind_eq_error.mp h with h | ⟨v, -, h⟩
        · exact ⟨text, htext, e, h, other⟩
        · exact absurd h (skips (skippable_extraSection _ v))
    · exact absurd h (skips (skippable_declared directory extra))
  · rintro ⟨text, htext, e, h, other⟩
    refine ⟨e, except_bind_eq_error.mpr (.inl ?_), other⟩
    refine except_bind_eq_error.mpr (.inr ⟨text, htext, ?_⟩)
    exact except_bind_eq_error.mpr (.inl h)

/-! ### The directory of a command -/

theorem baseDirectory_of_listedCommand {directory : Path} {entry : Value} {d : Descriptor}
    (h : listedCommand directory entry = .ok d) : d.baseDirectory = directory := by
  unfold listedCommand at h
  dsimp only at h
  split at h
  · split at h
    · cases h
    · cases h
      rfl
  · cases h

theorem baseDirectory_of_keyedCommand {directory : Path} {key : String} {config : Value}
    {d : Descriptor} (h : keyedCommand directory key config = .ok d) :
    d.baseDirectory = directory := by
  unfold keyedCommand at h
  split at h
  · obtain ⟨className, -, h⟩ := except_bind_eq_ok.mp h
    obtain ⟨sourceFile, -, h⟩ := except_bind_eq_ok.mp h
    obtain ⟨commandName, -, h⟩ := except_bind_eq_ok.mp h
    cases h
    rfl
  · cases h

theorem baseDirectory_of_mapM {f : α → Except Fault Descriptor} {directory : Path}
    (hf : ∀ a d, f a = .ok d → d.baseDirectory = directory) {xs : List α}
    {ds : List Descriptor} (h : xs.mapM f = .ok ds) : ∀ d ∈ ds, d.baseDirectory = directory := by
  have pairs := mapM_eq_ok_iff.mp h
  clear h
  induction pairs with
  | nil =>
      intro d hd
      cases hd
  | cons hx _ ih =>
      intro d hd
      rcases List.mem_cons.mp hd with rfl | hd
      · exact hf _ _ hx
      · exact ih d hd

theorem baseDirectory_of_declared {directory : Path} {extra : List (String × Value)}
    {ds : List Descriptor} (h : declared directory extra = .ok ds) :
    ∀ d ∈ ds, d.baseDirectory = directory := by
  obtain ⟨listed, hlisted, h⟩ := except_bind_eq_ok.mp h
  obtain ⟨keyed, hkeyed, h⟩ := except_bind_eq_ok.mp h
  cases h
  intro d hd
  rcases List.mem_append.mp hd with hd | hd
  · cases hv : extra.lookup "commands" with
    | none =>
        rw [hv] at hlisted
        cases hlisted
        cases hd
    | some v =>
        rw [hv] at hlisted
        cases v with
        | list entries =>
            exact baseDirectory_of_mapM (fun _ _ => baseDirectory_of_listedCommand) hlisted d hd
        | _ => cases hlisted
  · cases hv : extra.lookup "wp-cli-commands" with
    | none =>
        rw [hv] at hkeyed
        cases hkeyed
        cases hd
    | some v =>
        rw [hv] at hkeyed
        cases v with
        | table fields =>
            exact baseDirectory_of_mapM (fun _ _ => baseDirectory_of_keyedCommand) hkeyed d hd
        | _ => cases hkeyed

/-- A manifest declares commands of its own directory. -/
theorem baseDirectory_of_commands {tree : FileTree} {directory : Path} {name : String}
    {ds : List Descriptor} (h : commands tree directory name = .ok ds) :
    ∀ d ∈ ds, d.baseDirectory = directory := by
  obtain ⟨extra, -, h⟩ := except_bind_eq_ok.mp h
  exact baseDirectory_of_declared h

end Manifest

end CommandManual
