import CommandManual.Proofs.Command.Project
import CommandManual.Proofs.Data.Json
import CommandManual.Proofs.Text.Blanks

/-!
The grammar of manifests. A section declares commands by a list of texts and by a table
of objects. `Grammatical` says which sections are accepted, and `ListedAs` and `KeyedAs`
say what an entry comes to; one entry outside the grammar is a fault of the whole
manifest.
-/

namespace CommandManual.Manifest

variable {directory : Path} {key : String} {fields extra : List (String × Value)}

/-! ### The grammar -/

def Listed : Value → Prop
  | .str s => ∃ c ∈ s.toList, Text.isBlank c = false
  | _ => False

def Gives (fields : List (String × Value)) (key s : String) : Prop :=
  fields.lookup key = some (.str s) ∧ s ≠ ""

def Omits (fields : List (String × Value)) (key : String) : Prop :=
  fields.lookup key = none ∨ fields.lookup key = some .null

/-- An entry of the table is an object with a class. It may name a file, and it names
the command unless its key does. -/
def Keyed (key : String) : Value → Prop
  | .table fields =>
    (∃ s, Gives fields "class" s) ∧
      (Omits fields "file" ∨ ∃ s, Gives fields "file" s) ∧
      ((∃ s, Gives fields "command" s) ∨ Omits fields "command" ∧ key ≠ "")
  | _ => False

/-- A section that declares commands: both the list and the table may be missing. -/
structure Grammatical (extra : List (String × Value)) : Prop where
  list : extra.lookup "commands" = none ∨
    ∃ entries, extra.lookup "commands" = some (.list entries) ∧ ∀ entry ∈ entries, Listed entry
  table : extra.lookup "wp-cli-commands" = none ∨
    ∃ entries, extra.lookup "wp-cli-commands" = some (.table entries) ∧
      ∀ entry ∈ entries, Keyed entry.1 entry.2

/-! ### What entries come to -/

inductive ListedAs (directory : Path) : Value → Descriptor → Prop
  | intro {s : String} {word : Text} (name : Text.FirstWord s.toList word) :
    ListedAs directory (.str s)
      { commandName := String.ofList word
        className := ""
        sourceFile := none
        baseDirectory := directory }

inductive FileOf (fields : List (String × Value)) : Option Path → Prop
  | omitted (h : Omits fields "file") : FileOf fields none
  | given {s : String} (h : Gives fields "file" s) : FileOf fields (some (Path.ofString s))

inductive NameOf (key : String) (fields : List (String × Value)) : String → Prop
  | given {s : String} (h : Gives fields "command" s) : NameOf key fields s
  | key (h : Omits fields "command") (nonempty : key ≠ "") : NameOf key fields key

/-- An entry of the table comes to a command with the class, the file and the name that
it gives. -/
inductive KeyedAs (directory : Path) : String × Value → Descriptor → Prop
  | intro {key className commandName : String} {sourceFile : Option Path}
    {fields : List (String × Value)} (gives : Gives fields "class" className)
    (file : FileOf fields sourceFile) (name : NameOf key fields commandName) :
    KeyedAs directory (key, .table fields)
      { commandName, className, sourceFile, baseDirectory := directory }

/-! ### Entries of the list -/

theorem exists_listedCommand_iff {entry : Value} :
    (∃ d, listedCommand directory entry = .ok d) ↔ Listed entry := by
  cases entry with
  | str s =>
      have blank := Text.words_eq_nil_iff (t := s.toList)
      cases h : Text.words s.toList with
      | nil => simpa [listedCommand, Listed, fault, h] using blank.mp h
      | cons word others => simpa [listedCommand, Listed, h] using blank
  | _ => simp [listedCommand, Listed, fault]

theorem listedAs_of_listedCommand {entry : Value} {d : Descriptor}
    (h : listedCommand directory entry = .ok d) : ListedAs directory entry d := by
  cases entry with
  | str s =>
      cases hwords : Text.words s.toList with
      | nil => simp [listedCommand, hwords, fault] at h
      | cons word others =>
          simp only [listedCommand, hwords, Except.ok.injEq] at h
          subst h
          exact .intro (Text.firstWord_of_words hwords)
  | _ => simp [listedCommand, fault] at h

/-! ### Entries of the table -/

/-- An empty text is a fault of the command. -/
theorem ite_keyedFault_eq_ok_iff {α : Type} {s problem : String} {a b : α} :
    (if s = "" then keyedFault key problem else .ok a) = .ok b ↔ s ≠ "" ∧ a = b := by
  split
  · simp [*, keyedFault, fault]
  · simp [*]

theorem keyedClass_eq_ok_iff {s : String} :
    keyedClass key fields = .ok s ↔ Gives fields "class" s := by
  unfold keyedClass
  constructor
  · intro h
    split at h
    · rename_i found
      obtain ⟨nonempty, rfl⟩ := ite_keyedFault_eq_ok_iff.mp h
      exact ⟨found, nonempty⟩
    · cases h
  · rintro ⟨found, nonempty⟩
    simp [found, nonempty]

theorem keyedFile_eq_ok_iff {file : Option Path} :
    keyedFile key fields = .ok file ↔ FileOf fields file := by
  unfold keyedFile
  constructor
  · intro h
    split at h
    · rename_i found
      cases h
      exact .omitted (.inl found)
    · rename_i found
      cases h
      exact .omitted (.inr found)
    · rename_i found
      obtain ⟨nonempty, rfl⟩ := ite_keyedFault_eq_ok_iff.mp h
      exact .given ⟨found, nonempty⟩
    · cases h
  · intro h
    cases h with
    | omitted h => rcases h with h | h <;> simp [h]
    | given h => simp [h.1, h.2]

theorem keyedName_eq_ok_iff {s : String} :
    keyedName key fields = .ok s ↔ NameOf key fields s := by
  unfold keyedName
  constructor
  · intro h
    dsimp only at h
    split at h
    · rename_i found
      obtain ⟨nonempty, rfl⟩ := ite_keyedFault_eq_ok_iff.mp h
      exact .key (.inl found) nonempty
    · rename_i found
      obtain ⟨nonempty, rfl⟩ := ite_keyedFault_eq_ok_iff.mp h
      exact .key (.inr found) nonempty
    · rename_i found
      obtain ⟨nonempty, rfl⟩ := ite_keyedFault_eq_ok_iff.mp h
      exact .given ⟨found, nonempty⟩
    · cases h
  · intro h
    cases h with
    | given h => simp [h.1, h.2]
    | key h nonempty => rcases h with h | h <;> simp [h, nonempty]

theorem keyedCommand_eq_ok_iff {entry : Value} {d : Descriptor} :
    keyedCommand directory key entry = .ok d ↔ KeyedAs directory (key, entry) d := by
  cases entry with
  | table fields =>
      simp only [keyedCommand, except_bind_eq_ok, keyedClass_eq_ok_iff, keyedFile_eq_ok_iff,
        keyedName_eq_ok_iff]
      constructor
      · rintro ⟨className, gives, sourceFile, file, commandName, name, h⟩
        cases h
        exact .intro gives file name
      · rintro ⟨gives, file, name⟩
        exact ⟨_, gives, _, file, _, name, rfl⟩
  | _ =>
      constructor
      · intro h
        cases h
      · intro h
        cases h

theorem exists_fileOf_iff :
    (∃ file, FileOf fields file) ↔ Omits fields "file" ∨ ∃ s, Gives fields "file" s := by
  constructor
  · rintro ⟨file, h | h⟩
    · exact .inl h
    · exact .inr ⟨_, h⟩
  · rintro (h | ⟨s, h⟩)
    · exact ⟨_, .omitted h⟩
    · exact ⟨_, .given h⟩

theorem exists_nameOf_iff :
    (∃ name, NameOf key fields name) ↔
      (∃ s, Gives fields "command" s) ∨ Omits fields "command" ∧ key ≠ "" := by
  constructor
  · rintro ⟨name, h | ⟨h, nonempty⟩⟩
    · exact .inl ⟨_, h⟩
    · exact .inr ⟨h, nonempty⟩
  · rintro (⟨s, h⟩ | ⟨h, nonempty⟩)
    · exact ⟨_, .given h⟩
    · exact ⟨_, .key h nonempty⟩

theorem exists_keyedCommand_iff {entry : Value} :
    (∃ d, keyedCommand directory key entry = .ok d) ↔ Keyed key entry := by
  simp only [keyedCommand_eq_ok_iff]
  cases entry with
  | table fields =>
      rw [Keyed, ← exists_fileOf_iff, ← exists_nameOf_iff]
      constructor
      · rintro ⟨d, gives, file, name⟩
        exact ⟨⟨_, gives⟩, ⟨_, file⟩, ⟨_, name⟩⟩
      · rintro ⟨⟨className, gives⟩, ⟨sourceFile, file⟩, ⟨commandName, name⟩⟩
        exact ⟨_, .intro gives file name⟩
  | _ =>
      constructor
      · rintro ⟨d, h⟩
        cases h
      · exact False.elim

/-! ### Sections -/

def listEntries (extra : List (String × Value)) : List Value :=
  match extra.lookup "commands" with
  | some (.list entries) => entries
  | _ => []

def tableEntries (extra : List (String × Value)) : List (String × Value) :=
  match extra.lookup "wp-cli-commands" with
  | some (.table entries) => entries
  | _ => []

/-- A part of a section that may be missing. -/
theorem part_eq_ok_iff {α : Type} {part : Option Value} {wrap : List α → Value}
    {read : Value → Except Fault (List Descriptor)} {readEntry : α → Except Fault Descriptor}
    {ds : List Descriptor} (reads : ∀ entries, read (wrap entries) = entries.mapM readEntry)
    (wraps : ∀ v ds, read v = .ok ds → ∃ entries, v = wrap entries) :
    (part.map read).getD (.ok []) = .ok ds ↔
      part = none ∧ ds = [] ∨
        ∃ entries, part = some (wrap entries) ∧ entries.mapM readEntry = .ok ds := by
  cases part with
  | none => simp [eq_comm]
  | some v =>
      simp only [Option.map_some, Option.getD_some]
      constructor
      · intro h
        obtain ⟨entries, rfl⟩ := wraps v ds h
        exact .inr ⟨entries, rfl, (reads entries).symm.trans h⟩
      · rintro (⟨h, -⟩ | ⟨entries, h, hread⟩)
        · cases h
        · cases h
          exact (reads entries).trans hread

theorem listedPart_eq_ok_iff {ds : List Descriptor} :
    ((extra.lookup "commands").map (listedCommands directory)).getD (.ok []) = .ok ds ↔
      extra.lookup "commands" = none ∧ ds = [] ∨
        ∃ entries, extra.lookup "commands" = some (.list entries) ∧
          entries.mapM (listedCommand directory) = .ok ds := by
  refine part_eq_ok_iff (fun _ => rfl) fun v ds h => ?_
  cases v with
  | list entries => exact ⟨entries, rfl⟩
  | _ => cases h

theorem keyedPart_eq_ok_iff {ds : List Descriptor} :
    ((extra.lookup "wp-cli-commands").map (keyedCommands directory)).getD (.ok []) = .ok ds ↔
      extra.lookup "wp-cli-commands" = none ∧ ds = [] ∨
        ∃ entries, extra.lookup "wp-cli-commands" = some (.table entries) ∧
          entries.mapM (fun entry => keyedCommand directory entry.1 entry.2) = .ok ds := by
  refine part_eq_ok_iff (fun _ => rfl) fun v ds h => ?_
  cases v with
  | table entries => exact ⟨entries, rfl⟩
  | _ => cases h

theorem declared_eq_ok_iff {ds : List Descriptor} :
    declared directory extra = .ok ds ↔ ∃ listed keyed, ds = listed ++ keyed ∧
      ((extra.lookup "commands").map (listedCommands directory)).getD (.ok []) = .ok listed ∧
      ((extra.lookup "wp-cli-commands").map (keyedCommands directory)).getD (.ok []) =
        .ok keyed := by
  unfold declared
  rw [except_bind_eq_ok]
  constructor
  · rintro ⟨listed, hlisted, h⟩
    obtain ⟨keyed, hkeyed, h⟩ := except_bind_eq_ok.mp h
    cases h
    exact ⟨listed, keyed, rfl, hlisted, hkeyed⟩
  · rintro ⟨listed, keyed, rfl, hlisted, hkeyed⟩
    exact ⟨listed, hlisted, except_bind_eq_ok.mpr ⟨keyed, hkeyed, rfl⟩⟩

/-- A section is accepted exactly if it is in the grammar. -/
theorem exists_declared_iff (directory : Path) :
    (∃ ds, declared directory extra = .ok ds) ↔ Grammatical extra := by
  have listed : (∃ ds, ((extra.lookup "commands").map (listedCommands directory)).getD (.ok []) =
      .ok ds) ↔ extra.lookup "commands" = none ∨ ∃ entries,
        extra.lookup "commands" = some (.list entries) ∧ ∀ entry ∈ entries, Listed entry := by
    simp only [listedPart_eq_ok_iff, exists_or, exists_and_left, exists_eq, and_true]
    rw [exists_comm]
    simp only [exists_and_left, exists_mapM_eq_ok_iff, exists_listedCommand_iff]
  have keyed : (∃ ds, ((extra.lookup "wp-cli-commands").map (keyedCommands directory)).getD
      (.ok []) = .ok ds) ↔ extra.lookup "wp-cli-commands" = none ∨ ∃ entries,
        extra.lookup "wp-cli-commands" = some (.table entries) ∧
          ∀ entry ∈ entries, Keyed entry.1 entry.2 := by
    simp only [keyedPart_eq_ok_iff, exists_or, exists_and_left, exists_eq, and_true]
    rw [exists_comm]
    simp only [exists_and_left, exists_mapM_eq_ok_iff, exists_keyedCommand_iff]
  simp only [declared_eq_ok_iff]
  constructor
  · rintro ⟨_, ds, ds', -, h, h'⟩
    exact ⟨listed.mp ⟨ds, h⟩, keyed.mp ⟨ds', h'⟩⟩
  · rintro ⟨list, table⟩
    obtain ⟨ds, h⟩ := listed.mpr list
    obtain ⟨ds', h'⟩ := keyed.mpr table
    exact ⟨_, ds, ds', rfl, h, h'⟩

/-- Every entry comes to one command, those of the list first. -/
theorem entries_of_declared {ds : List Descriptor} (h : declared directory extra = .ok ds) :
    ∃ listed keyed, ds = listed ++ keyed ∧
      List.Forall₂ (ListedAs directory) (listEntries extra) listed ∧
      List.Forall₂ (KeyedAs directory) (tableEntries extra) keyed := by
  obtain ⟨listed, keyed, rfl, hlisted, hkeyed⟩ := declared_eq_ok_iff.mp h
  refine ⟨listed, keyed, rfl, ?_, ?_⟩
  · rcases listedPart_eq_ok_iff.mp hlisted with ⟨none, rfl⟩ | ⟨entries, found, read⟩
    · simp [listEntries, none]
    · simp only [listEntries, found]
      exact (mapM_eq_ok_iff.mp read).imp fun _ _ => listedAs_of_listedCommand
  · rcases keyedPart_eq_ok_iff.mp hkeyed with ⟨none, rfl⟩ | ⟨entries, found, read⟩
    · simp [tableEntries, none]
    · simp only [tableEntries, found]
      exact (mapM_eq_ok_iff.mp read).imp fun _ _ => keyedCommand_eq_ok_iff.mp

/-! ### Manifests -/

variable {tree : FileTree} {name : String} {text : Text}

theorem result_read (tree : FileTree) (directory : Path) (name : String) :
    (read tree directory name).result = commands tree directory name :=
  run_read_fst tree directory name []

theorem isFile_of_readText {path : Path} (h : readText tree path = .ok text) :
    tree.isFile path = .ok true := by
  rw [FileTree.isFile_eq_true_iff]
  unfold readText at h
  split at h
  · cases h
  · rename_i content hread
    exact ⟨content, hread⟩

/-- A manifest with a section declares what the section does. -/
theorem commands_eq_declared (hread : readText tree (pathIn directory name) = .ok text)
    (hparse : Json.parse nestingLimit text = .ok (.table fields))
    (hextra : fields.lookup "extra" = some (.table extra)) :
    commands tree directory name = declared directory extra := by
  have isFile := isFile_of_readText hread
  have hvalue : readValue (pathIn directory name) text = .ok (.table fields) := by
    simp [readValue, hparse]
  have hsection : extraSection (pathIn directory name) (.table fields) = .ok extra := by
    simp [extraSection, hextra]
  rw [commands, sectionIn_of_isFile isFile, hread, except_ok_bind, hvalue, except_ok_bind,
    hsection, except_ok_bind]

/-- A manifest whose document stands for an object with a section is accepted exactly if
the section is in the grammar, and anything else there is a fault of the configuration.
Every entry of an accepted section comes to one command, those of the list first and then
those of the table, whose keys are in the order of their first places in the document and
have the values that are written last. -/
theorem read_accepts_grammar {document : Value}
    (hread : readText tree (pathIn directory name) = .ok text)
    (hwritten : Json.parseWritten nestingLimit text = .ok document)
    (hdecoded : Json.decoded document = .table fields)
    (hextra : fields.lookup "extra" = some (.table extra)) :
    ((∃ ds, (read tree directory name).result = .ok ds) ↔ Grammatical extra) ∧
      (¬ Grammatical extra → ∃ component reason,
        (read tree directory name).result = .error (.configuration component reason)) ∧
      ∀ ds, (read tree directory name).result = .ok ds →
        ∃ listed keyed, ds = listed ++ keyed ∧
          List.Forall₂ (ListedAs directory) (listEntries extra) listed ∧
          List.Forall₂ (KeyedAs directory) (tableEntries extra) keyed := by
  have hparse : Json.parse nestingLimit text = .ok (.table fields) := by
    rw [Json.parse_eq_map_decoded, hwritten, except_map_ok, hdecoded]
  rw [result_read, commands_eq_declared hread hparse hextra]
  refine ⟨exists_declared_iff directory, fun outside => ?_, fun ds => entries_of_declared⟩
  -- Outside the grammar there is a fault, and a section has none but those of the configuration.
  rw [← exists_declared_iff directory] at outside
  rcases h : declared directory extra with e | ds
  · cases e with
    | configuration component reason => exact ⟨component, reason, rfl⟩
    | _ => cases skippable_declared directory extra _ h
  · exact absurd ⟨ds, h⟩ outside

def repeatedManifest : Text :=
  "\x7b\"extra\": \x7b\"wp-cli-commands\": \x7b\"b\": \x7b\"class\": \"A\"\x7d, ".toList ++
    "\"a\": \x7b\"class\": \"B\", \"file\": \"./x.py\"\x7d, ".toList ++
    "\"b\": \x7b\"class\": \"C\"\x7d\x7d, \"commands\": [\" greet hello\"]\x7d\x7d".toList

def repeatedProject : FileTree where
  entries := [(["p"], .directory), (["p", "composer.json"], .file (.text repeatedManifest))]
  here := ["p"]

def repeatedEntries : List (String × Value) :=
  [("b", .table [("class", .str "C")]),
    ("a", .table [("class", .str "B"), ("file", .str "./x.py")])]

def repeatedSection : List (String × Value) :=
  [("wp-cli-commands", .table repeatedEntries), ("commands", .list [.str " greet hello"])]

theorem readText_of_repeatedProject :
    readText repeatedProject (pathIn Path.here defaultName) = .ok repeatedManifest :=
  eq_ok_of_toOption (by decide +kernel)

set_option maxRecDepth 4000 in
theorem parseWritten_of_repeatedManifest :
    Json.parseWritten nestingLimit repeatedManifest = .ok (.table [("extra", .table
      [("wp-cli-commands", .table
          [("b", .table [("class", .str "A")]),
            ("a", .table [("class", .str "B"), ("file", .str "./x.py")]),
            ("b", .table [("class", .str "C")])]),
        ("commands", .list [.str " greet hello"])])]) := by
  rfl

theorem grammatical_of_repeatedSection : Grammatical repeatedSection := by
  refine ⟨.inr ⟨_, rfl, ?_⟩, .inr ⟨_, rfl, ?_⟩⟩
  · simp only [List.forall_mem_singleton]
    exact ⟨'g', by decide, by decide⟩
  · simp only [repeatedEntries, List.forall_mem_cons]
    refine ⟨⟨⟨"C", rfl, by decide⟩, .inl (.inl rfl), .inr ⟨.inl rfl, by decide⟩⟩, ?_, by simp⟩
    exact ⟨⟨"B", rfl, by decide⟩, .inr ⟨"./x.py", rfl, by decide⟩, .inr ⟨.inl rfl, by decide⟩⟩

theorem repeated_keys_accepted : ∃ listed keyed,
    (read repeatedProject Path.here defaultName).result = .ok (listed ++ keyed) ∧
      List.Forall₂ (ListedAs Path.here) [.str " greet hello"] listed ∧
      List.Forall₂ (KeyedAs Path.here) repeatedEntries keyed := by
  have held : [("extra", Value.table repeatedSection)].lookup "extra" =
      some (.table repeatedSection) := rfl
  obtain ⟨accepted, -, entries⟩ := read_accepts_grammar readText_of_repeatedProject
    parseWritten_of_repeatedManifest rfl held
  obtain ⟨ds, h⟩ := accepted.mpr grammatical_of_repeatedSection
  obtain ⟨listed, keyed, rfl, parts⟩ := entries ds h
  exact ⟨listed, keyed, h, parts⟩

end CommandManual.Manifest
