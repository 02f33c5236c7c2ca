import CommandManual.Proofs.Files.Walk
import CommandManual.Proofs.Settings.Layers

/-!
How loading the settings ends when it does not give settings. Most of what can be wrong
with a settings file is blamed on the configuration. `LoadBreach` lists the rest, and
`breaks_load_iff` says that the list is complete: the environment adds nothing to it.
-/

namespace CommandManual

/-! ### Faults that are not blamed on the configuration -/

def Breaks {α : Type} (x : Except Fault α) : Prop :=
  ∃ e, x = .error e ∧ e.isConfiguration = false

section

variable {α β : Type}

@[simp] theorem not_breaks_ok (a : α) : ¬ Breaks (.ok a : Except Fault α) := by
  rintro ⟨e, ⟨⟩, -⟩

@[simp] theorem breaks_error {e : Fault} :
    Breaks (.error e : Except Fault α) ↔ e.isConfiguration = false := by
  simp [Breaks]

theorem breaks_bind {x : Except Fault α} {f : α → Except Fault β} :
    Breaks (x >>= f) ↔ Breaks x ∨ ∃ a, x = .ok a ∧ Breaks (f a) := by
  cases x with
  | error e =>
      show Breaks (.error e : Except Fault β) ↔ _
      simp
  | ok a => simp

theorem breaks_map {x : Except Fault α} {f : α → β} : Breaks (x.map f) ↔ Breaks x := by
  cases x <;> simp [Except.map]

theorem not_breaks_iff {x : Except Fault α} :
    ¬ Breaks x ↔ (∃ a, x = .ok a) ∨
      ∃ component reason, x = .error (.configuration component reason) := by
  rcases x with e | a
  · cases e <;> simp [Fault.isConfiguration]
  · simp

end

namespace Settings

variable {tree : FileTree} {path : Option Path} {env : Environment}

/-! ### Single settings -/

theorem Field.breaks_read_iff {name : String} {v : Value} {f : Field} :
    Breaks (f.read name v) ↔ v.hasLongInteger = true := by
  cases shown : v.hasLongInteger with
  | true => simp [Field.read_of_long shown, Fault.isConfiguration]
  | false =>
      refine iff_of_false ?_ Bool.false_ne_true
      by_cases accepted : f.Accepts v
      · simp [Field.read_of_accepts accepted]
      · obtain ⟨component, reason, failed⟩ := Field.read_of_not_accepts name shown accepted
        simp [failed, Fault.isConfiguration]

/-- Settings that are read one by one break off at a value that is too long to be shown,
if all values before it do for their settings. -/
theorem breaks_readAll_iff {name : String} {v : Field → Value} :
    Breaks (Field.all.mapM fun f => f.read name (v f)) ↔
      ∃ before f after, Field.all = before ++ f :: after ∧
        (∀ g ∈ before, g.Accepts (v g)) ∧ (v f).hasLongInteger = true := by
  have accepts (g : Field) : (∃ u, g.read name (v g) = .ok u) ↔ g.Accepts (v g) := by
    simp [Field.read_eq_ok_iff]
  constructor
  · rintro ⟨e, failed, other⟩
    obtain ⟨before, f, after, split, fine, failed⟩ := mapM_eq_error_iff.mp failed
    refine ⟨before, f, after, split, fun g hg => (accepts g).mp (fine g hg), ?_⟩
    exact Field.breaks_read_iff.mp ⟨e, failed, other⟩
  · rintro ⟨before, f, after, split, fine, long⟩
    obtain ⟨e, failed, other⟩ := Field.breaks_read_iff.mpr long
    refine ⟨e, mapM_eq_error_iff.mpr ⟨before, f, after, split, ?_, failed⟩, other⟩
    exact fun g hg => (accepts g).mpr (fine g hg)

/-- Nothing that the environment gives is too long to be shown. -/
theorem not_breaks_override {s : Settings} (steady : s.Steady) : ¬ Breaks (override env s) := by
  rw [← breaks_map, steady.override, breaks_readAll_iff]
  rintro ⟨before, f, after, -, -, long⟩
  have shown : (f.overlaid env s).hasLongInteger = false := by
    unfold Field.overlaid Field.given?
    cases f.variableName?.bind env.given with
    | some text => rfl
    | none => exact (steady f).1.1
  rw [shown] at long
  cases long

/-! ### Tables and what stands in their place -/

/-- The table has a value that is too long to be shown, and nothing before it is wrong. -/
def Unshown (fields : List (String × Value)) : Prop :=
  Fits fields ∧ ∃ before f after, Field.all = before ++ f :: after ∧
    (∀ g ∈ before, g.Accepts (g.fromTable fields)) ∧ (f.fromTable fields).hasLongInteger = true

theorem breaks_ofTable_iff {fields : List (String × Value)} :
    Breaks (ofTable fields) ↔ Unshown fields := by
  by_cases fits : Fits fields
  · rw [← breaks_map, fits.ofTable, breaks_readAll_iff, Unshown, and_iff_right fits]
  · obtain ⟨component, reason, failed⟩ := ofTable_of_not_fits fits
    simp [failed, Fault.isConfiguration, Unshown, fits]

theorem not_unshown_nil : ¬ Unshown [] := by
  rw [← breaks_ofTable_iff]
  exact not_breaks_ok ({} : Settings)

/-- A table that has such a value is no empty one. -/
theorem Selected.of_unshown {fields : List (String × Value)} (selected : Selected tree path fields)
    (unshown : Unshown fields) :
    ∃ document, readDocument tree (filePath tree path) = .ok document ∧
      Holds (filePath tree path).name document (.table fields) ∧
      (Value.table fields).isTruthy = true := by
  cases selected with
  | absent => exact absurd unshown not_unshown_nil
  | held found read holds stands =>
      cases stands with
      | empty => exact absurd unshown not_unshown_nil
      | table =>
          refine ⟨_, read, holds, ?_⟩
          cases fields with
          | nil => exact absurd unshown not_unshown_nil
          | cons => rfl

/-- What stands in place of the table is taken for keys, one of which is not known: the
characters of a text, or the texts of a list. -/
def ListsUnknownKey : Value → Prop
  | .str text => text ≠ ""
  | .list items => (∀ v ∈ items, ∃ s, v = .str s) ∧ ∃ s, .str s ∈ items ∧ s ∉ keys
  | _ => False

theorem breaks_ofList_iff {items : List Value} :
    Breaks (ofList items : Except Fault Settings) ↔ ¬ ListsUnknownKey (.list items) := by
  unfold ofList
  dsimp only
  split
  · -- A list or a table among the members cannot be a key at all.
    rename_i v found
    have isMember : v ∈ items := List.mem_of_find?_eq_some found
    have compound := List.find?_some found
    refine iff_of_true (breaks_error.mpr rfl) ?_
    rintro ⟨texts, -⟩
    obtain ⟨s, rfl⟩ := texts v isMember
    cases compound
  · split
    · -- With known keys only, the list is used as a table.
      rename_i known
      refine iff_of_true (breaks_error.mpr rfl) ?_
      rintro ⟨-, s, isMember, unknown⟩
      have isKnown : keys.contains s = true := List.all_eq_true.mp known (.str s) isMember
      exact unknown (List.contains_iff_mem.mp isKnown)
    · rename_i unknown
      split
      · rename_i noOthers
        have texts : ∀ v ∈ items, ∃ s, v = .str s := by
          intro v isMember
          have isText := List.filter_eq_nil_iff.mp (List.isEmpty_iff.mp noOthers) v isMember
          cases v with
          | str s => exact ⟨s, rfl⟩
          | _ => exact absurd rfl isText
        obtain ⟨v, isMember, notKnown⟩ := List.all_eq_false.mp (Bool.eq_false_iff.mpr unknown)
        obtain ⟨s, rfl⟩ := texts v isMember
        have listed : ListsUnknownKey (.list items) :=
          ⟨texts, s, isMember, fun isKnown => notKnown (List.contains_iff_mem.mpr isKnown)⟩
        exact iff_of_false (by simp [unknownKeys, Fault.isConfiguration]) (not_not_intro listed)
      · -- Keys that are no texts cannot be listed in the message.
        rename_i others
        refine iff_of_true (breaks_error.mpr rfl) ?_
        rintro ⟨texts, -⟩
        refine others (List.isEmpty_iff.mpr (List.filter_eq_nil_iff.mpr fun v isMember => ?_))
        obtain ⟨s, rfl⟩ := texts v isMember
        exact Bool.false_ne_true

theorem breaks_ofValue_iff {v : Value} (other : ∀ fields, v ≠ .table fields) :
    Breaks (ofValue v) ↔ ¬ ListsUnknownKey v := by
  cases v with
  | table fields => exact absurd rfl (other fields)
  | list items => exact breaks_ofList_iff
  | str text =>
      by_cases empty : text = "" <;>
        simp [ofValue, ofText, unknownKeys, empty, ListsUnknownKey, Fault.isConfiguration]
  | _ => simp [ofValue, ListsUnknownKey, Fault.isConfiguration]

/-! ### Settings files -/

/-- How a settings file ends the loading of settings, when it is not blamed on the
configuration. -/
inductive LoadBreach (tree : FileTree) (path : Option Path) : Prop
  /-- The path of the file has a name in it that is too long to be asked for. -/
  | tooLong (null : FileTree.hasNull (filePath tree path) = false)
      (name : tree.locate .follow (filePath tree path) = .error .nameTooLong)
  /-- The bytes of the file are no text. -/
  | undecodable {content : Content} {e : Utf8.Error}
      (read : tree.read (filePath tree path) = .ok content) (decoded : content.decode = .error e)
  /-- The text of the file has an integer with too many digits. -/
  | longInteger {content : Content} {text : Text} {digits : Nat}
      (read : tree.read (filePath tree path) = .ok content) (decoded : content.decode = .ok text)
      (parsed : Toml.parse text = .error (.longInteger digits))
  /-- The values in the file are nested too deep. -/
  | tooDeep {content : Content} {text : Text}
      (read : tree.read (filePath tree path) = .ok content) (decoded : content.decode = .ok text)
      (parsed : Toml.parse text = .error .tooDeep)
  /-- What the document has under `tool` is no table. -/
  | tool {document : List (String × Value)} {v : Value}
      (read : readDocument tree (filePath tree path) = .ok document)
      (tool : document.lookup "tool" = some v) (other : ∀ tools, v ≠ .table tools)
  /-- What stands in place of the table of settings is none, and is not taken for keys. -/
  | noTable {document : List (String × Value)} {v : Value}
      (read : readDocument tree (filePath tree path) = .ok document)
      (holds : Holds (filePath tree path).name document v) (given : v.isTruthy = true)
      (other : ∀ fields, v ≠ .table fields) (noKeys : ¬ ListsUnknownKey v)
  /-- A setting in the table is an integer, or has one in it, that is too long to be shown. -/
  | unshown {fields : List (String × Value)} (selected : Selected tree path fields)
      (unshown : Unshown fields)

theorem breaks_select_iff {fileName : String} {document : List (String × Value)} :
    Breaks (select fileName document) ↔
      ∃ v, document.lookup "tool" = some v ∧ ∀ tools, v ≠ .table tools := by
  cases tool : document.lookup "tool" with
  | some v =>
      rw [select_of_tool tool]
      cases v <;> simp [tableAt, Fault.isConfiguration]
  | none =>
      by_cases usual : fileName = defaultFile <;> simp [select, tool, usual, tableAt]

theorem readDocument_of_undecodable {file : Path} {content : Content} {e : Utf8.Error}
    (read : tree.read file = .ok content) (decoded : content.decode = .error e) :
    readDocument tree file = .error (.undecodable e) := by
  rw [readDocument, read, Except.mapError, except_ok_bind, decoded]
  rfl

theorem breaks_readDocument_iff {file : Path} {content : Content} {text : Text}
    (read : tree.read file = .ok content) (decoded : content.decode = .ok text) :
    Breaks (readDocument tree file) ↔
      (∃ digits, Toml.parse text = .error (.longInteger digits)) ∨
        Toml.parse text = .error .tooDeep := by
  rw [readDocument, read, Except.mapError, except_ok_bind, decoded, Except.mapError,
    except_ok_bind]
  rcases Toml.parse text with (_ | digits | _) | document <;> simp [Fault.isConfiguration]

theorem exists_read_of_readDocument {file : Path} {document : List (String × Value)}
    (h : readDocument tree file = .ok document) : ∃ content, tree.read file = .ok content := by
  rw [readDocument, except_bind_eq_ok] at h
  obtain ⟨content, read, -⟩ := h
  cases got : tree.read file with
  | ok content => exact ⟨content, rfl⟩
  | error e =>
      rw [got] at read
      cases read

theorem breaks_ofFile_iff {file : Path} :
    Breaks (ofFile tree file) ↔ Breaks (readDocument tree file) ∨
      ∃ document, readDocument tree file = .ok document ∧
        ((∃ v, document.lookup "tool" = some v ∧ ∀ tools, v ≠ .table tools) ∨
          ∃ v, Holds file.name document v ∧ v.isTruthy = true ∧ Breaks (ofValue v)) := by
  rw [ofFile, breaks_bind]
  simp only [breaks_bind, breaks_select_iff, select_eq_ok_iff]
  have given (v : Value) : Breaks (if v.isTruthy then ofValue v else .ok {}) ↔
      v.isTruthy = true ∧ Breaks (ofValue v) := by
    cases v.isTruthy <;> simp
  simp only [given]

theorem breaks_load_iff_ofFile : Breaks (load tree env path) ↔
    (∃ e, tree.isFile (filePath tree path) = .error e) ∨
      tree.isFile (filePath tree path) = .ok true ∧ Breaks (ofFile tree (filePath tree path)) := by
  rw [load_eq, breaks_bind]
  -- What has come from the file can be overridden without a breach.
  have unbroken : ¬ ∃ s, fileSettings tree path = .ok s ∧ Breaks (override env s) := by
    rintro ⟨s, fromFile, broken⟩
    obtain ⟨fields, -, ofFields⟩ := fileSettings_eq_ok_iff.mp fromFile
    exact not_breaks_override (steady_of_ofTable ofFields) broken
  rw [or_iff_left unbroken]
  simp only [fileSettings]
  rcases tree.isFile (filePath tree path) with e | _ | _
  · exact iff_of_true ⟨_, rfl, rfl⟩ (.inl ⟨e, rfl⟩)
  · cases path with
    | none => exact iff_of_false (not_breaks_ok _) (by simp)
    | some path => exact iff_of_false (by rintro ⟨e, ⟨⟩, ⟨⟩⟩) (by simp)
  · show Breaks (ofFile tree (filePath tree path)) ↔ _
    simp

theorem loadBreach_of_breaks_ofFile {content : Content}
    (read : tree.read (filePath tree path) = .ok content)
    (broken : Breaks (ofFile tree (filePath tree path))) : LoadBreach tree path := by
  rcases breaks_ofFile_iff.mp broken with broken | ⟨document, parsed, broken⟩
  · cases decoded : content.decode with
    | error e => exact .undecodable read decoded
    | ok text =>
        rcases (breaks_readDocument_iff read decoded).mp broken with ⟨digits, parsed⟩ | parsed
        · exact .longInteger read decoded parsed
        · exact .tooDeep read decoded parsed
  · rcases broken with ⟨v, tool, other⟩ | ⟨v, holds, given, broken⟩
    · exact .tool parsed tool other
    · by_cases isTable : ∃ fields, v = .table fields
      · obtain ⟨fields, rfl⟩ := isTable
        have found := FileTree.isFile_eq_true_iff.mpr ⟨content, read⟩
        exact .unshown (.held found parsed holds (.table fields)) (breaks_ofTable_iff.mp broken)
      · have other : ∀ fields, v ≠ .table fields := not_exists.mp isTable
        exact .noTable parsed holds given other ((breaks_ofValue_iff other).mp broken)

/-- The environment has no part in it. -/
theorem breaks_load_iff : Breaks (load tree env path) ↔ LoadBreach tree path := by
  rw [breaks_load_iff_ofFile, FileTree.isFile_eq_true_iff, FileTree.isFile,
    FileTree.leadsTo_eq_error_iff]
  constructor
  · rintro (⟨null, name⟩ | ⟨⟨content, read⟩, broken⟩)
    · exact .tooLong null name
    · exact loadBreach_of_breaks_ofFile read broken
  · intro breach
    cases breach with
    | tooLong null name => exact .inl ⟨null, name⟩
    | undecodable read decoded =>
        refine .inr ⟨⟨_, read⟩, breaks_ofFile_iff.mpr (.inl ?_)⟩
        exact ⟨_, readDocument_of_undecodable read decoded, rfl⟩
    | longInteger read decoded parsed =>
        refine .inr ⟨⟨_, read⟩, breaks_ofFile_iff.mpr (.inl ?_)⟩
        exact (breaks_readDocument_iff read decoded).mpr (.inl ⟨_, parsed⟩)
    | tooDeep read decoded parsed =>
        refine .inr ⟨⟨_, read⟩, breaks_ofFile_iff.mpr (.inl ?_)⟩
        exact (breaks_readDocument_iff read decoded).mpr (.inr parsed)
    | tool read tool other =>
        refine .inr ⟨exists_read_of_readDocument read, breaks_ofFile_iff.mpr (.inr ?_)⟩
        exact ⟨_, read, .inl ⟨_, tool, other⟩⟩
    | noTable read holds given other noKeys =>
        refine .inr ⟨exists_read_of_readDocument read, breaks_ofFile_iff.mpr (.inr ?_)⟩
        exact ⟨_, read, .inr ⟨_, holds, given, (breaks_ofValue_iff other).mpr noKeys⟩⟩
    | unshown selected unshown =>
        obtain ⟨document, read, holds, given⟩ := selected.of_unshown unshown
        refine .inr ⟨exists_read_of_readDocument read, breaks_ofFile_iff.mpr (.inr ?_)⟩
        exact ⟨_, read, .inr ⟨_, holds, given, breaks_ofTable_iff.mpr unshown⟩⟩

end Settings

end CommandManual
