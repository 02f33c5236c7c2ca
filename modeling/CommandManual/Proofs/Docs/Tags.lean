import CommandManual.Proofs.Docs.Descriptions

/-!
The tag that names a subcommand. A tag counts from where a word follows it after blanks, so
one that is part of a longer word, ends the text or has only blanks after it is passed over.
The first tag that counts gives the name, and without one the method keeps its own.
-/

namespace CommandManual.Docblock

/-! ### Words after blanks -/

/-- A text that starts with blanks and a word, after which it ends or has another blank. -/
structure StartsWithWord (t word : Text) : Prop where
  nonempty : word ≠ []
  solid : ∀ c ∈ word, Text.isBlank c = false
  parts : ∃ blanks rest, t = blanks ++ word ++ rest ∧ blanks ≠ [] ∧
    (∀ c ∈ blanks, Text.isBlank c = true) ∧ ∀ c, rest.head? = some c → Text.isBlank c = true

theorem wordAfterBlanks_eq {blanks word rest : Text}
    (leading : ∀ c ∈ blanks, Text.isBlank c = true) (nonempty : word ≠ [])
    (solid : ∀ c ∈ word, Text.isBlank c = false)
    (ends : ∀ c, rest.head? = some c → Text.isBlank c = true) :
    wordAfterBlanks (blanks ++ word ++ rest) = word := by
  have skipped : (blanks ++ word ++ rest).dropWhile Text.isBlank = word ++ rest := by
    obtain ⟨c, r, rfl⟩ := List.exists_cons_of_ne_nil nonempty
    rw [List.append_assoc, List.dropWhile_append_of_pos leading]
    exact List.dropWhile_cons_of_neg (by simp [solid c List.mem_cons_self])
  have stops : rest.takeWhile (fun c => !Text.isBlank c) = [] := by
    cases rest with
    | nil => rfl
    | cons c r => exact List.takeWhile_cons_of_neg (by simp [ends c rfl])
  rw [wordAfterBlanks, skipped, Text.takeWhile_append_of_stop stops,
    List.takeWhile_eq_self_iff.mpr fun c hc => by simp [solid c hc]]

theorem exists_eq_wordAfterBlanks (t : Text) :
    ∃ blanks rest, t = blanks ++ wordAfterBlanks t ++ rest ∧
      (∀ c ∈ blanks, Text.isBlank c = true) ∧
      (∀ c ∈ wordAfterBlanks t, Text.isBlank c = false) ∧
      ∀ c, rest.head? = some c → Text.isBlank c = true := by
  let later := t.dropWhile Text.isBlank
  refine ⟨t.takeWhile Text.isBlank, later.dropWhile fun c => !Text.isBlank c, ?_, ?_, ?_, ?_⟩
  · rw [wordAfterBlanks, List.append_assoc, List.takeWhile_append_dropWhile,
      List.takeWhile_append_dropWhile]
  · exact fun c hc => List.mem_takeWhile_imp hc
  · exact fun c hc => by simpa using List.mem_takeWhile_imp hc
  · intro c first
    simpa [first] using List.head?_dropWhile_not (fun c => !Text.isBlank c) later

theorem valueIn?_eq_some_iff {t value : Text} :
    valueIn? t = some value ↔ StartsWithWord t value := by
  constructor
  · intro found
    cases t with
    | nil => cases found
    | cons b r =>
        obtain ⟨⟨blank, nonempty⟩, rfl⟩ : (Text.isBlank b = true ∧ wordAfterBlanks r ≠ []) ∧
            wordAfterBlanks r = value := by
          simpa [valueIn?] using found
        obtain ⟨blanks, rest, split, leading, solid, ends⟩ := exists_eq_wordAfterBlanks r
        refine ⟨nonempty, solid, b :: blanks, rest, ?_, List.cons_ne_nil _ _, ?_, ends⟩
        · conv_lhs => rw [split]
          rfl
        · exact List.forall_mem_cons.mpr ⟨blank, leading⟩
  · rintro ⟨nonempty, solid, blanks, rest, rfl, some, leading, ends⟩
    obtain ⟨b, bs, rfl⟩ := List.exists_cons_of_ne_nil some
    obtain ⟨blank, leading⟩ := List.forall_mem_cons.mp leading
    have word := wordAfterBlanks_eq leading nonempty solid ends
    rw [List.cons_append, List.cons_append, valueIn?, word]
    simp [blank, nonempty]

/-! ### Tags that count -/

def TagAt (t before value : Text) : Prop :=
  ∃ later, t = before ++ subcommandTag ++ later ∧ StartsWithWord later value

structure FirstTag (t before value : Text) : Prop where
  tag : TagAt t before value
  first : ∀ before' value', TagAt t before' value' → before.length ≤ before'.length

theorem tagValue?_eq_some_iff {t value : Text} : tagValue? t = some value ↔ TagAt t [] value := by
  rw [tagValue?_eq, Option.bind_eq_some_iff]
  exact exists_congr fun later => and_congr Text.after?_eq_some_iff valueIn?_eq_some_iff

theorem tagAt_append_iff {s t before value : Text} :
    TagAt (s ++ t) (s ++ before) value ↔ TagAt t before value := by
  refine exists_congr fun later => and_congr_left fun _ => ?_
  rw [List.append_assoc, List.append_assoc, List.append_right_inj, ← List.append_assoc]

theorem TagAt.exists_suffix {t before value : Text} (h : TagAt t before value) :
    ∃ rest, t = before ++ rest ∧ tagValue? rest = some value := by
  obtain ⟨later, rfl, starts⟩ := h
  exact ⟨subcommandTag ++ later, List.append_assoc _ _ _,
    tagValue?_eq_some_iff.mpr ⟨later, by rw [List.nil_append], starts⟩⟩

theorem TagAt.value_unique {t before value value' : Text} (h : TagAt t before value)
    (h' : TagAt t before value') : value = value' := by
  obtain ⟨rest, rfl, found⟩ := h.exists_suffix
  obtain ⟨rest', same, found'⟩ := h'.exists_suffix
  rw [List.append_right_inj] at same
  subst same
  exact Option.some.inj (found.symm.trans found')

/-- The first tag and its value are determined by the text. -/
theorem FirstTag.unique {t before before' value value' : Text} (h : FirstTag t before value)
    (h' : FirstTag t before' value') : value = value' := by
  obtain ⟨rest, split, -⟩ := h.tag.exists_suffix
  obtain ⟨rest', split', -⟩ := h'.tag.exists_suffix
  have length : before.length = before'.length :=
    Nat.le_antisymm (h.first _ _ h'.tag) (h'.first _ _ h.tag)
  obtain rfl := List.append_inj_left (split.symm.trans split') length
  exact h.tag.value_unique h'.tag

theorem not_tagAt_nil (before value : Text) : ¬ TagAt [] before value := by
  rintro ⟨later, split, -⟩
  have empty := (List.append_eq_nil_iff.mp (List.append_eq_nil_iff.mp split.symm).1).2
  exact absurd empty (by decide)

theorem tagAt_cons {t before value : Text} {c : Char} (none : tagValue? (c :: t) = none)
    (h : TagAt (c :: t) before value) :
    ∃ before', before = c :: before' ∧ TagAt t before' value := by
  obtain ⟨rest, split, found⟩ := h.exists_suffix
  cases before with
  | nil =>
      rw [List.nil_append] at split
      rw [← split, none] at found
      cases found
  | cons d before =>
      obtain ⟨rfl, rfl⟩ := List.cons.inj split
      exact ⟨before, rfl, (tagAt_append_iff (s := [c])).mp h⟩

/-! ### The search

A text is searched from its start: at each character either a tag with a value starts, or the
rest of the text is searched. -/

theorem firstTag_of_findTagValue? {t value : Text} (h : findTagValue? t = some value) :
    ∃ before, FirstTag t before value := by
  induction t with
  | nil => cases h
  | cons c r ih =>
      rw [findTagValue?] at h
      split at h
      · rename_i word here
        obtain rfl := Option.some.inj h
        exact ⟨[], tagValue?_eq_some_iff.mp here, fun _ _ _ => Nat.zero_le _⟩
      · rename_i none
        obtain ⟨before, tag, first⟩ := ih h
        refine ⟨c :: before, (tagAt_append_iff (s := [c])).mpr tag, fun before' value' tag' => ?_⟩
        obtain ⟨before'', rfl, later⟩ := tagAt_cons none tag'
        exact Nat.succ_le_succ (first before'' value' later)

theorem not_tagAt_of_findTagValue? {t : Text} (h : findTagValue? t = none)
    (before value : Text) : ¬ TagAt t before value := by
  induction t generalizing before with
  | nil => exact not_tagAt_nil before value
  | cons c r ih =>
      rw [findTagValue?] at h
      split at h
      · cases h
      · rename_i none
        intro tag
        obtain ⟨before', -, later⟩ := tagAt_cons none tag
        exact ih h before' later

/-- The search stops at the first tag that has a value, and at no other. -/
theorem findTagValue?_eq_some_iff {t value : Text} :
    findTagValue? t = some value ↔ ∃ before, FirstTag t before value := by
  refine ⟨firstTag_of_findTagValue?, ?_⟩
  rintro ⟨before, h⟩
  cases found : findTagValue? t with
  | none => exact absurd h.tag (not_tagAt_of_findTagValue? found before value)
  | some value' =>
      obtain ⟨before', h'⟩ := firstTag_of_findTagValue? found
      rw [h.unique h']

theorem findTagValue?_eq_none_iff {t : Text} :
    findTagValue? t = none ↔ ¬ ∃ before value, TagAt t before value := by
  constructor
  · rintro none ⟨before, value, tag⟩
    exact not_tagAt_of_findTagValue? none before value tag
  · intro untagged
    rw [Option.eq_none_iff_forall_ne_some]
    intro value found
    obtain ⟨before, h⟩ := firstTag_of_findTagValue? found
    exact untagged ⟨before, value, h.tag⟩

/-- The name of a subcommand is the value of the first tag that has one. Without such a tag,
and only then, every method keeps its name, and a name that is not the method's own is a word
that the text holds after a tag. -/
theorem first_tag_names_subcommand (doc name : Text) :
    (∀ before value, FirstTag doc before value → subcommandName doc name = value) ∧
    ((∃ before value, TagAt doc before value) →
      ∃ before, FirstTag doc before (subcommandName doc name)) ∧
    ((¬ ∃ before value, TagAt doc before value) ↔ ∀ other, subcommandName doc other = other) ∧
    (subcommandName doc name = name ↔
      (¬ ∃ before value, TagAt doc before value) ∨ ∃ before, FirstTag doc before name) ∧
    (subcommandName doc name ≠ name → subcommandName doc name ≠ [] ∧
      ∀ c ∈ subcommandName doc name, Text.isBlank c = false) := by
  rw [← findTagValue?_eq_none_iff]
  cases found : findTagValue? doc with
  | none =>
      have untagged := findTagValue?_eq_none_iff.mp found
      have keeps (other : Text) : subcommandName doc other = other := by
        rw [subcommandName, found, Option.getD_none]
      refine ⟨fun before value first => absurd ⟨before, value, first.tag⟩ untagged,
        fun tagged => absurd tagged untagged, ?_, ?_, fun renamed => absurd (keeps name) renamed⟩
      · exact iff_of_true rfl keeps
      · exact iff_of_true (keeps name) (.inl rfl)
  | some value =>
      obtain ⟨before, first⟩ := findTagValue?_eq_some_iff.mp found
      have named (other : Text) : subcommandName doc other = value := by
        rw [subcommandName, found, Option.getD_some]
      obtain ⟨later, -, starts⟩ := first.tag
      rw [named name]
      refine ⟨fun _ _ first' => first.unique first', fun _ => ⟨before, first⟩, ?_, ?_,
        fun _ => ⟨starts.nonempty, starts.solid⟩⟩
      · refine iff_of_false (Option.some_ne_none _) fun keeps => starts.nonempty ?_
        exact (named []).symm.trans (keeps [])
      · constructor
        · rintro rfl
          exact .inr ⟨before, first⟩
        · rintro (none | ⟨before', first'⟩)
          · cases none
          · exact first.unique first'

/-- A tag that is part of a longer word, one with a value, and one at the end. -/
def patchyDocblock : Text :=
  "Uses x@subcommands all.\n@subcommand\u2003\n  list-all\u00a0now\n".toList ++
    "@subcommand last @subcommand \n".toList

theorem patchy_docblock_named :
    subcommandName patchyDocblock "run".toList = "list-all".toList ∧
    subcommandName "@subcommand \n".toList "run".toList = "run".toList ∧
    ∃ before, FirstTag patchyDocblock before "list-all".toList := by
  have value : findTagValue? patchyDocblock = some "list-all".toList := by decide +kernel
  have none : findTagValue? "@subcommand \n".toList = none := by decide +kernel
  obtain ⟨before, first⟩ := findTagValue?_eq_some_iff.mp value
  have named := (first_tag_names_subcommand patchyDocblock "run".toList).1 before _ first
  have keeps := (first_tag_names_subcommand "@subcommand \n".toList "run".toList).2.2.1.mp
    (findTagValue?_eq_none_iff.mp none)
  exact ⟨named, keeps _, before, first⟩

end CommandManual.Docblock
