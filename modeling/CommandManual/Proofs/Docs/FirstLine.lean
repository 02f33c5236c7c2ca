import CommandManual.Proofs.Docs.Descriptions

/-!
The first line of a docblock as its short description. A docblock that is laid against the left
edge starts with its first line that is not empty. That is the first line with text in it,
unless a blank line before it reaches over the margin: such a line keeps some of its blanks, and
they are the short description.
-/

namespace CommandManual

namespace Text

/-! ### The first written line -/

def firstWritten? (t : Text) : Option Text := (lines t).find? fun l => !l.all isBlank

theorem firstWritten?_eq_none_iff {t : Text} : firstWritten? t = none ↔ solid t = [] := by
  rw [firstWritten?, List.find?_eq_none, ← flatMap_solid_lines, List.flatMap_eq_nil_iff]
  refine forall₂_congr fun l _ => ?_
  rw [all_isBlank_eq]
  cases solid l <;> simp

/-- The text of a docblock starts with the first character of its first written line. -/
theorem head?_solid_of_firstWritten? {t l : Text} (h : firstWritten? t = some l) :
    (solid t).head? = (trim l).head? := by
  rw [firstWritten?, List.find?_eq_some_iff_append] at h
  obtain ⟨written, before, after, split, blank⟩ := h
  have nothing : before.flatMap solid = [] := by
    refine List.flatMap_eq_nil_iff.mpr fun m hm => ?_
    simpa [all_isBlank_eq] using blank m hm
  have some : trim l ≠ [] := by
    rw [ne_eq, trim_eq_nil_iff]
    intro none
    simp [all_isBlank_eq, none] at written
  obtain ⟨c, first, solidFirst⟩ := (solidEnds_trim some).head
  obtain ⟨r, same⟩ := List.head?_eq_some_iff.mp first
  have start : solid l = c :: solid r := by
    rw [← solid_trim, same, solid_cons, solidFirst]
    rfl
  rw [← flatMap_solid_lines, split, List.flatMap_append, nothing, List.flatMap_cons, start, first]
  rfl

/-! ### Blank lines that reach over the margin -/

def laterLines (t : Text) : List Text := (lines (expandTabs t)).tail

/-- Whether a blank line that is longer than the margin of a block stands before every line of
the block that is not blank. -/
def Overhangs (t : Text) : Prop :=
  (firstLine (expandTabs t)).all isBlank = true ∧
    ∃ l ∈ (laterLines t).takeWhile fun l => l.all isBlank,
      (margin? (laterLines t)).getD 0 < l.length

instance (t : Text) : Decidable (Overhangs t) :=
  inferInstanceAs (Decidable ((firstLine (expandTabs t)).all isBlank = true ∧
    ∃ l ∈ (laterLines t).takeWhile fun l => l.all isBlank,
      (margin? (laterLines t)).getD 0 < l.length))

theorem dedent_eq_leftLines (t : Text) :
    dedent t = unlines (dropEmptyEnds (leftLines (firstLine (expandTabs t)) (laterLines t))) := by
  rw [dedent, lines_eq_firstLine_cons]
  rfl

theorem solid_eq_flatMap_leftLines (t : Text) :
    solid t = (leftLines (firstLine (expandTabs t)) (laterLines t)).flatMap solid := by
  rw [← solid_dedent, dedent_eq_leftLines, solid_unlines, flatMap_solid_dropEmptyEnds]

theorem newline_not_mem_of_mem_leftLines {t l : Text}
    (h : l ∈ leftLines (firstLine (expandTabs t)) (laterLines t)) : '\n' ∉ l := by
  have single : ∀ m ∈ firstLine (expandTabs t) :: laterLines t, '\n' ∉ m := by
    rw [laterLines, ← lines_eq_firstLine_cons]
    exact fun m => newline_not_mem_of_mem_lines
  obtain ⟨first, later⟩ := List.forall_mem_cons.mp single
  rcases List.mem_cons.mp h with rfl | h
  · exact fun newline => first ((List.dropWhile_suffix _).subset newline)
  · obtain ⟨m, hm, rfl⟩ := List.mem_map.mp h
    exact fun newline => later m hm (List.mem_of_mem_drop newline)

/-- Lines that are not all empty start, once empty ones are dropped at their ends, with the
first of them that is not empty. -/
theorem exists_dropEmptyEnds_eq {ms : List Text} (written : ∃ m ∈ ms, m ≠ []) :
    ∃ first kept, dropEmptyEnds ms = first :: kept ∧ (∀ m ∈ first :: kept, m ∈ ms) ∧
      ms.find? (fun m => !m.isEmpty) = some first := by
  induction ms with
  | nil => simp at written
  | cons m ms ih =>
      by_cases empty : m = []
      · subst empty
        obtain ⟨first, kept, ends, within, found⟩ := ih (by simpa using written)
        refine ⟨first, kept, ?_, fun l hl => List.mem_cons_of_mem _ (within l hl), ?_⟩
        · rw [← ends]
          rfl
        · exact (List.find?_cons_of_neg (by simp)).trans found
      · obtain ⟨kept, ends, within⟩ := exists_dropEmptyEnds_cons empty ms
        refine ⟨m, kept, ends, ?_, ?_⟩
        · exact List.forall_mem_cons.mpr
            ⟨List.mem_cons_self, fun l hl => List.mem_cons_of_mem _ (within.subset hl)⟩
        · simp [empty]

theorem all_isBlank_iff_of_find? {ms : List Text} {first : Text}
    (found : ms.find? (fun m => !m.isEmpty) = some first) :
    first.all isBlank = true ↔ ∃ m ∈ ms.takeWhile (fun m => m.all isBlank), m ≠ [] := by
  induction ms with
  | nil => cases found
  | cons m ms ih =>
      by_cases empty : m = []
      · subst empty
        rw [List.find?_cons_of_neg (by simp)] at found
        rw [List.takeWhile_cons_of_pos (by rfl), List.exists_mem_cons_iff, ih found]
        simp
      · have same : m = first := by simpa [empty] using found
        subst same
        cases blank : m.all isBlank with
        | false => simp [blank]
        | true => simp [blank, empty]

theorem takeWhile_congr {α : Type} {p q : α → Bool} {l : List α} (h : ∀ a ∈ l, p a = q a) :
    l.takeWhile p = l.takeWhile q := by
  induction l with
  | nil => rfl
  | cons a l ih =>
      obtain ⟨first, later⟩ := List.forall_mem_cons.mp h
      rw [List.takeWhile_cons, List.takeWhile_cons, first, ih later]

/-- Of the lines against the left edge, the blank ones at the front are all empty unless one of
the blank lines before the text reaches over the margin. -/
theorem exists_nonempty_blank_leftLines_iff (t : Text) :
    (∃ m ∈ (leftLines (firstLine (expandTabs t)) (laterLines t)).takeWhile
      (fun m => m.all isBlank), m ≠ []) ↔ Overhangs t := by
  let margin := (margin? (laterLines t)).getD 0
  rw [leftLines, Overhangs]
  cases blank : (firstLine (expandTabs t)).all isBlank with
  | false =>
      have start : (trimStart (firstLine (expandTabs t))).all isBlank = false := by
        rw [all_isBlank_eq, solid_trimStart, ← all_isBlank_eq, blank]
      rw [List.takeWhile_cons_of_neg (by simp [start])]
      simp
  | true =>
      have start : trimStart (firstLine (expandTabs t)) = [] :=
        List.dropWhile_eq_nil_iff.mpr (List.all_eq_true.mp blank)
      have same : ∀ l ∈ laterLines t, (l.drop margin).all isBlank = l.all isBlank := by
        intro l hl
        rw [all_isBlank_eq, solid_drop fun _ => margin?_le hl, ← all_isBlank_eq]
      rw [start, List.takeWhile_cons_of_pos (by rfl), List.exists_mem_cons_iff, List.takeWhile_map,
        Function.comp_def, takeWhile_congr same]
      simp

/-- A block that is laid against the left edge starts with a blank line exactly if it has a
blank line before its text that reaches over the margin. -/
theorem all_isBlank_firstLine_dedent_iff {t : Text} (written : solid t ≠ []) :
    (firstLine (dedent t)).all isBlank = true ↔ Overhangs t := by
  have nonempty : ∃ m ∈ leftLines (firstLine (expandTabs t)) (laterLines t), m ≠ [] := by
    by_contra empty
    refine written ((solid_eq_flatMap_leftLines t).trans (List.flatMap_eq_nil_iff.mpr ?_))
    intro m hm
    rw [not_not.mp fun some => empty ⟨m, hm, some⟩]
    rfl
  obtain ⟨first, kept, ends, within, found⟩ := exists_dropEmptyEnds_eq nonempty
  have whole : lines (dedent t) = first :: kept := by
    rw [dedent_eq_leftLines, ends]
    exact lines_unlines (List.cons_ne_nil _ _) fun l hl =>
      newline_not_mem_of_mem_leftLines (within l hl)
  rw [lines_eq_firstLine_cons] at whole
  rw [(List.cons.inj whole).1, all_isBlank_iff_of_find? found, exists_nonempty_blank_leftLines_iff]

end Text

open Docblock

/-- Whether the first line of a docblock that is not blank starts with a tag, blanks apart. -/
def StartsWithTag (t : Text) : Prop :=
  ∃ l, Text.firstWritten? t = some l ∧ isTagLine (Text.trim l) = true

theorem startsWithTag_iff {t : Text} : StartsWithTag t ↔ (Text.solid t).head? = some '@' := by
  cases found : Text.firstWritten? t with
  | none => simp [StartsWithTag, found, Text.firstWritten?_eq_none_iff.mp found]
  | some l =>
      rw [Text.head?_solid_of_firstWritten? found, StartsWithTag, found]
      simp [isTagLine]

/-- Laying a docblock against the left edge does not change whether it starts with a tag. -/
theorem startsWithTag_dedent_iff (t : Text) :
    StartsWithTag (Text.dedent t) ↔ StartsWithTag t := by
  rw [startsWithTag_iff, startsWithTag_iff, Text.solid_dedent]

/-- What a docblock that is written promises: its short description is blank only if its first
line with text is a tag line, and else it is that line. -/
structure Described (t : Text) (doc : MethodDoc) : Prop where
  tagged : doc.shortDescription.all Text.isBlank = true → StartsWithTag t
  line : ¬ StartsWithTag t → Text.firstWritten? (Text.dedent t) = some doc.shortDescription

theorem firstWritten?_of_firstLine {t : Text}
    (written : (Text.firstLine t).all Text.isBlank = false) :
    Text.firstWritten? t = some (Text.firstLine t) := by
  rw [Text.firstWritten?, Text.lines_eq_firstLine_cons]
  exact List.find?_cons_of_pos (by simp [written])

theorem startsWithTag_of_firstLine {t : Text} (tag : isTagLine (Text.firstLine t) = true) :
    StartsWithTag t := by
  obtain ⟨rest, line⟩ := isTagLine_eq_true_iff.mp tag
  have start : t.head? = some '@' := by
    obtain ⟨later, split⟩ : Text.firstLine t <+: t := List.takeWhile_prefix _
    rw [← split, line]
    rfl
  obtain ⟨r, rfl⟩ := List.head?_eq_some_iff.mp start
  have solidTag : Text.isBlank '@' = false := by decide
  rw [startsWithTag_iff, Text.solid_cons, solidTag]
  rfl

theorem all_isBlank_shortDescription_iff (block : Text) :
    (shortDescription block).all Text.isBlank = true ↔
      (Text.firstLine block).all Text.isBlank = true ∨ isTagLine (Text.firstLine block) = true := by
  rw [shortDescription]
  cases isTagLine (Text.firstLine block) <;> simp

/-- A short description that is not blank is the first line with text. -/
theorem firstWritten?_eq_shortDescription {block : Text}
    (written : (shortDescription block).all Text.isBlank = false) :
    Text.firstWritten? block = some (shortDescription block) := by
  rw [shortDescription] at written ⊢
  split at written
  · cases written
  · rename_i plain
    rw [if_neg plain]
    exact firstWritten?_of_firstLine written

/-- A docblock gets the description that it promises exactly if no blank line before its text
reaches over its margin, or it starts with a tag anyway. The short description is blank exactly
if there is such a line or the docblock starts, at the left edge, with a tag; in all other cases
it is the first line with text. -/
theorem described_iff_not_overhanging {f : Script.Function} {name : String} {doc : MethodDoc}
    (read : f.methodDoc? name = .ok (some doc)) :
    ∃ t, f.doc = .text t ∧
      (Described t doc ↔ ¬ Text.Overhangs t ∨ StartsWithTag t) ∧
      (doc.shortDescription.all Text.isBlank = true ↔
        Text.Overhangs t ∨ isTagLine (Text.firstLine (Text.dedent t)) = true) ∧
      (doc.shortDescription.all Text.isBlank = false →
        Text.firstWritten? (Text.dedent t) = some doc.shortDescription) := by
  obtain ⟨-, t, written, found⟩ := Script.documents_of_methodDoc? read
  have solid : Text.solid t ≠ [] := by
    intro blank
    rw [MethodDoc.ofDocblock?_eq, if_pos blank] at found
    cases found
  obtain rfl := MethodDoc.eq_ofBlock_of_ofDocblock? found
  have overhangs := Text.all_isBlank_firstLine_dedent_iff solid
  have blank := all_isBlank_shortDescription_iff (Text.dedent t)
  rw [overhangs] at blank
  refine ⟨t, written, ?_, blank, firstWritten?_eq_shortDescription⟩
  constructor
  · rintro ⟨tagged, -⟩
    refine or_iff_not_imp_left.mpr fun reaches => ?_
    exact tagged (blank.mpr (.inl (not_not.mp reaches)))
  · intro h
    have tagged : isTagLine (Text.firstLine (Text.dedent t)) = true → StartsWithTag t := fun tag =>
      (startsWithTag_dedent_iff t).mp (startsWithTag_of_firstLine tag)
    have starts : (shortDescription (Text.dedent t)).all Text.isBlank = true → StartsWithTag t :=
      fun none => h.elim (fun within => tagged ((blank.mp none).resolve_left within)) id
    refine ⟨starts, fun untagged => firstWritten?_eq_shortDescription ?_⟩
    exact Bool.eq_false_iff.mpr (mt starts untagged)

/-- A docblock with a blank line before its text that does not reach over the margin, and one
that starts with a tag after a blank line that does. -/
def paddedDocblock : Text := "\n   \n    Say hi.\n\n    @since 1.0\n    ".toList

def paddedTags : Text := "\n      \n    @since 1.0\n    Say hi.".toList

theorem padded_docblock_described :
    ∃ doc doc', ({ doc := .text paddedDocblock } : Script.Function).methodDoc? "run" =
        .ok (some doc) ∧
      ({ doc := .text paddedTags } : Script.Function).methodDoc? "run" = .ok (some doc') ∧
      doc.shortDescription = "Say hi.".toList ∧ doc'.shortDescription = "  ".toList ∧
      Described paddedDocblock doc ∧ Described paddedTags doc' := by
  let doc : MethodDoc :=
    { methodName := "run".toList, subcommandName := "run".toList,
      shortDescription := "Say hi.".toList }
  let doc' : MethodDoc := { doc with shortDescription := "  ".toList }
  have found : MethodDoc.ofDocblock? "run".toList paddedDocblock = some doc := by decide +kernel
  have found' : MethodDoc.ofDocblock? "run".toList paddedTags = some doc' := by decide +kernel
  have read : ({ doc := .text paddedDocblock } : Script.Function).methodDoc? "run" =
      .ok (some doc) := congrArg Except.ok found
  have read' : ({ doc := .text paddedTags } : Script.Function).methodDoc? "run" =
      .ok (some doc') := congrArg Except.ok found'
  refine ⟨doc, doc', read, read', rfl, rfl, ?_, ?_⟩
  · obtain ⟨t, written, described, -⟩ := described_iff_not_overhanging read
    obtain rfl : paddedDocblock = t := by injection written
    exact described.mpr (.inl (by decide +kernel))
  · obtain ⟨t, written, described, -⟩ := described_iff_not_overhanging read'
    obtain rfl : paddedTags = t := by injection written
    exact described.mpr (.inr (startsWithTag_iff.mpr (by decide +kernel)))

/-- A blank line that reaches over the margin takes the place of the short description, which is
documented as an option. -/
theorem overhanging_blanks_described :
    ∃ doc, ({ doc := .text "\n        \n    Say hi.\n    ".toList } :
          Script.Function).methodDoc? "run" = .ok (some doc) ∧
      doc.shortDescription = "    ".toList ∧ doc.optionsText = "Say hi.".toList ∧
      ¬ Described "\n        \n    Say hi.\n    ".toList doc := by
  refine ⟨_, rfl, by decide +kernel, by decide +kernel, fun described => ?_⟩
  have tagged := startsWithTag_iff.mp (described.tagged (by decide +kernel))
  revert tagged
  decide +kernel

end CommandManual
