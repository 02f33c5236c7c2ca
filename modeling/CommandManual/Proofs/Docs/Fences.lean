import CommandManual.Docs.Page
import CommandManual.Proofs.Docs.Descriptions

/-!
Reading the fenced texts of a page back. The texts between the fence lines of a page are the
options and examples of its methods as long as all fence lines come from the page: a fence line
in a section ends its block early, and a short description that is a fence line opens a block
that nobody asked for.
-/

namespace CommandManual

def shown (content : Text) : List Text := if content.isEmpty then [] else [content]

/-- The texts in the documentation of a method that are shown in fenced blocks. -/
def MethodDoc.sections (doc : MethodDoc) : List Text :=
  shown doc.optionsText ++ shown doc.examplesText

theorem mem_shown {content : Text} (h : content ≠ []) : content ∈ shown content := by
  simp [shown, h]

namespace Page

/-! ### Reading fenced texts -/

/-- The texts between an opening fence line and the next one; `held` are the lines since a
fence line that is still open. -/
def fencedFrom : (held : Option (List Text)) → List Text → List Text
  | _, [] => []
  | none, l :: ls => if l = fence then fencedFrom (some []) ls else fencedFrom none ls
  | some held, l :: ls =>
    if l = fence then Text.unlines held :: fencedFrom none ls
    else fencedFrom (some (held ++ [l])) ls

def fencedTexts (content : Text) : List Text := fencedFrom none (Text.lines content)

theorem fencedFrom_none_append {ls : List Text} (free : fence ∉ ls) (rest : List Text) :
    fencedFrom none (ls ++ rest) = fencedFrom none rest := by
  induction ls with
  | nil => rfl
  | cons l ls ih =>
      rw [List.mem_cons, not_or] at free
      obtain ⟨other, free⟩ := free
      rw [List.cons_append, fencedFrom, if_neg (Ne.symm other), ih free]

theorem fencedFrom_some_append {ls : List Text} (free : fence ∉ ls) (held rest : List Text) :
    fencedFrom (some held) (ls ++ rest) = fencedFrom (some (held ++ ls)) rest := by
  induction ls generalizing held with
  | nil => simp
  | cons l ls ih =>
      rw [List.mem_cons, not_or] at free
      obtain ⟨other, free⟩ := free
      rw [List.cons_append, fencedFrom, if_neg (Ne.symm other), ih free, List.append_assoc,
        List.singleton_append]

theorem fencedFrom_none_fence (rest : List Text) :
    fencedFrom none (fence :: rest) = fencedFrom (some []) rest := by
  rw [fencedFrom, if_pos rfl]

theorem fencedFrom_some_fence (held rest : List Text) :
    fencedFrom (some held) (fence :: rest) = Text.unlines held :: fencedFrom none rest := by
  rw [fencedFrom, if_pos rfl]

/-- Without a fence line nothing is read, whether a block is open or not. -/
theorem fencedFrom_of_free (held : Option (List Text)) {ls : List Text} (free : fence ∉ ls) :
    fencedFrom held ls = [] := by
  cases held with
  | none => simpa [fencedFrom] using fencedFrom_none_append free []
  | some held => simpa [fencedFrom] using fencedFrom_some_append free held []

/-- The first text that is read ends before the first fence line. -/
theorem fencedFrom_some_of_mem {ls : List Text} (within : fence ∈ ls) (held : List Text) :
    ∃ before after, ls = before ++ fence :: after ∧ fence ∉ before ∧
      fencedFrom (some held) ls = Text.unlines (held ++ before) :: fencedFrom none after := by
  obtain ⟨before, after, rfl, free⟩ := List.eq_append_cons_of_mem within
  refine ⟨before, after, rfl, free, ?_⟩
  rw [fencedFrom_some_append free, fencedFrom_some_fence]

/-! ### The lines of a page -/

def blockLines (marker content : Text) : List Text :=
  if content.isEmpty then [] else
    marker :: fence :: Text.lines (Text.trim content) ++ [fence, []]

def sectionLines (lead commandName : Text) (doc : MethodDoc) : List Text :=
  Text.lines (heading lead commandName doc.subcommandName) ++
    [] :: Text.lines doc.shortDescription ++ [] ::
      (blockLines Docblock.optionsMarker doc.optionsText ++
        (blockLines Docblock.examplesMarker doc.examplesText ++ [[]]))

theorem blockLines_eq_nil {content : Text} (bare : shown content = []) (marker : Text) :
    blockLines marker content = [] := by
  rw [shown] at bare
  split at bare
  · rename_i empty
    rw [blockLines, if_pos empty]
  · cases bare

theorem lines_newline (t : Text) : Text.lines ('\n' :: t) = [] :: Text.lines t :=
  Text.lines_append_newline [] t

theorem lines_block {marker : Text} (single : '\n' ∉ marker) (content rest : Text) :
    Text.lines (block marker content ++ rest) = blockLines marker content ++ Text.lines rest := by
  have fenceLine : Text.lines fence = [fence] := by decide
  rw [block, blockLines]
  split
  · rfl
  · have layout : marker ++ fenced content ++ rest = marker ++ '\n' :: (fence ++ '\n' ::
        (Text.trim content ++ '\n' :: (fence ++ '\n' :: '\n' :: rest))) := by
      simp [fenced]
    rw [layout]
    simp only [Text.lines_append_newline, lines_newline, Text.lines_eq_singleton single, fenceLine]
    simp

theorem lines_methodSection (lead commandName : Text) (doc : MethodDoc) (rest : Text) :
    Text.lines (methodSection lead commandName doc ++ rest) =
      sectionLines lead commandName doc ++ Text.lines rest := by
  have layout : methodSection lead commandName doc ++ rest =
      heading lead commandName doc.subcommandName ++ '\n' :: '\n' ::
        (doc.shortDescription ++ '\n' :: '\n' ::
          (block Docblock.optionsMarker doc.optionsText ++
            (block Docblock.examplesMarker doc.examplesText ++ '\n' :: rest))) := by
    simp [methodSection]
  rw [layout, sectionLines]
  simp only [Text.lines_append_newline, lines_newline,
    lines_block (show '\n' ∉ Docblock.optionsMarker by decide),
    lines_block (show '\n' ∉ Docblock.examplesMarker by decide)]
  simp

theorem lines_content (lead commandName : String) (docs : List MethodDoc) :
    Text.lines (Page.ofDocs lead commandName docs).content =
      docs.flatMap (sectionLines lead.toList commandName.toList) ++ [[]] := by
  rw [ofDocs]
  induction docs with
  | nil => rfl
  | cons doc docs ih =>
      rw [List.flatMap_cons, lines_methodSection, ih, List.flatMap_cons, List.append_assoc]

/-! ### Headings -/

theorem newline_not_mem_joinWith {ts : List Text} (single : ∀ t ∈ ts, '\n' ∉ t) :
    '\n' ∉ Text.joinWith [' '] ts := by
  fun_induction Text.joinWith [' '] ts with
  | case1 => simp
  | case2 t => exact single t List.mem_cons_self
  | case3 t ts _ ih =>
      obtain ⟨first, later⟩ := List.forall_mem_cons.mp single
      simp [first, ih later]

theorem joinWith_concat (sep : Text) (ts : List Text) (t : Text) :
    Text.joinWith sep (ts ++ [t]) = Text.joinWith sep (ts ++ [[]]) ++ t := by
  induction ts with
  | nil => rfl
  | cons u us ih =>
      have cons (v : Text) : Text.joinWith sep (u :: us ++ [v]) =
          u ++ sep ++ Text.joinWith sep (us ++ [v]) := by
        rw [Text.joinWith_eq_intercalate, Text.joinWith_eq_intercalate, List.cons_append,
          List.intercalate_cons_of_ne_nil (by simp)]
      rw [cons, cons, ih, List.append_assoc (u ++ sep)]

theorem exists_joinWith_eq {before : List Text} (single : ∀ part ∈ before, '\n' ∉ part)
    (name : Text) :
    ∃ s, Text.joinWith [' '] (before ++ [name].filter fun part => !part.isEmpty) = s ++ name ∧
      '\n' ∉ s := by
  cases name with
  | nil =>
      refine ⟨Text.joinWith [' '] before, ?_, newline_not_mem_joinWith single⟩
      simp
  | cons c name =>
      refine ⟨Text.joinWith [' '] (before ++ [[]]), joinWith_concat [' '] before (c :: name), ?_⟩
      refine newline_not_mem_joinWith fun part hpart => ?_
      rcases List.mem_append.mp hpart with hpart | hpart
      · exact single part hpart
      · rw [List.mem_singleton.mp hpart]
        simp

/-- A heading ends with the subcommand name, and what stands before it is on one line. -/
theorem exists_heading_eq {lead commandName : Text} (singleLead : '\n' ∉ lead)
    (singleCommand : '\n' ∉ commandName) (subcommandName : Text) :
    ∃ s, heading lead commandName subcommandName = '#' :: s ++ subcommandName ∧ '\n' ∉ s := by
  have parts : ∀ part ∈ [lead, commandName].filter (fun part => !part.isEmpty), '\n' ∉ part := by
    intro part hpart
    have listed := List.mem_of_mem_filter hpart
    simp only [List.mem_cons, List.not_mem_nil, or_false] at listed
    rcases listed with rfl | rfl
    · exact singleLead
    · exact singleCommand
  obtain ⟨s, joined, single⟩ := exists_joinWith_eq parts subcommandName
  rw [← List.filter_append] at joined
  refine ⟨' ' :: s, ?_, by simpa using single⟩
  rw [heading]
  exact congrArg ("# ".toList ++ ·) joined

/-- A heading has a fence line only if one comes after the first line of the subcommand name. -/
theorem fence_not_mem_heading {lead commandName subcommandName : Text} (singleLead : '\n' ∉ lead)
    (singleCommand : '\n' ∉ commandName) (named : fence ∉ (Text.lines subcommandName).tail) :
    fence ∉ Text.lines (heading lead commandName subcommandName) := by
  obtain ⟨s, whole, single⟩ := exists_heading_eq singleLead singleCommand subcommandName
  rw [whole, Text.lines_append_of_single (by simpa using single), List.mem_cons, not_or]
  exact ⟨by simp [fence], named⟩

/-! ### Reading sections -/

/-- A block is read as the section that it shows exactly if the section has no fence line. -/
theorem block_read_iff {marker content : Text} (other : marker ≠ fence)
    (solid : content ≠ [] → Text.SolidEnds content) (rest expected : List Text) :
    fencedFrom none (blockLines marker content ++ rest) = shown content ++ expected ↔
      (∀ s ∈ shown content, fence ∉ Text.lines s) ∧ fencedFrom none rest = expected := by
  by_cases empty : content = []
  · simp [blockLines, shown, empty]
  · have trimmed : Text.trim content = content := (solid empty).trim_eq
    have layout : blockLines marker content ++ rest =
        [marker] ++ fence :: (Text.lines content ++ fence :: ([[]] ++ rest)) := by
      simp [blockLines, empty, trimmed]
    have alone : shown content = [content] := by simp [shown, empty]
    rw [layout, fencedFrom_none_append (by simpa using Ne.symm other), fencedFrom_none_fence,
      alone]
    by_cases within : fence ∈ Text.lines content
    · -- The block is read up to the first fence line, which is less than the section.
      obtain ⟨before, after, split, free⟩ := List.eq_append_cons_of_mem within
      have shorter : Text.unlines before ≠ content := by
        intro same
        have nonempty : before ≠ [] := by
          rintro rfl
          exact empty same.symm
        have single : ∀ l ∈ before, '\n' ∉ l := fun l hl =>
          Text.newline_not_mem_of_mem_lines (split ▸ List.mem_append_left _ hl)
        rw [← same, Text.lines_unlines nonempty single] at split
        simpa using congrArg List.length split
      rw [split, List.append_assoc, fencedFrom_some_append free, List.cons_append,
        fencedFrom_some_fence, List.nil_append]
      constructor
      · exact fun same => absurd (List.cons.inj same).1 shorter
      · exact fun ⟨whole, _⟩ => absurd within (whole content List.mem_cons_self)
    · rw [fencedFrom_some_append within, fencedFrom_some_fence, List.nil_append,
        Text.unlines_lines, fencedFrom_none_append (by decide)]
      simp [within]

theorem not_solidEnds_unlines (ls : List Text) : ¬ Text.SolidEnds (Text.unlines ([] :: ls)) := by
  intro ends
  obtain ⟨c, first, solid⟩ := ends.head
  rw [Text.unlines_cons, List.nil_append] at first
  cases ls with
  | nil => cases first
  | cons l ls =>
      obtain rfl : '\n' = c := Option.some.inj first
      revert solid
      decide

/-- After a fence line on its own, trimmed texts are read exactly if there is no further fence
line and nothing to read. -/
theorem open_read_iff {expected : List Text} (solid : ∀ s ∈ expected, Text.SolidEnds s)
    (ls : List Text) :
    fencedFrom (some []) ([] :: ls) = expected ↔ fence ∉ ls ∧ expected = [] := by
  have free : fence ∉ [[]] := by decide
  have step : fencedFrom (some []) ([] :: ls) = fencedFrom (some [[]]) ls :=
    fencedFrom_some_append free [] ls
  rw [step]
  by_cases within : fence ∈ ls
  · -- The text that is read starts with an empty line.
    obtain ⟨before, after, -, -, read⟩ := fencedFrom_some_of_mem within [[]]
    rw [read]
    constructor
    · rintro rfl
      exact absurd (solid _ List.mem_cons_self) (not_solidEnds_unlines before)
    · exact fun ⟨free, _⟩ => absurd within free
  · rw [fencedFrom_of_free _ within]
    simp [within, eq_comm]

/-! ### Documentation that comes from docblocks -/

/-- What holds of all documentation that is taken from a docblock: a short description on one
line, sections without blanks at their ends, and a subcommand name on one line unless it is the
name of the method. -/
structure Tidy (doc : MethodDoc) : Prop where
  short : '\n' ∉ doc.shortDescription
  sections : ∀ s ∈ doc.sections, Text.SolidEnds s
  name : doc.subcommandName = doc.methodName ∨ '\n' ∉ doc.subcommandName

theorem solidEnds_of_mem_shown_trim {t s : Text} (h : s ∈ shown (Text.trim t)) :
    Text.SolidEnds s := by
  rw [shown] at h
  split at h
  · cases h
  · rename_i nonempty
    rw [List.mem_singleton.mp h]
    exact Text.solidEnds_trim (by simpa using nonempty)

theorem newline_not_mem_shortDescription (block : Text) :
    '\n' ∉ Docblock.shortDescription block := by
  rw [Docblock.shortDescription]
  split
  · simp
  · refine Text.newline_not_mem_of_mem_lines (t := block) ?_
    rw [Text.lines_eq_firstLine_cons]
    exact List.mem_cons_self

theorem subcommandName_eq_or (block name : Text) :
    Docblock.subcommandName block name = name ∨
      '\n' ∉ Docblock.subcommandName block name := by
  rw [Docblock.subcommandName]
  cases found : Docblock.findTagValue? block with
  | none => exact .inl rfl
  | some value =>
      refine .inr fun newline => ?_
      have solid := Docblock.solid_of_findTagValue? found '\n' newline
      revert solid
      decide

theorem tidy_of_methodDoc? {f : Script.Function} {name : String} {doc : MethodDoc}
    (h : f.methodDoc? name = .ok (some doc)) : Tidy doc := by
  obtain ⟨-, t, -, found⟩ := Script.documents_of_methodDoc? h
  obtain rfl := MethodDoc.eq_ofBlock_of_ofDocblock? found
  refine ⟨newline_not_mem_shortDescription _, fun s hs => ?_, subcommandName_eq_or _ _⟩
  rcases List.mem_append.mp hs with hs | hs
  · exact solidEnds_of_mem_shown_trim hs
  · exact solidEnds_of_mem_shown_trim hs

/-! ### Reading pages -/

/-- Fence lines of sections and short descriptions keep apart from those of a page: no section
has one, and a short description that is one comes after all sections and is the only one. -/
structure FencesApart (docs : List MethodDoc) : Prop where
  sections : ∀ doc ∈ docs, ∀ s ∈ doc.sections, fence ∉ Text.lines s
  own : ∀ doc ∈ docs, doc.shortDescription = fence → doc.sections = []
  later : docs.Pairwise fun doc doc' =>
    doc.shortDescription = fence → doc'.sections = [] ∧ doc'.shortDescription ≠ fence

theorem fencesApart_nil : FencesApart [] := ⟨by simp, by simp, .nil⟩

theorem fencesApart_cons_iff {doc : MethodDoc} {docs : List MethodDoc} :
    FencesApart (doc :: docs) ↔
      (∀ s ∈ doc.sections, fence ∉ Text.lines s) ∧
      (doc.shortDescription = fence → doc.sections = [] ∧
        ∀ d ∈ docs, d.sections = [] ∧ d.shortDescription ≠ fence) ∧ FencesApart docs := by
  constructor
  · rintro ⟨sections, own, later⟩
    obtain ⟨whole, sections⟩ := List.forall_mem_cons.mp sections
    obtain ⟨bare, own⟩ := List.forall_mem_cons.mp own
    obtain ⟨after, later⟩ := List.pairwise_cons.mp later
    exact ⟨whole, fun same => ⟨bare same, fun d hd => after d hd same⟩, sections, own, later⟩
  · rintro ⟨whole, opens, sections, own, later⟩
    refine ⟨List.forall_mem_cons.mpr ⟨whole, sections⟩, List.forall_mem_cons.mpr ⟨?_, own⟩,
      List.pairwise_cons.mpr ⟨fun d hd same => (opens same).2 d hd, later⟩⟩
    exact fun same => (opens same).1

/-- Without sections only a second fence line can be in the way. -/
theorem fencesApart_of_bare {docs : List MethodDoc}
    (bare : ∀ d ∈ docs, d.sections = [] ∧ d.shortDescription ≠ fence) : FencesApart docs := by
  refine ⟨fun d hd s hs => ?_, fun d hd _ => (bare d hd).1, ?_⟩
  · rw [(bare d hd).1] at hs
    cases hs
  · exact List.Pairwise.imp_of_mem (fun hd _ _ same => absurd same (bare _ hd).2)
      (List.pairwise_of_forall fun _ _ => trivial)

section Reading

variable {lead commandName : Text} {doc : MethodDoc} (tidy : Tidy doc)
  (plain : fence ∉ Text.lines (heading lead commandName doc.subcommandName))

include plain in
theorem fencedFrom_sectionLines (rest : List Text) :
    fencedFrom none (sectionLines lead commandName doc ++ rest) =
      fencedFrom none (Text.lines doc.shortDescription ++ [] ::
        (blockLines Docblock.optionsMarker doc.optionsText ++
          (blockLines Docblock.examplesMarker doc.examplesText ++ [] :: rest))) := by
  have layout : sectionLines lead commandName doc ++ rest =
      (Text.lines (heading lead commandName doc.subcommandName) ++ [[]]) ++
        (Text.lines doc.shortDescription ++ [] ::
          (blockLines Docblock.optionsMarker doc.optionsText ++
            (blockLines Docblock.examplesMarker doc.examplesText ++ [] :: rest))) := by
    simp [sectionLines]
  have free : fence ∉ Text.lines (heading lead commandName doc.subcommandName) ++ [[]] := by
    rw [List.mem_append, not_or]
    exact ⟨plain, by decide⟩
  rw [layout, fencedFrom_none_append free]

include tidy plain

/-- A part of a page with a plain short description is read as the sections in it exactly if
they have no fence lines. -/
theorem section_read_iff (other : doc.shortDescription ≠ fence) (rest expected : List Text) :
    fencedFrom none (sectionLines lead commandName doc ++ rest) = doc.sections ++ expected ↔
      (∀ s ∈ doc.sections, fence ∉ Text.lines s) ∧ fencedFrom none rest = expected := by
  have options (h : doc.optionsText ≠ []) : Text.SolidEnds doc.optionsText :=
    tidy.sections _ (List.mem_append_left _ (mem_shown h))
  have examples (h : doc.examplesText ≠ []) : Text.SolidEnds doc.examplesText :=
    tidy.sections _ (List.mem_append_right _ (mem_shown h))
  have empty (ls : List Text) : fencedFrom none ([] :: ls) = fencedFrom none ls :=
    fencedFrom_none_append (show fence ∉ [[]] by decide) ls
  have short (ls : List Text) :
      fencedFrom none ([doc.shortDescription] ++ [] :: ls) = fencedFrom none ls := by
    rw [fencedFrom_none_append (by simpa using Ne.symm other), empty]
  rw [fencedFrom_sectionLines plain, Text.lines_eq_singleton tidy.short, short,
    MethodDoc.sections, List.append_assoc, block_read_iff (by decide) options,
    block_read_iff (by decide) examples, empty, List.forall_mem_append, and_assoc]

/-- A short description that is a fence line does no harm exactly if no section and no other
fence line comes after it. -/
theorem section_opens_iff (same : doc.shortDescription = fence) {rest expected : List Text}
    (solid : ∀ s ∈ expected, Text.SolidEnds s) :
    fencedFrom none (sectionLines lead commandName doc ++ rest) = doc.sections ++ expected ↔
      doc.sections = [] ∧ expected = [] ∧ fence ∉ rest := by
  have all : ∀ s ∈ doc.sections ++ expected, Text.SolidEnds s :=
    List.forall_mem_append.mpr ⟨tidy.sections, solid⟩
  rw [fencedFrom_sectionLines plain, Text.lines_eq_singleton tidy.short, same,
    List.singleton_append, fencedFrom_none_fence, open_read_iff all, List.append_eq_nil_iff]
  constructor
  · rintro ⟨free, bare, none⟩
    refine ⟨bare, none, fun within => free ?_⟩
    simp [within]
  · rintro ⟨bare, none, free⟩
    obtain ⟨options, examples⟩ := List.append_eq_nil_iff.mp bare
    refine ⟨?_, bare, none⟩
    rw [blockLines_eq_nil options, blockLines_eq_nil examples, List.nil_append, List.nil_append,
      List.mem_cons, not_or]
    exact ⟨by decide, free⟩

theorem fence_not_mem_sectionLines_iff (bare : doc.sections = []) :
    fence ∉ sectionLines lead commandName doc ↔ doc.shortDescription ≠ fence := by
  have noEmpty : fence ≠ [] := by decide
  obtain ⟨options, examples⟩ := List.append_eq_nil_iff.mp bare
  rw [sectionLines, Text.lines_eq_singleton tidy.short, blockLines_eq_nil options,
    blockLines_eq_nil examples]
  simp [plain, noEmpty, eq_comm]

end Reading

/-- The lines of a page are read as its sections exactly if the fence lines keep apart. -/
theorem fencedFrom_docs_iff {lead commandName : Text} {docs : List MethodDoc}
    (tidy : ∀ doc ∈ docs, Tidy doc)
    (plain : ∀ doc ∈ docs, fence ∉ Text.lines (heading lead commandName doc.subcommandName)) :
    fencedFrom none (docs.flatMap (sectionLines lead commandName) ++ [[]]) =
      docs.flatMap MethodDoc.sections ↔ FencesApart docs := by
  induction docs with
  | nil => exact iff_of_true rfl fencesApart_nil
  | cons doc docs ih =>
      obtain ⟨tidyDoc, tidy⟩ := List.forall_mem_cons.mp tidy
      obtain ⟨plainDoc, plain⟩ := List.forall_mem_cons.mp plain
      rw [List.flatMap_cons, List.flatMap_cons, List.append_assoc, fencesApart_cons_iff]
      by_cases short : doc.shortDescription = fence
      · -- The short description opens a block that runs to the next fence line, which has to
        -- be the end of the page.
        have solid : ∀ s ∈ docs.flatMap MethodDoc.sections, Text.SolidEnds s := by
          intro s hs
          obtain ⟨d, hd, hmem⟩ := List.mem_flatMap.mp hs
          exact (tidy d hd).sections s hmem
        have noEmpty : fence ∉ [[]] := by decide
        rw [section_opens_iff tidyDoc plainDoc short solid, List.flatMap_eq_nil_iff]
        constructor
        · rintro ⟨bare, empty, free⟩
          have later : ∀ d ∈ docs, d.sections = [] ∧ d.shortDescription ≠ fence := by
            intro d hd
            refine ⟨empty d hd, ?_⟩
            rw [← fence_not_mem_sectionLines_iff (tidy d hd) (plain d hd) (empty d hd)]
            exact fun within => free
              (List.mem_append_left _ (List.mem_flatMap.mpr ⟨d, hd, within⟩))
          exact ⟨by simp [bare], fun _ => ⟨bare, later⟩, fencesApart_of_bare later⟩
        · rintro ⟨-, opens, -⟩
          obtain ⟨bare, later⟩ := opens short
          refine ⟨bare, fun d hd => (later d hd).1, fun within => ?_⟩
          rcases List.mem_append.mp within with within | within
          · obtain ⟨d, hd, hmem⟩ := List.mem_flatMap.mp within
            exact (fence_not_mem_sectionLines_iff (tidy d hd) (plain d hd) (later d hd).1).mpr
              (later d hd).2 hmem
          · exact noEmpty within
      · rw [section_read_iff tidyDoc plainDoc short, ih tidy plain]
        simp [short]

/-- The fenced texts of a page are the options and examples of its methods exactly if their
fence lines keep apart. The documentation is taken from docblocks, and the lines of headings
are no fence lines. -/
theorem sections_read_back_iff {lead commandName : String} {docs : List MethodDoc}
    (singleLead : '\n' ∉ lead.toList) (singleCommand : '\n' ∉ commandName.toList)
    (extracted : ∀ doc ∈ docs, ∃ (f : Script.Function) (name : String),
      f.methodDoc? name = .ok (some doc))
    (named : ∀ doc ∈ docs, fence ∉ (Text.lines doc.methodName).tail) :
    fencedTexts (Page.ofDocs lead commandName docs).content = docs.flatMap MethodDoc.sections ↔
      FencesApart docs := by
  have tidy : ∀ doc ∈ docs, Tidy doc := by
    intro doc hdoc
    obtain ⟨f, name, read⟩ := extracted doc hdoc
    exact tidy_of_methodDoc? read
  rw [fencedTexts, lines_content]
  refine fencedFrom_docs_iff tidy fun doc hdoc => ?_
  refine fence_not_mem_heading singleLead singleCommand ?_
  rcases (tidy doc hdoc).name with same | single
  · rw [same]
    exact named doc hdoc
  · rw [Text.lines_eq_singleton single]
    simp

/-- A method with both sections, and one whose docblock is nothing but a fence line. -/
def fencedDocs : List MethodDoc :=
  [{ methodName := "zap".toList, subcommandName := "zap-all".toList,
     shortDescription := "Zap things.".toList, optionsText := "<target>\n: What.".toList,
     examplesText := "$ wp zap\n\n$ wp zap all".toList },
   { methodName := "raw".toList, subcommandName := "raw".toList, shortDescription := fence }]

theorem fencedDocs_read_back :
    fencedTexts (Page.ofDocs "wp" "net" fencedDocs).content =
      ["<target>\n: What.".toList, "$ wp zap\n\n$ wp zap all".toList] := by
  have zap : MethodDoc.ofDocblock? "zap".toList
      ("Zap things.\n\n## OPTIONS\n<target>\n: What.\n\n## EXAMPLES\n  $ wp zap\n\n" ++
        "  $ wp zap all\n@subcommand zap-all").toList = fencedDocs.head? := by
    decide +kernel
  have raw : MethodDoc.ofDocblock? "raw".toList fence = fencedDocs.getLast? := by
    decide +kernel
  refine (sections_read_back_iff (by decide) (by decide) ?_ (by decide +kernel)).mpr ?_
  · refine List.forall_mem_cons.mpr ⟨⟨{ doc := .text _ }, "zap", congrArg Except.ok zap⟩, ?_⟩
    exact List.forall_mem_singleton.mpr ⟨{ doc := .text fence }, "raw", congrArg Except.ok raw⟩
  · exact ⟨by decide +kernel, by decide +kernel, by decide +kernel⟩

/-- A sample with fence lines of its own ends the block that shows it, and a short description
that is a fence line takes the place of the fence line after it. -/
theorem fence_lines_tear_blocks :
    (∃ doc, ({ doc := .text "Say hi.\n\n## EXAMPLES\n\n```\n$ hi\n```".toList } :
          Script.Function).methodDoc? "hello" = .ok (some doc) ∧
      doc.sections = ["```\n$ hi\n```".toList] ∧
      fencedTexts (Page.ofDocs "wp" "greet" [doc]).content = [[], []]) ∧
    ∃ doc, ({ doc := .text "```\n\n## OPTIONS\n\n<name>".toList } :
          Script.Function).methodDoc? "run" = .ok (some doc) ∧
      doc.sections = ["<name>".toList] ∧
      fencedTexts (Page.ofDocs "wp" "cmd" [doc]).content = ["\n## OPTIONS".toList] := by
  refine ⟨⟨_, rfl, ?_, ?_⟩, _, rfl, ?_, ?_⟩ <;> decide +kernel

end Page

end CommandManual
