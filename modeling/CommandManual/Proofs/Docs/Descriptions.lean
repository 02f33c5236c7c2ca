import CommandManual.Proofs.Docs.Listing
import CommandManual.Proofs.Text.Indent
import CommandManual.Proofs.Text.Search

/-!
What the descriptions in a docblock depend on. The tags at its end, from the first tag line
on, may name the subcommand and are no part of any description. How far the docblock is
indented makes no difference at all.
-/

namespace CommandManual

namespace Docblock

/-! ### Tags -/

theorem isTagLine_eq_true_iff {line : Text} :
    isTagLine line = true ↔ ∃ rest, line = '@' :: rest := by
  rw [isTagLine, beq_iff_eq, List.head?_eq_some_iff]

theorem firstLine_append_newline (s t : Text) :
    Text.firstLine (s ++ '\n' :: t) = Text.firstLine s := by
  have whole := Text.lines_append_newline s t
  rw [Text.lines_eq_firstLine_cons, Text.lines_eq_firstLine_cons s] at whole
  exact (List.cons.inj whole).1

def longLines (block : Text) : List Text :=
  (Text.lines block).tail.takeWhile fun l => !isTagLine l

theorem longDescription_eq (block : Text) :
    longDescription block =
      if (shortDescription block).isEmpty then [] else Text.trim (Text.unlines (longLines block)) :=
  rfl

def tagged (block tags : Text) : Text := block ++ '\n' :: '@' :: tags

theorem shortDescription_tagged (block tags : Text) :
    shortDescription (tagged block tags) = shortDescription block := by
  rw [shortDescription, tagged, firstLine_append_newline, shortDescription]

theorem longLines_tagged (block tags : Text) :
    longLines (tagged block tags) = longLines block := by
  have tagLine : isTagLine (Text.firstLine ('@' :: tags)) = true :=
    isTagLine_eq_true_iff.mpr ⟨Text.firstLine tags, by simp [Text.firstLine]⟩
  have stops : (Text.lines ('@' :: tags)).takeWhile (fun l => !isTagLine l) = [] := by
    rw [Text.lines_eq_firstLine_cons]
    exact List.takeWhile_cons_of_neg (by simp [tagLine])
  rw [longLines, tagged, Text.lines_append_newline,
    List.tail_append_of_ne_nil (Text.lines_ne_nil block), Text.takeWhile_append_of_stop stops,
    longLines]

theorem longDescription_tagged (block tags : Text) :
    longDescription (tagged block tags) = longDescription block := by
  rw [longDescription_eq, shortDescription_tagged, longLines_tagged, longDescription_eq]

/-! ### Blanks after a tag -/

theorem solidEnds_subcommandTag : Text.SolidEnds subcommandTag :=
  ⟨⟨'@', rfl, by decide⟩, ⟨'d', rfl, by decide⟩⟩

theorem after?_append_blank {mark trail : Text} (ends : Text.SolidEnds mark)
    (blank : ∀ c ∈ trail, Text.isBlank c = true) (t : Text) :
    Text.after? mark (t ++ trail) = (Text.after? mark t).map (· ++ trail) := by
  cases start : Text.after? mark t with
  | some rest =>
      rw [Text.after?_eq_some_iff.mp start]
      exact Text.after?_eq_some_iff.mpr (List.append_assoc _ _ _)
  | none =>
      rw [Option.map_none, Text.after?_eq_none_iff]
      rintro ⟨post, split⟩
      have whole : t ++ trail = [] ++ mark ++ post := split.symm
      obtain ⟨post', -, inner⟩ := ends.before_trail blank whole
      exact Text.after?_eq_none_iff.mp start ⟨post', inner.symm⟩

def wordAfterBlanks (t : Text) : Text :=
  (t.dropWhile Text.isBlank).takeWhile fun c => !Text.isBlank c

theorem wordAfterBlanks_of_blank {t : Text} (blank : ∀ c ∈ t, Text.isBlank c = true) :
    wordAfterBlanks t = [] := by
  rw [wordAfterBlanks, List.dropWhile_eq_nil_iff.mpr blank, List.takeWhile_nil]

theorem wordAfterBlanks_append_blank {trail : Text}
    (blank : ∀ c ∈ trail, Text.isBlank c = true) (t : Text) :
    wordAfterBlanks (t ++ trail) = wordAfterBlanks t := by
  have none : trail.takeWhile (fun c => !Text.isBlank c) = [] := by
    cases trail with
    | nil => rfl
    | cons c r => exact List.takeWhile_cons_of_neg (by simp [blank c List.mem_cons_self])
  rw [wordAfterBlanks, wordAfterBlanks, List.dropWhile_append]
  split
  · rename_i empty
    rw [List.isEmpty_iff.mp empty, List.dropWhile_eq_nil_iff.mpr blank]
  · exact Text.takeWhile_append_of_stop none

def valueIn? : Text → Option Text
  | [] => none
  | b :: rest =>
    if Text.isBlank b && !(wordAfterBlanks rest).isEmpty then some (wordAfterBlanks rest) else none

theorem tagValue?_eq (t : Text) : tagValue? t = (Text.after? subcommandTag t).bind valueIn? := by
  rw [tagValue?]
  rcases Text.after? subcommandTag t with _ | _ | ⟨b, rest⟩
  · rfl
  · rfl
  · show (if Text.isBlank b then
        if (wordAfterBlanks rest).isEmpty then none else some (wordAfterBlanks rest)
      else none) = valueIn? (b :: rest)
    rw [valueIn?]
    cases Text.isBlank b <;> cases (wordAfterBlanks rest).isEmpty <;> rfl

theorem solid_of_findTagValue? {t value : Text} (h : findTagValue? t = some value) :
    ∀ c ∈ value, Text.isBlank c = false := by
  induction t with
  | nil => cases h
  | cons c r ih =>
      rw [findTagValue?] at h
      split at h
      · rename_i word found
        obtain rfl := Option.some.inj h
        rw [tagValue?_eq, Option.bind_eq_some_iff] at found
        obtain ⟨rest, -, value⟩ := found
        cases rest with
        | nil => cases value
        | cons b rest =>
            rw [valueIn?] at value
            split at value
            · obtain rfl := Option.some.inj value
              exact fun c hc => by simpa using List.mem_takeWhile_imp hc
            · cases value
      · exact ih h

theorem valueIn?_append_blank {trail : Text} (blank : ∀ c ∈ trail, Text.isBlank c = true)
    (t : Text) : valueIn? (t ++ trail) = valueIn? t := by
  cases t with
  | nil =>
      cases trail with
      | nil => rfl
      | cons b rest =>
          have later := wordAfterBlanks_of_blank (List.forall_mem_cons.mp blank).2
          simp [valueIn?, later]
  | cons b rest => rw [List.cons_append, valueIn?, valueIn?, wordAfterBlanks_append_blank blank]

theorem tagValue?_append_blank {trail : Text} (blank : ∀ c ∈ trail, Text.isBlank c = true)
    (t : Text) : tagValue? (t ++ trail) = tagValue? t := by
  rw [tagValue?_eq, tagValue?_eq, after?_append_blank solidEnds_subcommandTag blank]
  cases Text.after? subcommandTag t with
  | none => rfl
  | some rest => exact valueIn?_append_blank blank rest

theorem findTagValue?_append_blank {trail : Text} (blank : ∀ c ∈ trail, Text.isBlank c = true)
    (t : Text) : findTagValue? (t ++ trail) = findTagValue? t := by
  induction t with
  | nil =>
      induction trail with
      | nil => rfl
      | cons c r ih =>
          have none : tagValue? (c :: r) = none := tagValue?_append_blank blank []
          calc
            findTagValue? (c :: r) = findTagValue? r := by simp only [findTagValue?, none]
            _ = findTagValue? [] := ih (List.forall_mem_cons.mp blank).2
  | cons c r ih =>
      have same : tagValue? (c :: (r ++ trail)) = tagValue? (c :: r) :=
        tagValue?_append_blank blank (c :: r)
      rw [List.cons_append, findTagValue?, findTagValue?, same, ih]

/-! ### Blocks without text after the first line -/

theorem longDescription_of_blank {block : Text}
    (blank : ∀ l ∈ (Text.lines block).tail, Text.solid l = []) : longDescription block = [] := by
  have none : Text.solid (Text.unlines (longLines block)) = [] := by
    rw [Text.solid_unlines, List.flatMap_eq_nil_iff]
    exact fun l hl => blank l ((List.takeWhile_prefix _).subset hl)
  rw [longDescription_eq, Text.trim_eq_nil_iff.mpr none, ite_self]

theorem subcommandName_of_blank {first : Text} {others : List Text} (name : Text)
    (blank : ∀ l ∈ others, Text.solid l = []) :
    subcommandName (Text.unlines (first :: others)) name = subcommandName first name := by
  have trail : ∀ c ∈ others.flatMap ('\n' :: ·), Text.isBlank c = true := by
    intro c hc
    obtain ⟨l, hl, hmem⟩ := List.mem_flatMap.mp hc
    rcases List.mem_cons.mp hmem with rfl | hmem
    · decide
    · exact Text.solid_eq_nil_iff.mp (blank l hl) c hmem
  rw [subcommandName, Text.unlines_cons, findTagValue?_append_blank trail, subcommandName]

end Docblock

open Docblock

namespace MethodDoc

def ofBlock (methodName block : Text) : MethodDoc where
  methodName
  subcommandName := Docblock.subcommandName block methodName
  shortDescription := Docblock.shortDescription block
  optionsText := cleanOptions (splitSections (longDescription block)).1
  examplesText := cleanExamples (splitSections (longDescription block)).2

theorem ofDocblock?_eq (name t : Text) :
    ofDocblock? name t =
      if Text.solid t = [] then none else some (ofBlock name (Text.dedent t)) := by
  simp only [ofDocblock?, Text.all_isBlank_eq, Text.solid_dedent, List.isEmpty_iff]
  rfl

theorem eq_ofBlock_of_ofDocblock? {name t : Text} {doc : MethodDoc}
    (h : ofDocblock? name t = some doc) : doc = ofBlock name (Text.dedent t) := by
  rw [ofDocblock?_eq] at h
  split at h
  · cases h
  · exact (Option.some.inj h).symm

theorem ofBlock_of_blank_others {first : Text} {others : List Text} (name : Text)
    (single : ∀ l ∈ first :: others, '\n' ∉ l) (blank : ∀ l ∈ others, Text.solid l = []) :
    ofBlock name (Text.unlines (first :: others)) = ofBlock name first := by
  have whole := Text.lines_unlines (List.cons_ne_nil first others) single
  have alone := Text.lines_eq_singleton (List.forall_mem_cons.mp single).1
  have line : Text.firstLine (Text.unlines (first :: others)) = Text.firstLine first := by
    rw [Text.lines_eq_firstLine_cons] at whole alone
    rw [(List.cons.inj whole).1, (List.cons.inj alone).1]
  have short : Docblock.shortDescription (Text.unlines (first :: others)) =
      Docblock.shortDescription first := by
    rw [Docblock.shortDescription, line, Docblock.shortDescription]
  have long : longDescription (Text.unlines (first :: others)) = longDescription first := by
    rw [longDescription_of_blank (by simpa [whole] using blank),
      longDescription_of_blank (by simp [alone])]
  rw [ofBlock, short, long, subcommandName_of_blank name blank, ofBlock]

theorem ofDocblock?_of_blank_others {t first : Text} {others : List Text} (name : Text)
    (tabless : '\t' ∉ t) (split : Text.lines t = first :: others)
    (blank : ∀ l ∈ others, Text.solid l = []) :
    ofDocblock? name t =
      if Text.solid first = [] then none else some (ofBlock name (Text.trimStart first)) := by
  have solidOthers : others.flatMap Text.solid = [] := List.flatMap_eq_nil_iff.mpr blank
  have solidFirst : Text.solid t = Text.solid first := by
    rw [← Text.flatMap_solid_lines, split, List.flatMap_cons, solidOthers, List.append_nil]
  rw [ofDocblock?_eq, solidFirst]
  by_cases none : Text.solid first = []
  · rw [if_pos none, if_pos none]
  · rw [if_neg none, if_neg none]
    obtain ⟨kept, block, within⟩ :=
      Text.exists_dedent_eq_of_blank_others tabless split none blank
    have single : ∀ l ∈ first :: others, '\n' ∉ l := by
      rw [← split]
      exact fun l => Text.newline_not_mem_of_mem_lines
    obtain ⟨singleFirst, singleOthers⟩ := List.forall_mem_cons.mp single
    have start : '\n' ∉ Text.trimStart first :=
      fun newline => singleFirst ((List.dropWhile_suffix _).subset newline)
    rw [block, ofBlock_of_blank_others name
      (List.forall_mem_cons.mpr ⟨start, fun l hl => singleOthers l (within l hl)⟩)
      fun l hl => blank l (within l hl)]

theorem ofDocblock?_indented (name : Text) {t : Text} (width : Nat) (tabless : '\t' ∉ t) :
    ofDocblock? name (Text.indented width t) = ofDocblock? name t := by
  cases margin : Text.margin? (Text.lines t).tail with
  | some m =>
      rw [ofDocblock?_eq, ← Text.solid_dedent, Text.dedent_indented width tabless margin,
        Text.solid_dedent, ofDocblock?_eq]
  | none =>
      -- Without a margin the blocks differ, but only in blanks after the first line.
      have blank := Text.margin?_eq_none_iff.mp margin
      rw [ofDocblock?_of_blank_others name tabless (Text.lines_eq_firstLine_cons t) blank]
      refine ofDocblock?_of_blank_others name (Text.tab_not_mem_indented width tabless)
        (Text.lines_indented width t) fun l hl => ?_
      obtain ⟨m, hm, rfl⟩ := List.mem_map.mp hl
      rw [Text.solid_append, blank m hm, List.append_nil,
        Text.solid_eq_nil_iff.mpr Text.isBlank_of_mem_replicate]

end MethodDoc

/-- How far the lines of a docblock after the first are indented makes no difference to what
is documented, when there are no tabs in it. -/
theorem indentation_is_immaterial {f : Script.Function} {t : Text} (written : f.doc = .text t)
    (tabless : '\t' ∉ t) (width : Nat) (name : String) :
    ({ f with doc := .text (Text.indented width t) } : Script.Function).methodDoc? name =
      f.methodDoc? name := by
  rw [Script.Function.methodDoc?, Script.Function.methodDoc?, written]
  exact congrArg Except.ok (MethodDoc.ofDocblock?_indented name.toList width tabless)

/-- A docblock as it stands in a method of a class that stands in a function. -/
def greetingDocblock : Text :=
  "Say hi.\n\n    ## EXAMPLES\n\n        $ hi\n\n    @subcommand hello\n    ".toList

theorem deeper_greeting_documented :
    '\t' ∉ greetingDocblock ∧
    ({ doc := .text (Text.indented 4 greetingDocblock) } : Script.Function).methodDoc? "run" =
      .ok (some { methodName := "run".toList, subcommandName := "hello".toList,
                  shortDescription := "Say hi.".toList, examplesText := "$ hi".toList }) := by
  have tabless : '\t' ∉ greetingDocblock := by decide
  have read : MethodDoc.ofDocblock? "run".toList greetingDocblock =
      some { methodName := "run".toList, subcommandName := "hello".toList,
             shortDescription := "Say hi.".toList, examplesText := "$ hi".toList } := by
    decide +kernel
  refine ⟨tabless, ?_⟩
  rw [indentation_is_immaterial (f := { doc := .text greetingDocblock }) rfl tabless]
  exact congrArg Except.ok read

/-- A docblock that opens with a block and ends there or goes on with a tag line. -/
def OpensWith (block t : Text) : Prop :=
  Text.dedent t = block ∨ ∃ tags, Text.dedent t = tagged block tags

theorem OpensWith.doc_eq {block t name : Text} {doc : MethodDoc} (h : OpensWith block t)
    (found : MethodDoc.ofDocblock? name t = some doc) :
    doc = { MethodDoc.ofBlock name block with subcommandName := doc.subcommandName } := by
  obtain rfl := MethodDoc.eq_ofBlock_of_ofDocblock? found
  rcases h with same | ⟨tags, same⟩
  · rw [same]
  · rw [same, MethodDoc.ofBlock, MethodDoc.ofBlock, shortDescription_tagged,
      longDescription_tagged]

/-- Tags do not take the documentation away: it is missing only if the block is blank. -/
theorem OpensWith.exists_doc {block t : Text} (h : OpensWith block t) (name : Text)
    (written : Text.solid block ≠ []) : ∃ doc, MethodDoc.ofDocblock? name t = some doc := by
  have nonblank : Text.solid t ≠ [] := by
    rw [← Text.solid_dedent]
    rcases h with same | ⟨tags, same⟩
    · rwa [same]
    · rw [same, tagged, Text.solid_append]
      exact List.append_ne_nil_of_left_ne_nil written _
  exact ⟨_, by rw [MethodDoc.ofDocblock?_eq, if_neg nonblank]⟩

/-- The text from the first tag line on is no part of any description: blocks that agree
before it have the same short and long description, and so the same options and examples.
Their documentation can only differ in the name of the subcommand, and unless the text before
the tags is blank they all have documentation. -/
theorem tags_only_name_subcommands (block : Text) :
    (∀ tags, shortDescription (tagged block tags) = shortDescription block ∧
      longDescription (tagged block tags) = longDescription block ∧
      cleanOptions (splitSections (longDescription (tagged block tags))).1 =
        cleanOptions (splitSections (longDescription block)).1 ∧
      cleanExamples (splitSections (longDescription (tagged block tags))).2 =
        cleanExamples (splitSections (longDescription block)).2) ∧
    (∀ name t, OpensWith block t → Text.solid block ≠ [] →
      ∃ doc, MethodDoc.ofDocblock? name t = some doc) ∧
    ∀ name t t' doc doc', OpensWith block t → OpensWith block t' →
      MethodDoc.ofDocblock? name t = some doc → MethodDoc.ofDocblock? name t' = some doc' →
        doc' = { doc with subcommandName := doc'.subcommandName } := by
  refine ⟨fun tags => ?_, fun name t opens => opens.exists_doc name, ?_⟩
  · have long := longDescription_tagged block tags
    exact ⟨shortDescription_tagged block tags, long, by rw [long], by rw [long]⟩
  · intro name t t' doc doc' opens opens' found found'
    rw [opens.doc_eq found]
    exact opens'.doc_eq found'

def retaggedDocblock : Text :=
  "Say hi.\n\n    ## EXAMPLES\n\n        $ hi\n\n    @since 1.0\n    ## OPTIONS\n    <name>".toList

theorem retagged_greeting_renamed :
    ∃ doc doc', MethodDoc.ofDocblock? "run".toList greetingDocblock = some doc ∧
      MethodDoc.ofDocblock? "run".toList retaggedDocblock = some doc' ∧
      doc.subcommandName = "hello".toList ∧ doc'.subcommandName = "run".toList ∧
      doc' = { doc with subcommandName := doc'.subcommandName } := by
  let block := "Say hi.\n\n## EXAMPLES\n\n    $ hi\n".toList
  have written : Text.solid block ≠ [] := by decide
  have opens : OpensWith block greetingDocblock :=
    .inr ⟨"subcommand hello".toList, by decide +kernel⟩
  have opens' : OpensWith block retaggedDocblock :=
    .inr ⟨"since 1.0\n## OPTIONS\n<name>".toList, by decide +kernel⟩
  obtain ⟨-, documented, renamed⟩ := tags_only_name_subcommands block
  obtain ⟨doc, found⟩ := documented "run".toList greetingDocblock opens written
  obtain ⟨doc', found'⟩ := documented "run".toList retaggedDocblock opens' written
  have named : (MethodDoc.ofDocblock? "run".toList greetingDocblock).map (·.subcommandName) =
      some "hello".toList := by decide +kernel
  have named' : (MethodDoc.ofDocblock? "run".toList retaggedDocblock).map (·.subcommandName) =
      some "run".toList := by decide +kernel
  rw [found] at named
  rw [found'] at named'
  exact ⟨doc, doc', found, found', Option.some.inj named, Option.some.inj named',
    renamed _ _ _ _ _ opens opens' found found'⟩

end CommandManual
