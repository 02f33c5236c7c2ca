import CommandManual.Proofs.Docs.Descriptions
import CommandManual.Proofs.Docs.Examples

/-!
No documented text is lost and none is made up. Blanks apart, the text of a docblock before
its first tag line is its short description, its options and its examples, with the markers
between them.
-/

namespace CommandManual

namespace Docblock

theorem solidEnds_optionsMarker : Text.SolidEnds optionsMarker :=
  ⟨⟨'#', rfl, by decide⟩, ⟨'S', rfl, by decide⟩⟩

theorem solidEnds_examplesMarker : Text.SolidEnds examplesMarker :=
  ⟨⟨'#', rfl, by decide⟩, ⟨'S', rfl, by decide⟩⟩

def untagged (block : Text) : Text :=
  Text.unlines ((Text.lines block).takeWhile fun l => !isTagLine l)

def afterFirstLine (t : Text) : Text := Text.unlines (Text.lines t).tail

/-- The parts of a body before and after its first examples marker; without a marker the body
has options only. -/
inductive Parts (body : Text) : Text → Option Text → Prop
  | marked {options examples : Text} : Text.FirstCut examplesMarker body options examples →
      Parts body options (some examples)
  | unmarked : ¬ examplesMarker <:+: body → Parts body body none

/-- What documentation holds of the text of a block with the given options and examples, blanks
apart: the short description, the options without their markers, and the examples. -/
structure Holds (doc : MethodDoc) (block options : Text) (examples? : Option Text) : Prop where
  parts : Parts (afterFirstLine (untagged block)) options examples?
  text : Text.solid (untagged block) = Text.solid doc.shortDescription ++ Text.solid options ++
    examples?.elim [] fun examples => Text.solid examplesMarker ++ Text.solid examples
  options : ∃ kept, Text.Erased optionsMarker options kept ∧
    Text.solid doc.optionsText = Text.solid kept
  examples : Text.solid doc.examplesText = Text.solid (examples?.getD [])

section Described

variable {block : Text} (nonempty : Text.firstLine block ≠ [])
  (described : isTagLine (Text.firstLine block) = false)

include described

theorem lines_untagged :
    Text.lines (untagged block) = Text.firstLine block :: longLines block := by
  have start : (Text.lines block).takeWhile (fun l => !isTagLine l) =
      Text.firstLine block :: longLines block := by
    rw [Text.lines_eq_firstLine_cons, List.takeWhile_cons_of_pos (by simp [described])]
    rfl
  rw [untagged, ← start]
  refine Text.lines_unlines (by simp [start]) fun l hl => ?_
  exact Text.newline_not_mem_of_mem_lines ((List.takeWhile_prefix _).subset hl)

theorem shortDescription_eq : shortDescription block = Text.firstLine block := by
  rw [shortDescription]
  simp [described]

theorem afterFirstLine_untagged :
    afterFirstLine (untagged block) = Text.unlines (longLines block) := by
  rw [afterFirstLine, lines_untagged described, List.tail_cons]

theorem solid_untagged :
    Text.solid (untagged block) =
      Text.solid (shortDescription block) ++ Text.solid (afterFirstLine (untagged block)) := by
  rw [← Text.flatMap_solid_lines, lines_untagged described, List.flatMap_cons,
    afterFirstLine_untagged described, Text.solid_unlines, shortDescription_eq described]

include nonempty in
theorem longDescription_eq_trim :
    longDescription block = Text.trim (afterFirstLine (untagged block)) := by
  rw [longDescription_eq, shortDescription_eq described, if_neg (by simpa using nonempty),
    afterFirstLine_untagged described]

end Described

theorem solid_cleanExamples (t : Text) : Text.solid (cleanExamples t) = Text.solid t := by
  rw [cleanExamples, Text.solid_trim, Text.solid_unlines, List.flatMap_map]
  simp only [Text.solid_trim]
  exact Text.flatMap_solid_lines t

/-- The sections of a trimmed body are those of the body, blanks apart. -/
theorem exists_parts (body : Text) :
    ∃ options examples?, Parts body options examples? ∧
      (∃ kept, Text.Erased optionsMarker options kept ∧
        Text.solid (cleanOptions (splitSections (Text.trim body)).1) = Text.solid kept) ∧
      Text.solid (cleanExamples (splitSections (Text.trim body)).2) =
        Text.solid (examples?.getD []) := by
  obtain ⟨lead, trail, around, leading, trailing⟩ := Text.exists_trim_eq body
  have noLead : Text.solid lead = [] := Text.solid_eq_nil_iff.mpr leading
  have noTrail : Text.solid trail = [] := Text.solid_eq_nil_iff.mpr trailing
  have erased (t : Text) : Text.Erased optionsMarker (lead ++ t)
      (lead ++ Text.eraseAll optionsMarker t) :=
    solidEnds_optionsMarker.erased_append_left leading (Text.erased_eraseAll (by decide) t)
  by_cases marked : examplesMarker <:+: Text.trim body
  · have first := solidEnds_examplesMarker.firstCut leading trailing (firstCut_splitSections marked)
    rw [← around] at first
    refine ⟨_, _, .marked first, ⟨_, erased _, ?_⟩, ?_⟩
    · rw [cleanOptions, Text.solid_trim, Text.solid_append, noLead, List.nil_append]
    · rw [solid_cleanExamples, Option.getD_some, Text.solid_append, noTrail, List.append_nil]
  · have whole := solidEnds_optionsMarker.erased_append_right trailing (erased (Text.trim body))
    rw [← around] at whole
    rw [splitSections_of_unmarked marked]
    rw [← solidEnds_examplesMarker.isInfix_iff leading trailing, ← around] at marked
    refine ⟨body, none, .unmarked marked, ⟨_, whole, ?_⟩, ?_⟩
    · rw [cleanOptions, Text.solid_trim, Text.solid_append, Text.solid_append, noLead, noTrail,
        List.nil_append, List.append_nil]
    · rw [solid_cleanExamples, Option.getD_none]

theorem Parts.solid {body options : Text} {examples? : Option Text}
    (h : Parts body options examples?) :
    Text.solid body = Text.solid options ++
      examples?.elim [] fun examples => Text.solid examplesMarker ++ Text.solid examples := by
  cases h with
  | marked cut => rw [cut.parts]; simp
  | unmarked => simp

theorem exists_holds {name block : Text} (nonempty : Text.firstLine block ≠ [])
    (described : isTagLine (Text.firstLine block) = false) :
    ∃ options examples?, Holds (MethodDoc.ofBlock name block) block options examples? := by
  obtain ⟨options, examples?, parts, kept, examples⟩ :=
    exists_parts (afterFirstLine (untagged block))
  rw [← longDescription_eq_trim nonempty described] at kept examples
  refine ⟨options, examples?, parts, ?_, kept, examples⟩
  rw [solid_untagged described, parts.solid, List.append_assoc]
  rfl

end Docblock

open Docblock

/-- No documented text is lost or made up. A method has no documentation exactly if its
docblock is absent or blank. Laying a docblock against the left edge changes its blanks only;
and if it starts with a line that is not empty and no tag line, its documentation holds the
text before the first tag line: the first line, the options without their markers and the
examples. -/
theorem documented_text_is_kept (f : Script.Function) (name : String) :
    (f.methodDoc? name = .ok none ↔
      f.doc = .absent ∨ ∃ t, f.doc = .text t ∧ ∀ c ∈ t, Text.isBlank c = true) ∧
    ∀ t, f.doc = .text t → (∃ c ∈ t, Text.isBlank c = false) →
      Text.solid (Text.dedent t) = Text.solid t ∧
      ∃ doc, f.methodDoc? name = .ok (some doc) ∧
        (Text.firstLine (Text.dedent t) ≠ [] → isTagLine (Text.firstLine (Text.dedent t)) = false →
          ∃ options examples?, Holds doc (Text.dedent t) options examples?) := by
  constructor
  · rw [Script.Function.methodDoc?]
    cases f.doc with
    | absent => simp
    | text t => simp [Script.ofDocblock?_eq_none_iff]
    | other kind => simp
  · rintro t written ⟨c, hc, solidChar⟩
    have nonblank : Text.solid t ≠ [] := by
      intro blank
      simp [Text.solid_eq_nil_iff.mp blank c hc] at solidChar
    refine ⟨Text.solid_dedent t, MethodDoc.ofBlock name.toList (Text.dedent t), ?_,
      fun nonempty described => exists_holds nonempty described⟩
    rw [Script.Function.methodDoc?, written]
    exact congrArg Except.ok (by rw [MethodDoc.ofDocblock?_eq, if_neg nonblank])

def zappingDocblock : Text :=
  "Zap things.\n\n    ## OPTIONS\n\n    <target>\n    : What to zap.\n\n".toList ++
    "    ## EXAMPLES\n\n        $ wp zap all\n\n    @subcommand zap-all\n    ".toList

theorem zapping_text_is_kept :
    ∃ doc, ({ doc := .text zappingDocblock } : Script.Function).methodDoc? "zap" =
        .ok (some doc) ∧
      doc.optionsText = "<target>\n: What to zap.".toList ∧
      ∃ options examples?, Holds doc (Text.dedent zappingDocblock) options examples? := by
  obtain ⟨-, doc, read, holds⟩ :=
    (documented_text_is_kept { doc := .text zappingDocblock } "zap").2 zappingDocblock rfl
      ⟨'Z', by decide +kernel, by decide⟩
  have options : (MethodDoc.ofDocblock? "zap".toList zappingDocblock).map (·.optionsText) =
      some "<target>\n: What to zap.".toList := by decide +kernel
  have found : MethodDoc.ofDocblock? "zap".toList zappingDocblock = some doc := Except.ok.inj read
  rw [found] at options
  exact ⟨doc, read, Option.some.inj options, holds (by decide +kernel) (by decide +kernel)⟩

end CommandManual
