import CommandManual.Docs.Page
import CommandManual.Proofs.Docs.Fences
import CommandManual.Proofs.Docs.Sections
import CommandManual.Proofs.Text.Seams

/-!
What is left of the options marker. Options are cleaned by erasing their markers once, from
left to right, so a marker is left exactly if what stands before an erased one and what stands
after it make up another. The same goes for an examples marker in the options. Where the marker
starts its lines, as it does in a docblock that is written by hand, none is left, and the page
has it on a single line, the one that the page itself puts before the options.
-/

namespace CommandManual

namespace Docblock

theorem newline_not_mem_optionsMarker : '\n' ∉ optionsMarker := by decide

theorem isInfix_trim_iff {mark : Text} (ends : Text.SolidEnds mark) (t : Text) :
    mark <:+: Text.trim t ↔ mark <:+: t := by
  obtain ⟨lead, trail, parts, leading, trailing⟩ := Text.exists_trim_eq t
  have around := ends.isInfix_iff leading trailing (t := Text.trim t)
  rwa [← parts, iff_comm] at around

/-! ### Cleaning options -/

section Cleaned

variable {options : Text} {pieces : List Text} (split : Text.Pieces optionsMarker options pieces)

include split

theorem cleanOptions_eq : cleanOptions options = Text.trim pieces.flatten := by
  rw [cleanOptions, split.eraseAll_eq (by decide)]

theorem optionsMarker_isInfix_cleanOptions_iff :
    optionsMarker <:+: cleanOptions options ↔ Text.Crosses optionsMarker pieces := by
  rw [cleanOptions_eq split, isInfix_trim_iff solidEnds_optionsMarker]
  exact Text.isInfix_flatten_iff_crosses (by decide) (split.not_isInfix (by decide))

/-- Options without an examples marker get one only from what an erased marker held apart. -/
theorem examplesMarker_isInfix_cleanOptions_iff (free : ¬ examplesMarker <:+: options) :
    examplesMarker <:+: cleanOptions options ↔ Text.Crosses examplesMarker pieces := by
  rw [cleanOptions_eq split, isInfix_trim_iff solidEnds_examplesMarker]
  refine Text.isInfix_flatten_iff_crosses (by decide) fun p hp within => ?_
  exact free (within.trans (split.isInfix_of_mem p hp))

end Cleaned

/-- Options that were cleaned stay as they are when they are cleaned again, exactly if no
marker is left in them. -/
theorem cleanOptions_cleanOptions_eq_iff (options : Text) :
    cleanOptions (cleanOptions options) = cleanOptions options ↔
      ¬ optionsMarker <:+: cleanOptions options := by
  constructor
  · intro same within
    -- Another pass takes a marker away, and trimming adds nothing.
    have shorter := Text.length_eraseAll_lt (by decide) within
    have kept := Text.length_trim_le (Text.eraseAll optionsMarker (cleanOptions options))
    rw [← cleanOptions, same] at kept
    omega
  · intro free
    rw [cleanOptions, Text.eraseAll_of_not_isInfix free, cleanOptions, Text.trim_trim]

theorem examplesMarker_not_isInfix_options (body : Text) :
    ¬ examplesMarker <:+: (splitSections body).1 := by
  by_cases marked : examplesMarker <:+: body
  · exact (firstCut_splitSections marked).not_isInfix (by decide)
  · rwa [splitSections_of_unmarked marked]

end Docblock

open Docblock

/-! ### Marker lines of a page -/

namespace Page

theorem filter_blockLines (marker content : Text) :
    (blockLines marker content).filter (Text.contains optionsMarker) =
      (if content.isEmpty then [] else [marker].filter (Text.contains optionsMarker)) ++
        Text.linesWith optionsMarker (Text.trim content) := by
  have fenceLine : Text.contains optionsMarker fence = false := by decide
  have emptyLine : Text.contains optionsMarker [] = false := by decide
  rw [blockLines]
  split
  · rename_i empty
    rw [List.isEmpty_iff.mp empty]
    rfl
  · rw [List.filter_append, ← List.singleton_append, List.filter_append]
    simp [fenceLine, emptyLine, Text.linesWith]

/-- The lines of a section that hold the options marker: those of the heading and of the
texts in it, and the one that the page puts before the options. -/
theorem linesWith_methodSection (lead commandName : Text) (doc : MethodDoc) :
    Text.linesWith optionsMarker (methodSection lead commandName doc) =
      Text.linesWith optionsMarker (heading lead commandName doc.subcommandName) ++
        (Text.linesWith optionsMarker doc.shortDescription ++
          ((if doc.optionsText.isEmpty then [] else [optionsMarker]) ++
            (Text.linesWith optionsMarker (Text.trim doc.optionsText) ++
              Text.linesWith optionsMarker (Text.trim doc.examplesText)))) := by
  have own : [optionsMarker].filter (Text.contains optionsMarker) = [optionsMarker] := by decide
  have other : [examplesMarker].filter (Text.contains optionsMarker) = [] := by decide
  have emptyLine : Text.contains optionsMarker [] = false := by decide
  have noLines : Text.lines [] = [[]] := rfl
  have whole := lines_methodSection lead commandName doc []
  rw [List.append_nil] at whole
  rw [Text.linesWith, whole, sectionLines]
  simp [emptyLine, noLines, filter_blockLines, own, other, Text.linesWith]

/-- The marker that the page puts before the options is the only one in a section exactly if
neither the heading nor any of the texts in the section holds another. -/
theorem linesWith_methodSection_eq_iff (lead commandName : Text) (doc : MethodDoc) :
    Text.linesWith optionsMarker (methodSection lead commandName doc) =
        (if doc.optionsText.isEmpty then [] else [optionsMarker]) ↔
      ¬ optionsMarker <:+: heading lead commandName doc.subcommandName ∧
        ¬ optionsMarker <:+: doc.shortDescription ∧ ¬ optionsMarker <:+: doc.optionsText ∧
          ¬ optionsMarker <:+: doc.examplesText := by
  have free (t : Text) : ¬ optionsMarker <:+: t ↔ Text.linesWith optionsMarker t = [] :=
    (Text.linesWith_eq_nil_iff (by decide) newline_not_mem_optionsMarker t).symm
  rw [← isInfix_trim_iff solidEnds_optionsMarker doc.optionsText,
    ← isInfix_trim_iff solidEnds_optionsMarker doc.examplesText, free, free, free, free,
    linesWith_methodSection]
  constructor
  · intro alone
    have count := congrArg List.length alone
    simp only [List.length_append] at count
    refine ⟨?_, ?_, ?_, ?_⟩ <;> exact List.eq_nil_of_length_eq_zero (by omega)
  · rintro ⟨heading, short, options, examples⟩
    simp [heading, short, options, examples]

end Page

/-! ### Documentation -/

/-- Cleaning options twice is the same as cleaning them once exactly if no marker runs across a
seam, where an erased marker was. What a docblock documents as options is free of markers, of
options and of examples, exactly if none of them does, and none does if the erased markers
started their lines. The page's own marker is then the only one in a section, unless the
heading, the short description or the examples hold another. -/
theorem options_marker_gone_iff (x : Text) (f : Script.Function) (name : String) :
    (∃ pieces, Text.Pieces optionsMarker x pieces ∧
      (cleanOptions (cleanOptions x) = cleanOptions x ↔ ¬ Text.Crosses optionsMarker pieces)) ∧
    ∀ doc, f.methodDoc? name = .ok (some doc) →
      ∃ t pieces, f.doc = .text t ∧
        Text.Pieces optionsMarker (splitSections (longDescription (Text.dedent t))).1 pieces ∧
        (¬ optionsMarker <:+: doc.optionsText ↔ ¬ Text.Crosses optionsMarker pieces) ∧
        (¬ examplesMarker <:+: doc.optionsText ↔ ¬ Text.Crosses examplesMarker pieces) ∧
        (Text.EndLines pieces →
          ¬ optionsMarker <:+: doc.optionsText ∧ ¬ examplesMarker <:+: doc.optionsText) ∧
        ∀ lead commandName,
          Text.linesWith optionsMarker (Page.methodSection lead commandName doc) =
              (if doc.optionsText.isEmpty then [] else [optionsMarker]) ↔
            ¬ Text.Crosses optionsMarker pieces ∧
              ¬ optionsMarker <:+: Page.heading lead commandName doc.subcommandName ∧
              ¬ optionsMarker <:+: doc.shortDescription ∧
              ¬ optionsMarker <:+: doc.examplesText := by
  have nonempty : optionsMarker ≠ [] := by decide
  constructor
  · obtain ⟨pieces, split⟩ := Text.exists_pieces nonempty x
    refine ⟨pieces, split, ?_⟩
    rw [cleanOptions_cleanOptions_eq_iff, optionsMarker_isInfix_cleanOptions_iff split]
  · intro doc read
    obtain ⟨-, t, written, found⟩ := Script.documents_of_methodDoc? read
    obtain rfl := MethodDoc.eq_ofBlock_of_ofDocblock? found
    -- Both markers are judged by the pieces that erasing the first one leaves.
    obtain ⟨pieces, split⟩ := Text.exists_pieces nonempty
      (splitSections (longDescription (Text.dedent t))).1
    have options := optionsMarker_isInfix_cleanOptions_iff split
    have examples := examplesMarker_isInfix_cleanOptions_iff split
      (examplesMarker_not_isInfix_options _)
    refine ⟨t, pieces, written, split, not_congr options, not_congr examples, ?_, ?_⟩
    · intro ends
      exact ⟨mt options.mp (Text.not_crosses_of_endLines newline_not_mem_optionsMarker ends),
        mt examples.mp (Text.not_crosses_of_endLines (by decide) ends)⟩
    · intro lead commandName
      rw [Page.linesWith_methodSection_eq_iff, ← options]
      constructor
      · exact fun ⟨heading, short, clean, samples⟩ => ⟨clean, heading, short, samples⟩
      · exact fun ⟨clean, heading, short, samples⟩ => ⟨heading, short, clean, samples⟩

def partedOptions : Text := "## OPTIONS\n\n<target>\n## OPTIONS\n: What.\n\n".toList

def partedDocblock : Text :=
  "Zap things.\n\n".toList ++ partedOptions ++ "## EXAMPLES\n\n$ zap".toList

def partedDoc : MethodDoc :=
  { methodName := "zap".toList, subcommandName := "zap".toList,
    shortDescription := "Zap things.".toList, optionsText := "<target>\n\n: What.".toList,
    examplesText := "$ zap".toList }

theorem pieces_partedOptions :
    Text.Pieces optionsMarker partedOptions
      ["".toList, "\n\n<target>\n".toList, "\n: What.\n\n".toList] := by
  have first : Text.cut? optionsMarker partedOptions =
      some ("".toList, "\n\n<target>\n## OPTIONS\n: What.\n\n".toList) := by decide +kernel
  have second : Text.cut? optionsMarker "\n\n<target>\n## OPTIONS\n: What.\n\n".toList =
      some ("\n\n<target>\n".toList, "\n: What.\n\n".toList) := by decide +kernel
  have third : Text.cut? optionsMarker "\n: What.\n\n".toList = none := by decide +kernel
  exact .cons (Text.firstCut_of_cut? first)
    (.cons (Text.firstCut_of_cut? second) (.last (Text.cut?_eq_none_iff.mp third)))

theorem parted_options_cleaned :
    ({ doc := .text partedDocblock } : Script.Function).methodDoc? "zap" =
        .ok (some partedDoc) ∧
      cleanOptions (cleanOptions partedOptions) = cleanOptions partedOptions ∧
      ¬ optionsMarker <:+: partedDoc.optionsText ∧
      Text.linesWith optionsMarker (Page.methodSection "wp".toList "net".toList partedDoc) =
        [optionsMarker] := by
  have found : MethodDoc.ofDocblock? "zap".toList partedDocblock = some partedDoc := by
    decide +kernel
  have read : ({ doc := .text partedDocblock } : Script.Function).methodDoc? "zap" =
      .ok (some partedDoc) := congrArg Except.ok found
  have body : (splitSections (longDescription (Text.dedent partedDocblock))).1 =
      partedOptions := by decide +kernel
  have ends : ¬ Text.Crosses optionsMarker
      ["".toList, "\n\n<target>\n".toList, "\n: What.\n\n".toList] :=
    Text.not_crosses_of_endLines newline_not_mem_optionsMarker (by decide +kernel)
  have free {t : Text} (h : Text.cut? optionsMarker t = none) : ¬ optionsMarker <:+: t :=
    Text.cut?_eq_none_iff.mp h
  obtain ⟨⟨pieces, split, steady⟩, documented⟩ :=
    options_marker_gone_iff partedOptions { doc := .text partedDocblock } "zap"
  rw [split.unique pieces_partedOptions] at steady
  obtain ⟨t, pieces', written, split', gone, -, -, single⟩ := documented partedDoc read
  obtain rfl : partedDocblock = t := by injection written
  rw [body] at split'
  rw [split'.unique pieces_partedOptions] at gone single
  refine ⟨read, steady.mpr ends, gone.mpr ends, ?_⟩
  exact (single "wp".toList "net".toList).mpr ⟨ends, free (by decide +kernel),
    free (by decide +kernel), free (by decide +kernel)⟩

/-- The parts of a marker around another one are a marker once that one is erased, and so are
the parts of an examples marker. -/
theorem erased_marker_leaves_marker :
    (∃ doc, ({ doc := .text "Say hi.\n\n## OPT## OPTIONSIONS\n\n<name>".toList } :
          Script.Function).methodDoc? "run" = .ok (some doc) ∧
      doc.optionsText = "## OPTIONS\n\n<name>".toList ∧
      cleanOptions doc.optionsText = "<name>".toList) ∧
    ∃ doc, ({ doc := .text "Say hi.\n\n## EXAM## OPTIONSPLES".toList } :
          Script.Function).methodDoc? "run" = .ok (some doc) ∧
      doc.optionsText = examplesMarker := by
  refine ⟨⟨_, rfl, ?_, ?_⟩, _, rfl, ?_⟩ <;> decide +kernel

end CommandManual
