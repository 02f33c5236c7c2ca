import CommandManual.Proofs.Docs.Examples
import CommandManual.Proofs.Docs.Fences

/-!
The normal form of documentation that is taken from docblocks. Its sections are trimmed, and so
is every line of the examples. A page trims a section once more before it puts it between fence
lines, and decides by the untrimmed section whether there is anything to show; both come to the
same for documentation in normal form.
-/

namespace CommandManual

open Docblock

namespace MethodDoc

/-- Documentation with a short description on one line that is no tag line, with trimmed
sections and examples whose lines are trimmed, and with no sections unless there is a short
description. -/
structure Normal (doc : MethodDoc) : Prop where
  single : '\n' ∉ doc.shortDescription
  untagged : doc.shortDescription.head? ≠ some '@'
  options : Text.trim doc.optionsText = doc.optionsText
  examples : Text.trim doc.examplesText = doc.examplesText
  lines : ∀ l ∈ Text.lines doc.examplesText, Text.trim l = l
  bare : doc.shortDescription = [] → doc.optionsText = [] ∧ doc.examplesText = []

/-- The sections in the documentation of a method, each with the marker that it is shown
under. -/
def markedSections (doc : MethodDoc) : List (Text × Text) :=
  (shown doc.optionsText).map (optionsMarker, ·) ++ (shown doc.examplesText).map (examplesMarker, ·)

end MethodDoc

/-! ### Extraction -/

namespace Docblock

theorem head?_shortDescription_ne (block : Text) :
    (shortDescription block).head? ≠ some '@' := by
  rw [shortDescription]
  split
  · simp
  · rename_i plain
    simpa [isTagLine] using plain

/-- A block without a short description has no sections. -/
theorem sections_of_undescribed {block : Text} (undescribed : shortDescription block = []) :
    cleanOptions (splitSections (longDescription block)).1 = [] ∧
      cleanExamples (splitSections (longDescription block)).2 = [] := by
  have body : longDescription block = [] := by
    rw [longDescription_eq, undescribed]
    rfl
  rw [body]
  exact ⟨rfl, rfl⟩

end Docblock

namespace MethodDoc

theorem normal_ofBlock (name block : Text) : (ofBlock name block).Normal where
  single := Page.newline_not_mem_shortDescription block
  untagged := head?_shortDescription_ne block
  options := Text.trim_trim _
  examples := Text.trim_trim _
  lines := fun _ => trim_of_mem_lines_cleanExamples
  bare := sections_of_undescribed

/-- The sections of documentation in normal form that are shown are not blank. -/
theorem Normal.solidEnds {doc : MethodDoc} (normal : doc.Normal) :
    ∀ s ∈ doc.markedSections, Text.SolidEnds s.2 := by
  have solid {marker content : Text} (trimmed : Text.trim content = content) :
      ∀ s ∈ (shown content).map (marker, ·), Text.SolidEnds s.2 := by
    intro s hs
    obtain ⟨t, ht, rfl⟩ := List.mem_map.mp hs
    rw [← trimmed] at ht
    exact Page.solidEnds_of_mem_shown_trim ht
  intro s hs
  rcases List.mem_append.mp hs with hs | hs
  · exact solid normal.options s hs
  · exact solid normal.examples s hs

end MethodDoc

namespace Script

theorem normal_of_methodDoc? {f : Function} {name : String} {doc : MethodDoc}
    (h : f.methodDoc? name = .ok (some doc)) : doc.Normal := by
  obtain ⟨-, t, -, found⟩ := documents_of_methodDoc? h
  rw [MethodDoc.eq_ofBlock_of_ofDocblock? found]
  exact MethodDoc.normal_ofBlock _ _

/-- The documentation of a class is that of its methods. -/
theorem exists_methodDoc?_of_mem {c : Class} {docs : List MethodDoc} {doc : MethodDoc}
    (given : c.methodDocs.result = .ok docs) (hdoc : doc ∈ docs) :
    ∃ m ∈ c.publicMethods, m.2.methodDoc? m.1 = .ok (some doc) := by
  have result : c.methodDocs.result = (c.publicMethods.mapM docOf).map List.reduceOption :=
    run_collectDocs_fst c.name c.publicMethods []
  rw [result] at given
  cases found : c.publicMethods.mapM docOf with
  | error fault =>
      rw [found] at given
      cases given
  | ok each =>
      rw [found] at given
      obtain rfl := Except.ok.inj given
      have listed : some doc ∈ each := List.reduceOption_mem_iff.mp hdoc
      exact exists_of_mem_mapM found listed

end Script

namespace Page

def verbatim (content : Text) : Text :=
  '\n' :: fence ++ '\n' :: content ++ '\n' :: fence ++ "\n\n".toList

theorem fenced_of_trimmed {content : Text} (trimmed : Text.trim content = content) :
    fenced content = verbatim content := by
  rw [fenced, trimmed, verbatim]

theorem block_of_trimmed {content : Text} (trimmed : Text.trim content = content)
    (marker : Text) :
    block marker content =
      ((shown content).map (marker, ·)).flatMap fun s => s.1 ++ verbatim s.2 := by
  rw [block, shown]
  split
  · rfl
  · rw [fenced_of_trimmed trimmed, List.map_singleton, List.flatMap_singleton]

/-- The part of a page that describes one subcommand, with its sections as they are. -/
def plainSection (lead commandName : Text) (doc : MethodDoc) : Text :=
  heading lead commandName doc.subcommandName ++ "\n\n".toList ++
    doc.shortDescription ++ "\n\n".toList ++
    (doc.markedSections.flatMap fun s => s.1 ++ verbatim s.2) ++ ['\n']

theorem methodSection_of_normal {doc : MethodDoc} (normal : doc.Normal)
    (lead commandName : Text) :
    methodSection lead commandName doc = plainSection lead commandName doc := by
  rw [methodSection, plainSection, block_of_trimmed normal.options,
    block_of_trimmed normal.examples, MethodDoc.markedSections, List.flatMap_append]
  simp only [List.append_assoc]

/-- Documentation that is taken from a docblock is in normal form, and a page has both of its
sections between fence lines as they are. The page of a class is made of the headings, the short
descriptions and the sections of its documentation, and no section that it fences is empty or
starts or ends with a blank. -/
theorem extracted_sections_verbatim :
    (∀ (f : Script.Function) (name : String) (doc : MethodDoc),
      f.methodDoc? name = .ok (some doc) →
        doc.Normal ∧ fenced doc.optionsText = verbatim doc.optionsText ∧
          fenced doc.examplesText = verbatim doc.examplesText) ∧
    ∀ (c : Script.Class) (docs : List MethodDoc) (lead commandName : String),
      c.methodDocs.result = .ok docs →
        (ofDocs lead commandName docs).content =
          docs.flatMap (plainSection lead.toList commandName.toList) ∧
        ∀ doc ∈ docs, ∀ s ∈ doc.markedSections, s.2 ≠ [] ∧ Text.SolidEnds s.2 := by
  constructor
  · intro f name doc read
    have normal := Script.normal_of_methodDoc? read
    exact ⟨normal, fenced_of_trimmed normal.options, fenced_of_trimmed normal.examples⟩
  · intro c docs lead commandName given
    have normal : ∀ doc ∈ docs, doc.Normal := by
      intro doc hdoc
      obtain ⟨m, -, read⟩ := Script.exists_methodDoc?_of_mem given hdoc
      exact Script.normal_of_methodDoc? read
    constructor
    · exact List.flatMap_congr fun doc hdoc =>
        methodSection_of_normal (normal doc hdoc) lead.toList commandName.toList
    · intro doc hdoc s hs
      have ends := (normal doc hdoc).solidEnds s hs
      obtain ⟨c, first, -⟩ := ends.head
      exact ⟨List.ne_nil_of_mem (List.mem_of_mem_head? first), ends⟩

def helloDocblock : Text :=
  "Say hi.\n\n## OPTIONS\n\n[--name=<name>]\n\n## EXAMPLES\n\n    $ hi \n\n  $ hi again".toList

def helloMethod : Script.Function := { doc := .text helloDocblock }

def greeter : Script.Class :=
  .mk Script.firstFreeId "Greet" [("hello", .function helloMethod)] []

def helloDoc : MethodDoc where
  methodName := "hello".toList
  subcommandName := "hello".toList
  shortDescription := "Say hi.".toList
  optionsText := "[--name=<name>]".toList
  examplesText := "$ hi\n\n$ hi again".toList

theorem greeter_sections_verbatim :
    helloMethod.methodDoc? "hello" = .ok (some helloDoc) ∧ helloDoc.Normal ∧
      greeter.methodDocs.result = .ok [helloDoc] ∧
      (ofDocs "wp" "greet" [helloDoc]).content =
        plainSection "wp".toList "greet".toList helloDoc ∧
      ∀ s ∈ helloDoc.markedSections, s.2 ≠ [] ∧ Text.SolidEnds s.2 := by
  have extracted : MethodDoc.ofDocblock? "hello".toList helloDocblock = some helloDoc := by
    decide +kernel
  have read : helloMethod.methodDoc? "hello" = .ok (some helloDoc) := congrArg Except.ok extracted
  have given : greeter.methodDocs.result = .ok [helloDoc] :=
    eq_ok_of_toOption (by decide +kernel)
  obtain ⟨normal, -, -⟩ := extracted_sections_verbatim.1 helloMethod "hello" helloDoc read
  obtain ⟨page, fenced⟩ := extracted_sections_verbatim.2 greeter [helloDoc] "wp" "greet" given
  refine ⟨read, normal, given, ?_, fenced helloDoc List.mem_cons_self⟩
  rw [page, List.flatMap_singleton]

end Page

end CommandManual
