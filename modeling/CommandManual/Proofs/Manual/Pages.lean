import CommandManual.Proofs.Manual.Command
import CommandManual.Proofs.Manual.Report
import Mathlib.Data.List.Pairwise

/-!
The pages that a run leaves behind. Each documented command writes its page once,
and nothing else that a run does touches a file that is not a log file. So the
page is there in the end unless a later command writes at the same place, which
two commands do whose names are different but lead to one file.
-/

namespace CommandManual

def Page.path (destination : String) (page : Page) : Path :=
  outputPath destination page.fileName

def Listeners.KeepFiles (listeners : Listeners) : Prop :=
  ∀ event, (Action.tell listeners event).KeepsFiles

namespace Action

inductive PageTurns (job : Job) (listeners : Listeners) :
    Workspace → List Descriptor → List Page → Workspace → Prop
  | nil (w : Workspace) : PageTurns job listeners w [] [] w
  | documented {d : Descriptor} {rest : List Descriptor} {page : Page} {pages : List Page}
      {w w₁ w₂ w₃ w' : Workspace}
      (rendered : (renderCommand job.headingLead d).outcome w = (.ok page, w₁))
      (written : (writePage job.destination page).outcome w₁ =
        (.ok (page.path job.destination), w₂))
      (told : Told listeners (.generated (page.path job.destination)) w₂ w₃)
      (turns : PageTurns job listeners w₃ rest pages w') :
      PageTurns job listeners w (d :: rest) (page :: pages) w'
  | skipped {d : Descriptor} {rest : List Descriptor} {message : String} {pages : List Page}
      {w w₁ w' : Workspace} (turn : Turn job listeners d w (.warning message) w₁)
      (turns : PageTurns job listeners w₁ rest pages w') :
      PageTurns job listeners w (d :: rest) pages w'

variable {job : Job} {listeners : Listeners}

theorem Turns.exists_pageTurns {ds : List Descriptor} {events : List Event} {w w' : Workspace}
    (turns : Turns job listeners w ds events w') :
    ∃ pages, PageTurns job listeners w ds pages w' ∧
      events.filterMap Event.path? = pages.map (Page.path job.destination) := by
  induction turns with
  | nil w => exact ⟨[], .nil w, rfl⟩
  | cons turn turns ih =>
      obtain ⟨pages, later, hpaths⟩ := ih
      cases turn with
      | documented rendered written told =>
          obtain ⟨rfl, -⟩ := writePage_eq_ok_iff.mp written
          refine ⟨_ :: pages, .documented rendered written told later, ?_⟩
          rw [List.map_cons, ← hpaths]
          rfl
      | skipped failed caught worded told =>
          exact ⟨pages, .skipped (.skipped failed caught worded told) later, hpaths⟩

/-! ### What a turn does to the files -/

theorem keepsFiles_of_told (quiet : listeners.KeepFiles) {event : Event} {w w' : Workspace}
    (told : Told listeners event w w') : w.KeepsFiles w' := by
  have kept := quiet event (w.deliver (event.record listeners))
  rw [told] at kept
  exact (w.keepsFiles_deliver _).trans kept

theorem Turn.keepsFiles_of_warning (quiet : listeners.KeepFiles) {d : Descriptor}
    {message : String} {w w' : Workspace}
    (turn : Turn job listeners d w (.warning message) w') : w.KeepsFiles w' := by
  cases turn with
  | skipped failed caught worded told =>
      have rendering := keepsFiles_renderCommand job.headingLead d w
      refine .trans ?_ (keepsFiles_of_told quiet told)
      rcases outcome_bind_eq_error.mp failed with failed | ⟨page, w₁, rendered, failed⟩
      · rw [failed] at rendering
        exact rendering
      · rw [rendered] at rendering
        -- A page that could not be written leaves the files as they were.
        rw [eq_of_writePage_error failed]
        exact rendering

/-- From the first workspace to the second a page is put at a place, and apart
from log files nothing else changes. -/
structure PutsPage (destination : String) (page : Page) (place : Place) (w w' : Workspace) :
    Prop where
  hub : w'.hub = w.hub
  noNull : FileTree.hasNull (page.path destination) = false
  /-- As long as the directories and links stay, the path leads to the place. -/
  locate : ∀ tree, w'.tree.SameWays tree →
    tree.locate .follow (page.path destination) = .ok place
  files : w.tree.SameBut (fun other => w.hub.LogsTo other ∨ other = place) w'.tree
  content : ¬ w.hub.LogsTo place → w'.tree.get? place = some (.file (.text page.content))

theorem exists_putsPage (quiet : listeners.KeepFiles) {d : Descriptor} {page : Page}
    {w w₁ w₂ w' : Workspace}
    (rendered : (renderCommand job.headingLead d).outcome w = (.ok page, w₁))
    (written : (writePage job.destination page).outcome w₁ =
      (.ok (page.path job.destination), w₂))
    (told : Told listeners (.generated (page.path job.destination)) w₂ w') :
    ∃ place, PutsPage job.destination page place w w' := by
  have before := keepsFiles_renderCommand job.headingLead d w
  rw [rendered] at before
  obtain ⟨-, tree, hwrite, rfl⟩ := writePage_eq_ok_iff.mp written
  obtain ⟨hnull, place, hlocate, hway, rfl⟩ := FileTree.write_eq_ok_iff.mp hwrite
  -- Before and after the write, only log files change.
  have after := (Workspace.keepsFiles_deliver _ _).trans (keepsFiles_of_told quiet told)
  have hput := FileTree.sameBut_put hway (.text page.content)
  have afterFiles : (w₁.tree.put place (.file (.text page.content))).SameBut w.hub.LogsTo
      w'.tree := by
    rw [← before.hub]
    exact after.files
  refine ⟨place, after.hub.trans before.hub, hnull, ?_, ?_, ?_⟩
  · intro tree same
    exact FileTree.locate_of_sameWays (hput.ways.trans (after.files.ways.trans same))
      (by decide) hlocate
  · exact .trans (before.files.mono fun _ => .inl)
      (.trans (hput.mono fun _ => .inr) (afterFiles.mono fun _ => .inl))
  · intro unlogged
    rw [afterFiles.get? place unlogged]
    exact FileTree.get?_put_self _ (by rintro rfl; cases hway) _

/-! ### What a run does to the files -/

def WrittenAt (destination : String) (tree : FileTree) (pages : List Page) (place : Place) :
    Prop :=
  ∃ page ∈ pages, tree.locate .follow (page.path destination) = .ok place

/-- The run of some turns keeps the log and the directories, and only changes
log files and the files at the places of its pages. -/
theorem PageTurns.sameBut (quiet : listeners.KeepFiles) {ds : List Descriptor}
    {pages : List Page} {w w' : Workspace} (turns : PageTurns job listeners w ds pages w') :
    w'.hub = w.hub ∧
      w.tree.SameBut
        (fun place => w.hub.LogsTo place ∨ WrittenAt job.destination w'.tree pages place)
        w'.tree := by
  induction turns with
  | nil w => exact ⟨rfl, .refl _ _⟩
  | @documented d rest page pages w w₁ w₂ w₃ w' rendered written told turns ih =>
      obtain ⟨place, puts⟩ := exists_putsPage quiet rendered written told
      obtain ⟨hhub, hfiles⟩ := ih
      refine ⟨hhub.trans puts.hub, .trans (puts.files.mono ?_) (hfiles.mono ?_)⟩
      · rintro other (logs | rfl)
        · exact .inl logs
        · exact .inr ⟨page, List.mem_cons_self, puts.locate _ hfiles.ways⟩
      · rintro other (logs | ⟨q, hq, hlocate⟩)
        · rw [← puts.hub]
          exact .inl logs
        · exact .inr ⟨q, List.mem_cons_of_mem _ hq, hlocate⟩
  | skipped turn turns ih =>
      have kept := turn.keepsFiles_of_warning quiet
      obtain ⟨hhub, hfiles⟩ := ih
      refine ⟨hhub.trans kept.hub, (kept.files.mono fun _ => .inl).trans ?_⟩
      rw [← kept.hub]
      exact hfiles

theorem PageTurns.exists_locate (quiet : listeners.KeepFiles) {ds : List Descriptor}
    {pages : List Page} {w w' : Workspace} (turns : PageTurns job listeners w ds pages w') :
    ∀ page ∈ pages, FileTree.hasNull (page.path job.destination) = false ∧
      ∃ place, w'.tree.locate .follow (page.path job.destination) = .ok place := by
  induction turns with
  | nil w =>
      intro page hmem
      cases hmem
  | documented rendered written told turns ih =>
      intro page hmem
      rcases List.mem_cons.mp hmem with rfl | hmem
      · obtain ⟨place, puts⟩ := exists_putsPage quiet rendered written told
        exact ⟨puts.noNull, place, puts.locate _ (turns.sameBut quiet).2.ways⟩
      · exact ih page hmem
  | skipped turn turns ih => exact ih

def SameContentAt (destination : String) (tree : FileTree) (p q : Page) : Prop :=
  tree.locate .follow (p.path destination) = tree.locate .follow (q.path destination) →
    p.content = q.content

/-- The page that is written last at a place stays there. The induction is on the
turns from the first: a page is either written over by a later one, which then
has the same content, or its place is not touched any more. -/
theorem PageTurns.get?_of_pairwise (quiet : listeners.KeepFiles) {ds : List Descriptor}
    {pages : List Page} {w w' : Workspace} (turns : PageTurns job listeners w ds pages w')
    (apart : ∀ place, WrittenAt job.destination w'.tree pages place → ¬ w.hub.LogsTo place)
    (agree : pages.Pairwise (SameContentAt job.destination w'.tree)) :
    ∀ page ∈ pages, ∀ place, w'.tree.locate .follow (page.path job.destination) = .ok place →
      w'.tree.get? place = some (.file (.text page.content)) := by
  induction turns with
  | nil w =>
      intro page hmem
      cases hmem
  | @documented d rest page pages w w₁ w₂ w₃ w' rendered written told turns ih =>
      obtain ⟨place, puts⟩ := exists_putsPage quiet rendered written told
      obtain ⟨-, hfiles⟩ := turns.sameBut quiet
      have hplace := puts.locate _ hfiles.ways
      obtain ⟨hfirst, hlater⟩ := List.pairwise_cons.mp agree
      rw [puts.hub] at hfiles ih
      have later := ih (fun other ⟨q, hq, hlocate⟩ =>
        apart other ⟨q, List.mem_cons_of_mem _ hq, hlocate⟩) hlater
      intro q hmem other hother
      rcases List.mem_cons.mp hmem with rfl | hmem
      · obtain rfl : place = other := Except.ok.inj (hplace.symm.trans hother)
        by_cases again : WrittenAt job.destination w'.tree pages place
        · -- A later page is at the same place, and so has the same content.
          obtain ⟨q', hq', hlocate'⟩ := again
          rw [hfirst q' hq' (hplace.trans hlocate'.symm)]
          exact later q' hq' place hlocate'
        · have unlogged := apart place ⟨q, List.mem_cons_self, hplace⟩
          rw [hfiles.get? place (not_or.mpr ⟨unlogged, again⟩)]
          exact puts.content unlogged
      · exact later q hmem other hother
  | skipped turn turns ih =>
      have kept := turn.keepsFiles_of_warning quiet
      refine ih ?_ agree
      rw [kept.hub]
      exact apart

theorem PageTurns.read_iff (quiet : listeners.KeepFiles) {ds : List Descriptor}
    {pages : List Page} {w w' : Workspace} (turns : PageTurns job listeners w ds pages w')
    (apart : ∀ place, WrittenAt job.destination w'.tree pages place → ¬ w.hub.LogsTo place) :
    (∀ page ∈ pages, w'.tree.read (page.path job.destination) = .ok (.text page.content)) ↔
      pages.Pairwise (SameContentAt job.destination w'.tree) := by
  constructor
  · intro hread
    refine List.pairwise_of_forall_mem_list fun p hp q hq same => ?_
    obtain ⟨-, place, hplace, hp⟩ := FileTree.read_eq_ok_iff.mp (hread p hp)
    obtain ⟨-, place', hplace', hq⟩ := FileTree.read_eq_ok_iff.mp (hread q hq)
    obtain rfl : place = place' := Except.ok.inj ((hplace.symm.trans same).trans hplace')
    exact Content.text.inj (Entry.file.inj (Option.some.inj (hp.symm.trans hq)))
  · intro agree page hmem
    obtain ⟨hnull, place, hplace⟩ := turns.exists_locate quiet page hmem
    exact FileTree.read_eq_ok_iff.mpr
      ⟨hnull, place, hplace, turns.get?_of_pairwise quiet apart agree page hmem place hplace⟩

/-- What becomes of the pages when a run returns: nobody listening changes files,
and the log is not written where pages are. Then the paths that are told are all
different and lead to what was rendered, exactly when no two documented commands
have the same path, and those that are written at one place have the same content. -/
theorem pages_survive_iff {report : Report} {w w' : Workspace} (quiet : listeners.KeepFiles)
    (h : (generate job listeners).outcome w = (.ok report, w')) :
    ∃ ds w₁ w₂ pages,
      (readCommands job.source job.manifestName job.scanPlugins).outcome w = (.ok ds, w₁) ∧
      (ds ≠ [] → ∃ destination,
        (ensureDestination job.destination).outcome w₁ = (.ok destination, w₂)) ∧
      PageTurns job listeners w₂ ds pages w' ∧
      report.generated = pages.map (Page.path job.destination) ∧
      ((∀ place, WrittenAt job.destination w'.tree pages place → ¬ w'.hub.LogsTo place) →
        (report.generated.Nodup ∧
            (∀ page ∈ pages,
              w'.tree.read (page.path job.destination) = .ok (.text page.content)) ↔
          pages.Pairwise fun p q =>
            p.path job.destination ≠ q.path job.destination ∧
              SameContentAt job.destination w'.tree p q)) := by
  obtain ⟨ds, w₁, read, h⟩ := generate_eq_ok_iff.mp h
  rcases h with ⟨rfl, told, rfl⟩ | ⟨hne, destination, w₂, events, made, turns, rfl⟩
  · exact ⟨[], w₁, w', [], read, fun hne => absurd rfl hne, .nil w', rfl, by simp⟩
  · obtain ⟨pages, turns, hpaths⟩ := turns.exists_pageTurns
    refine ⟨ds, w₁, w₂, pages, read, fun _ => ⟨destination, made⟩, turns, hpaths, ?_⟩
    intro apart
    have hgenerated : (Report.add { commandsFound := ds.length } events).generated =
        pages.map (Page.path job.destination) := hpaths
    rw [(turns.sameBut quiet).1] at apart
    rw [hgenerated, List.Nodup, List.pairwise_map, turns.read_iff quiet apart,
      ← List.pairwise_and_iff]

def documentedClass (id : Nat) (name doc : String) : Target :=
  .object (.cls (.mk id name [("run", .function { doc := .text doc.toList })]
    [Script.Class.object]))

/-- A project with two commands of the given names, which the registry knows. -/
def twoCommands (first second : String) : Workspace where
  tree :=
    { entries :=
        [(["p"], .directory),
          (["p", "composer.json"],
            .file (.text ("\x7b\"extra\": \x7b\"commands\": [\"" ++ first ++ "\", \"" ++
              second ++ "\"]\x7d\x7d").toList))]
      here := ["p"] }
  registry :=
    { targets :=
        [(first, documentedClass 1000 "First" "One."),
          (second, documentedClass 1001 "Second" "Two.")] }

/-- The pages of two commands are both there in the end. -/
theorem greeting_and_parting_survive :
    ∃ report w' p q, (generate {} {}).outcome (twoCommands "greet" "part") = (.ok report, w') ∧
      report.generated = [Page.path "docs/" p, Page.path "docs/" q] ∧ report.generated.Nodup ∧
      w'.tree.read (p.path "docs/") = .ok (.text p.content) ∧
      w'.tree.read (q.path "docs/") = .ok (.text q.content) := by
  have returned : ((generate {} {}).outcome (twoCommands "greet" "part")).1.toOption.map
      Report.generated = some [outputPath "docs/" "greet.md", outputPath "docs/" "part.md"] := by
    decide +kernel
  have unlogged : ((generate {} {}).outcome
      (twoCommands "greet" "part")).2.hub.sinks.isEmpty = true := by
    decide +kernel
  have places : (((generate {} {}).outcome (twoCommands "greet" "part")).2.tree.locate .follow
      (outputPath "docs/" "greet.md")).toOption ≠
        (((generate {} {}).outcome (twoCommands "greet" "part")).2.tree.locate .follow
          (outputPath "docs/" "part.md")).toOption := by
    decide +kernel
  rcases hrun : (generate {} {}).outcome (twoCommands "greet" "part") with ⟨fault | report, w'⟩
  all_goals rw [hrun] at returned unlogged places
  · cases returned
  have quiet : Listeners.KeepFiles {} := by
    rintro (_ | _) <;> exact keepsFiles_pure _
  obtain ⟨ds, w₁, w₂, pages, -, -, -, hpages, survive⟩ := pages_survive_iff quiet hrun
  have hgenerated : report.generated =
      [outputPath "docs/" "greet.md", outputPath "docs/" "part.md"] :=
    Option.some.inj returned
  rw [hgenerated] at hpages
  obtain ⟨p, rest, rfl, hp, hrest⟩ := List.map_eq_cons_iff.mp hpages.symm
  obtain ⟨q, rfl, hq⟩ := List.map_eq_singleton_iff.mp hrest
  have hp : p.path "docs/" = outputPath "docs/" "greet.md" := hp
  have hq : q.path "docs/" = outputPath "docs/" "part.md" := hq
  have apart : ∀ place, WrittenAt "docs/" w'.tree [p, q] place → ¬ w'.hub.LogsTo place := by
    rintro place - ⟨id, level, hmem⟩
    rw [List.isEmpty_iff.mp unlogged] at hmem
    cases hmem
  have differ : p.path "docs/" ≠ q.path "docs/" := by
    rw [hp, hq]
    decide +kernel
  have elsewhere : SameContentAt "docs/" w'.tree p q := by
    intro same
    rw [hp, hq] at same
    exact absurd (congrArg Except.toOption same) places
  obtain ⟨nodup, hread⟩ := (survive apart).mpr (List.pairwise_pair.mpr ⟨differ, elsewhere⟩)
  refine ⟨report, w', p, q, rfl, ?_, nodup, hread p ?_, hread q ?_⟩
  · rw [hgenerated, hp, hq]
  · exact List.mem_cons_self
  · exact List.mem_cons_of_mem _ (List.mem_singleton_self q)

def twinProject : Workspace := twoCommands "a" "./a"

/-- The run tells one path twice, and only the second page is there in the end. -/
theorem twin_page_is_lost :
    ((generate {} {}).outcome twinProject).1.toOption.map Report.generated =
        some [outputPath "docs/" "a.md", outputPath "docs/" "a.md"] ∧
      (((generate {} {}).outcome twinProject).2.tree.read
        (outputPath "docs/" "a.md")).toOption.bind (·.decode.toOption) =
          some "# wp ./a run\n\nTwo.\n\n\n".toList := by
  constructor <;> decide +kernel

end Action

end CommandManual
