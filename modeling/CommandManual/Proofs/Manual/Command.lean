import CommandManual.Manual.Generate
import CommandManual.Proofs.Frame

/-!
The work on one command. Reading the manifests and rendering a page change no
file but log files; writing a page puts its text at one place of the tree, and
the record that it leaves is all that comes after.
-/

namespace CommandManual

/-! ### What reading and rendering keep -/

structure Workspace.WideFraming (R : Workspace → Workspace → Prop) : Prop extends Framing R where
  intake : ∀ w registry lookups, R w { w with registry, lookups }
  request : ∀ w tree name,
    R w ((Action.ofExec (Script.requestAbsolute tree name)).outcome w).2
  carryOut : ∀ w tree file, w.memory.loaded.lookup (Script.moduleName file) = none →
    R w ((Action.ofExec (Script.carryOut tree (Script.moduleName file) file)).outcome w).2

namespace Workspace

open CommandManual.Action

variable {R : Workspace → Workspace → Prop}

theorem Framing.gatherCommands (F : Framing R) (source : Path) (name : String)
    (seen : List String) (directories : List Path) :
    (gatherCommands source name seen directories).Keeps R := by
  induction directories generalizing seen with
  | nil => exact F.pure _
  | cons directory rest ih =>
      unfold Action.gatherCommands
      refine F.bind F.get fun w => F.bind (F.ofTraced _) fun found => ?_
      refine F.bind (F.ofTraced _) fun ⟨kept, seen⟩ => ?_
      exact F.bind (ih seen) fun _ => F.pure _

theorem Framing.readCommands (F : Framing R) (source : Path) (name : String) (plugins : Bool) :
    (readCommands source name plugins).Keeps R :=
  F.bind F.get fun _ => F.bind (F.ofExcept _) fun _ => F.gatherCommands _ _ _ _

theorem Framing.findFile (F : Framing R) (path : Path) (className : String) :
    (findFile path className).Keeps R := by
  unfold Action.findFile
  refine F.bind F.get fun w => F.bind (F.ofExcept _) fun found => ?_
  split
  · exact F.bind (F.ofExcept _) fun _ => F.pure _
  · exact F.throw _

theorem Framing.resolveClass (F : Framing R) (index : Nat) (className : String) :
    (resolveClass index className).Keeps R := by
  unfold Action.resolveClass
  refine F.bind F.get fun w => ?_
  split
  · exact F.throw _
  · exact F.pure _
  · exact F.throw _

theorem Framing.docsFrom (F : Framing R) (d : Descriptor) (provider : Provider) :
    (docsFrom d provider).Keeps R := by
  unfold Action.docsFrom
  refine F.bind F.get fun w => F.bind (F.ofTraced _) fun answer => ?_
  refine F.bind (F.ofExcept _) fun empty => ?_
  split
  · exact F.bind (F.note _ _ _ _) fun _ => F.ofExcept _
  · exact F.ofExcept _

namespace WideFraming

theorem loadNew (F : WideFraming R) {path : Path} {className : String} {file : Path}
    {w : Workspace} (new : w.memory.loaded.lookup (Script.moduleName file) = none) :
    R w ((loadNew path className file).outcome w).2 := by
  unfold Action.loadNew
  rw [outcome_bind, outcome_get]
  dsimp only
  split
  · exact F.throw _ w
  · exact F.throw _ w
  · have carried := F.carryOut w w.tree file new
    rw [outcome_bind]
    rcases hrun : (ofExec (Script.carryOut w.tree (Script.moduleName file) file)).outcome w
      with ⟨_ | result, w'⟩
    all_goals rw [hrun] at carried
    · exact carried
    · refine F.trans carried ?_
      dsimp only
      split
      · exact F.throw _ w'
      · exact F.bind (F.note _ _ _ _) (fun _ => F.pure _) w'

theorem loadFile (F : WideFraming R) (path : Path) (className : String) :
    (loadFile path className).Keeps R := by
  unfold Action.loadFile
  refine F.bind (F.findFile _ _) fun file w => ?_
  rw [outcome_bind, outcome_get]
  dsimp only
  split
  · exact F.pure _ w
  · rename_i new
    exact F.loadNew new

theorem importClass (F : WideFraming R) (classPath : String) :
    (importClass classPath).Keeps R := by
  unfold Action.importClass
  split
  · exact F.throw _
  · refine F.bind F.get fun w => F.bind (fun w => F.request w _ _) fun result => ?_
    split
    · exact F.resolveClass _ _
    · split
      · exact F.throw _
      · exact F.throw _

theorem importedProvider (F : WideFraming R) (d : Descriptor) : (importedProvider d).Keeps R := by
  unfold Action.importedProvider
  split
  · exact F.throw _
  · exact F.bind (F.importClass _) fun _ => F.pure _

theorem answeringProvider (F : WideFraming R) (d : Descriptor) (o : Script.Object) :
    (answeringProvider d o).Keeps R := by
  unfold Action.answeringProvider
  refine F.bind F.get fun w => F.bind (F.ofExcept _) fun answers => ?_
  split
  · exact F.pure _
  · exact F.throw _

theorem targetProvider (F : WideFraming R) (d : Descriptor) (target : Option Target) :
    (targetProvider d target).Keeps R := by
  unfold Action.targetProvider
  split
  · exact F.pure _
  · exact F.pure _
  · exact F.importedProvider _
  · exact F.importedProvider _
  · exact F.answeringProvider _ _

theorem registered (F : WideFraming R) (name : String) : (registered name).Keeps R := by
  have keepIntake (group : String) (i : Registry.Intake) : (keepIntake group i).Keeps R := by
    unfold Action.keepIntake
    refine F.bind (fun w => F.intake w _ _) fun _ => F.bind (F.ofTraced _) fun _ => ?_
    split
    · exact F.throw _
    · exact F.pure _
  unfold Action.registered
  refine F.bind F.get fun w => ?_
  dsimp only
  split
  · exact F.bind (keepIntake _ _) fun _ => F.pure _
  · exact F.pure _

theorem loadProvider (F : WideFraming R) (d : Descriptor) : (loadProvider d).Keeps R := by
  unfold Action.loadProvider
  split
  · refine F.bind (F.loadFile _ _) fun index => ?_
    exact F.bind (F.resolveClass _ _) fun _ => F.pure _
  · exact F.bind (F.registered _) fun target => F.targetProvider d target

theorem renderCommand (F : WideFraming R) (headingLead : String) (d : Descriptor) :
    (renderCommand headingLead d).Keeps R :=
  F.bind (F.loadProvider d) fun provider => F.bind (F.docsFrom d provider) fun _ => F.pure _

end WideFraming

/-- Command files and the registry do not touch the files. -/
theorem onlyLogs_wideFraming : WideFraming OnlyLogs where
  toFraming := onlyLogs_framing
  intake w _ _ := ⟨rfl, .refl w⟩
  request w _ _ := ⟨rfl, .refl w⟩
  carryOut w _ _ _ := ⟨rfl, .refl w⟩

end Workspace

namespace Action

theorem keepsFiles_readCommands (source : Path) (name : String) (plugins : Bool) :
    (readCommands source name plugins).KeepsFiles :=
  fun w => (Workspace.onlyLogs_framing.readCommands source name plugins w).keepsFiles

theorem keepsFiles_renderCommand (headingLead : String) (d : Descriptor) :
    (renderCommand headingLead d).KeepsFiles :=
  fun w => (Workspace.onlyLogs_wideFraming.renderCommand headingLead d w).keepsFiles

/-- Making the destination changes the tree and nothing else, whatever comes of it. -/
theorem outcome_ensureDestination_snd (destination : String) (w : Workspace) :
    ((ensureDestination destination).outcome w).2 =
      { w with tree := (w.tree.ensureDirectory (Path.ofString destination)).2 } := by
  unfold ensureDestination
  rw [outcome_bind, outcome_get]
  dsimp only
  rcases w.tree.ensureDirectory (Path.ofString destination) with ⟨(⟨refusal, shown⟩ | _) | _, tree⟩
  all_goals rfl

/-! ### The page of a command -/

/-- A page is rendered for the command that it was asked for. -/
theorem commandName_of_renderCommand {headingLead : String} {d : Descriptor} {w w' : Workspace}
    {page : Page} (h : (renderCommand headingLead d).outcome w = (.ok page, w')) :
    page.commandName = d.commandName := by
  unfold renderCommand at h
  obtain ⟨provider, w₁, -, h⟩ := outcome_bind_eq_ok.mp h
  obtain ⟨docs, w₂, -, h⟩ := outcome_bind_eq_ok.mp h
  cases h
  rfl

def writtenRecord (path : Path) (page : Page) : Log.Record :=
  .named writerLogger .debug
    ("Wrote " ++ path.toString ++ " (" ++ toString page.content.length ++ " chars)")
    [("path", .str path.toString), ("size", .int page.content.length)]

theorem writePage_eq_ok_iff {destination : String} {page : Page} {w w' : Workspace}
    {path : Path} :
    (writePage destination page).outcome w = (.ok path, w') ↔
      path = outputPath destination page.fileName ∧
        ∃ tree, w.tree.write path (.text page.content) = .ok tree ∧
          w' = { w with tree }.deliver (writtenRecord path page) := by
  unfold writePage
  rw [outcome_bind, outcome_get]
  rcases hw : w.tree.write (outputPath destination page.fileName) (.text page.content)
    with (⟨refusal, shown⟩ | _) | tree
  · simp only [hw]
    constructor
    · intro h
      cases h
    · rintro ⟨rfl, tree, htree, -⟩
      rw [hw] at htree
      cases htree
  · simp only [hw]
    constructor
    · intro h
      cases h
    · rintro ⟨rfl, tree, htree, -⟩
      rw [hw] at htree
      cases htree
  · simp only [hw]
    constructor
    · intro h
      cases h
      exact ⟨rfl, tree, hw, rfl⟩
    · rintro ⟨rfl, tree', htree, rfl⟩
      rw [hw] at htree
      cases htree
      rfl

theorem eq_of_writePage_error {destination : String} {page : Page} {fault : Fault}
    {w w' : Workspace} (h : (writePage destination page).outcome w = (.error fault, w')) :
    w' = w := by
  unfold writePage at h
  rw [outcome_bind, outcome_get] at h
  dsimp only at h
  split at h
  · cases h
    rfl
  · cases h
    rfl
  · cases h

/-! ### Events -/

/-- Reading and rendering tell nothing by themselves. -/
theorem events_wideFraming : Workspace.WideFraming fun w w' => w'.events = w.events where
  refl _ := rfl
  trans h h' := h'.trans h
  deliver _ _ := rfl
  intake _ _ _ := rfl
  request _ _ _ := rfl
  carryOut _ _ _ _ := rfl

theorem events_writePage (destination : String) (page : Page) (w : Workspace) :
    ((writePage destination page).outcome w).2.events = w.events := by
  rcases hrun : (writePage destination page).outcome w with ⟨fault | path, w'⟩
  · rw [eq_of_writePage_error hrun]
  · obtain ⟨-, tree, -, rfl⟩ := writePage_eq_ok_iff.mp hrun
    rfl

theorem events_documentCommand (job : Job) (d : Descriptor) (w : Workspace) :
    ((documentCommand job d).outcome w).2.events = w.events := by
  have rendered : ((renderCommand job.headingLead d).outcome w).2.events = w.events :=
    events_wideFraming.renderCommand job.headingLead d w
  rw [documentCommand, outcome_bind]
  generalize (renderCommand job.headingLead d).outcome w = ran at rendered ⊢
  obtain ⟨fault | page, w'⟩ := ran
  · exact rendered
  · dsimp only at rendered ⊢
    rw [events_writePage, rendered]

end Action

end CommandManual
