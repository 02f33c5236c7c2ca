import CommandManual.Proofs.Command.Growth
import CommandManual.Proofs.Manual.Command
import CommandManual.Proofs.Script.Relisted
import CommandManual.Shell.Run

/-!
Runs over trees that list their directories in different orders. A step is blind to the order
if it gives the same result in both trees and leaves workspaces that differ in that order alone.
Steps that are put together from blind steps are blind, and so is everything that is done with
manifests, command files and pages.
-/

namespace CommandManual

open FileTree

/-! ### Log records -/

namespace Log

inductive Desk.Relisted (d : Desk) : Desk → Prop
  | intro {tree : FileTree} : d.tree.Relisted tree → Relisted d { d with tree }

theorem Logging.appendTo_relisted {tree tree' : FileTree} (h : tree.Relisted tree')
    (place : Place) (line : String) :
    (appendTo tree place line).Relisted (appendTo tree' place line) := by
  unfold appendTo
  rw [h.get?]
  split
  case h_4 => exact h
  all_goals exact h.put place _

theorem Logging.writeTo_relisted (r : Record) (s : Sink) {d d' : Desk} (h : d.Relisted d') :
    (writeTo r s d).Relisted (writeTo r s d') := by
  obtain ⟨h⟩ := h
  cases s with
  | terminal level layout color stamped => cases layout <;> exact ⟨h⟩
  | file level place => exact ⟨appendTo_relisted h place _⟩
  | foreign level => exact ⟨h⟩

theorem Logging.handOut_relisted (sinks : List Sink) (r : Record) {d d' : Desk}
    (h : d.Relisted d') : (handOut sinks r d).Relisted (handOut sinks r d') := by
  induction sinks generalizing r d d' with
  | nil => exact h
  | cons s rest ih =>
      unfold handOut
      split
      · exact ih _ (writeTo_relisted _ s h)
      · exact ih r h

end Log

inductive Workspace.Relisted (w : Workspace) : Workspace → Prop
  | intro {tree : FileTree} : w.tree.Relisted tree → Relisted w { w with tree }

namespace Workspace.Relisted

variable {w w' : Workspace}

theorem tree (h : w.Relisted w') : w.tree.Relisted w'.tree := by
  obtain ⟨h⟩ := h
  exact h

theorem memory (h : w.Relisted w') : w'.memory = w.memory := by
  obtain ⟨-⟩ := h
  rfl

theorem deliver (h : w.Relisted w') (r : Log.Record) : (w.deliver r).Relisted (w'.deliver r) := by
  obtain @⟨tree, h⟩ := h
  have desk : w.toDesk.Relisted { w.toDesk with tree } := ⟨h⟩
  have told := Log.Logging.handOut_relisted (w.hub.sinks.map Prod.snd) r desk
  unfold Workspace.deliver Log.Desk.deliver
  dsimp only
  generalize Log.Logging.handOut (w.hub.sinks.map Prod.snd) r w.toDesk = d at told ⊢
  generalize Log.Logging.handOut (w.hub.sinks.map Prod.snd) r { w.toDesk with tree } = d' at told ⊢
  obtain ⟨told⟩ := told
  exact ⟨told⟩

theorem deliverAll (h : w.Relisted w') (records : List Log.Record) :
    (records.foldl Workspace.deliver w).Relisted (records.foldl Workspace.deliver w') := by
  induction records generalizing w w' with
  | nil => exact h
  | cons r rest ih => exact ih (h.deliver r)

end Workspace.Relisted

namespace Action

variable {α β : Type}

/-- Two outcomes that agree, with workspaces that differ in the order of their trees alone. -/
structure Agree (x x' : Except Fault α × Workspace) : Prop where
  result : x'.1 = x.1
  workspace : x.2.Relisted x'.2

/-- A step that does not depend on the order in which directories are listed. -/
def Blind (x : Action α) : Prop :=
  ∀ w w' : Workspace, w.Relisted w' → Agree (x.outcome w) (x.outcome w')

/-! ### Steps -/

theorem blind_pure (a : α) : (pure a : Action α).Blind := fun _ _ h => ⟨rfl, h⟩

theorem blind_throw (f : Fault) : (throw f : Action α).Blind := fun _ _ h => ⟨rfl, h⟩

theorem blind_ofExcept (x : Except Fault α) : (ofExcept x).Blind := fun _ _ h => ⟨rfl, h⟩

theorem blind_ofTraced (x : Traced α) : (ofTraced x).Blind :=
  fun _ _ h => ⟨rfl, h.deliverAll x.outcome.2⟩

theorem blind_note (logger : String) (level : Log.Level) (message : String)
    (values : List (String × Value)) : (note logger level message values).Blind :=
  blind_ofTraced _

theorem blind_ofExec (x : Script.Exec α) : (ofExec x).Blind := by
  rintro w _ ⟨h⟩
  exact ⟨rfl, ⟨h⟩⟩

theorem blind_modify {f : Workspace → Workspace}
    (kept : ∀ w w', w.Relisted w' → (f w).Relisted (f w')) : (modify f : Action PUnit).Blind :=
  fun w w' h => ⟨rfl, kept w w' h⟩

theorem Agree.bind {x : Action α} {f : α → Action β} {w w' : Workspace}
    (first : Agree (x.outcome w) (x.outcome w')) (later : ∀ a, (f a).Blind) :
    Agree ((x >>= f).outcome w) ((x >>= f).outcome w') := by
  rw [outcome_bind, outcome_bind]
  rcases run : x.outcome w with ⟨result, w₁⟩
  rcases run' : x.outcome w' with ⟨result', w₁'⟩
  rw [run, run'] at first
  obtain ⟨same, alike⟩ := first
  obtain rfl : result' = result := same
  cases result' with
  | error e => exact ⟨rfl, alike⟩
  | ok a => exact later a w₁ w₁' alike

theorem Blind.bind {x : Action α} {f : α → Action β} (first : x.Blind)
    (later : ∀ a, (f a).Blind) : (x >>= f).Blind :=
  fun w w' h => (first w w' h).bind later

theorem Blind.attempt {x : Action α} (h : x.Blind) : (attempt x).Blind := by
  intro w w' alike
  obtain ⟨same, later⟩ := h w w' alike
  exact ⟨congrArg Except.ok same, later⟩

/-- A step that reads the workspace is blind if what it does then is, and is the same for every
order. -/
theorem blind_get_bind {f : Workspace → Action α} (later : ∀ w, (f w).Blind)
    (same : ∀ w w' : Workspace, w.Relisted w' → f w' = f w) :
    ((get : Action Workspace) >>= f).Blind := by
  intro w w' h
  show Agree ((f w).outcome w) ((f w').outcome w')
  rw [same w w' h]
  exact later w w w' h

theorem blind_print (s : String) : (print s).Blind := by
  apply blind_modify
  rintro w _ ⟨h⟩
  exact ⟨h⟩

end Action

/-! ### Manifests -/

namespace Manifest

variable {tree tree' : FileTree}

theorem commands_of_relisted (h : tree.Relisted tree') (directory : Path) (name : String) :
    commands tree' directory name = commands tree directory name :=
  commands_eq_of_stat (h.stat _)

theorem isPlugin_of_relisted (h : tree.Relisted tree') (name : String) :
    isPlugin tree' name = isPlugin tree name := by
  funext directory
  rw [isPlugin, isPlugin, h.isDirectory, h.isFile]

/-- Which directories belong to a project, and in which order, does not depend on the order in
which directories are listed. -/
theorem directories_of_relisted (h : tree.Relisted tree') (source : Path) (name : String)
    (plugins : Bool) :
    directories tree' source name plugins = directories tree source name plugins := by
  have among : pluginsAmong tree' name = pluginsAmong tree name := by
    funext paths
    induction paths with
    | nil => rfl
    | cons path rest ih => rw [pluginsAmong, pluginsAmong, isPlugin_of_relisted h, ih]
  have others : pluginsOf tree' source name plugins = pluginsOf tree source name plugins := by
    rw [pluginsOf, pluginsOf, h.list, among]
  rw [directories, directories, h.isDirectory, h.isFile, others]

end Manifest

namespace Action

theorem blind_gatherCommands (source : Path) (name : String) (seen : List String)
    (directories : List Path) : (gatherCommands source name seen directories).Blind := by
  induction directories generalizing seen with
  | nil => exact blind_pure _
  | cons directory rest ih =>
      unfold gatherCommands
      apply blind_get_bind
      · intro w
        refine (blind_ofTraced _).bind fun found => ?_
        refine (blind_ofTraced _).bind fun step => ?_
        exact (ih step.2).bind fun _ => blind_pure _
      · intro w w' h
        have same := Manifest.commands_of_relisted h.tree directory name
        dsimp only
        rw [Manifest.read_congr same, Manifest.readPlugin_congr same]

theorem blind_readCommands (source : Path) (name : String) (plugins : Bool) :
    (readCommands source name plugins).Blind := by
  unfold readCommands
  apply blind_get_bind
  · exact fun w => (blind_ofExcept _).bind fun _ => blind_gatherCommands _ _ _ _
  · intro w w' h
    rw [Manifest.directories_of_relisted h.tree]

/-! ### Providers -/

theorem blind_findFile (path : Path) (className : String) : (findFile path className).Blind := by
  unfold findFile
  apply blind_get_bind
  · intro w
    refine (blind_ofExcept _).bind fun found => ?_
    split
    · exact (blind_ofExcept _).bind fun _ => blind_pure _
    · exact blind_throw _
  · intro w w' h
    dsimp only
    rw [h.tree.isFile, h.tree.locate]

theorem blind_loadNew (path : Path) (className : String) (file : Path) :
    (loadNew path className file).Blind := by
  unfold loadNew
  apply blind_get_bind
  · intro w
    dsimp only
    split
    · exact blind_throw _
    · exact blind_throw _
    · refine (blind_ofExec _).bind fun result => ?_
      split
      · exact blind_throw _
      · exact (blind_note _ _ _ _).bind fun _ => blind_pure _
  · intro w w' h
    dsimp only
    rw [Script.bytesAt_of_relisted h.tree, Script.carryOut_of_relisted h.tree]

theorem blind_loadFile (path : Path) (className : String) : (loadFile path className).Blind := by
  unfold loadFile
  refine (blind_findFile _ _).bind fun file => ?_
  apply blind_get_bind
  · intro w
    split
    · exact blind_pure _
    · exact blind_loadNew _ _ _
  · intro w w' h
    rw [h.memory]

theorem blind_resolveClass (index : Nat) (className : String) :
    (resolveClass index className).Blind := by
  unfold resolveClass
  apply blind_get_bind
  · intro w
    split
    · exact blind_throw _
    · exact blind_pure _
    · exact blind_throw _
  · intro w w' h
    rw [h.memory]

theorem blind_importClass (classPath : String) : (importClass classPath).Blind := by
  unfold importClass
  split
  · exact blind_throw _
  · apply blind_get_bind
    · intro w
      refine (blind_ofExec _).bind fun result => ?_
      split
      · exact blind_resolveClass _ _
      · split <;> exact blind_throw _
    · intro w w' h
      dsimp only
      rw [Script.requestAbsolute_of_relisted h.tree]

theorem blind_importedProvider (d : Descriptor) : (importedProvider d).Blind := by
  unfold importedProvider
  split
  · exact blind_throw _
  · exact (blind_importClass _).bind fun _ => blind_pure _

theorem blind_answeringProvider (d : Descriptor) (o : Script.Object) :
    (answeringProvider d o).Blind := by
  unfold answeringProvider
  apply blind_get_bind
  · intro w
    refine (blind_ofExcept _).bind fun answers => ?_
    split
    · exact blind_pure _
    · exact blind_throw _
  · intro w w' h
    rw [h.memory]

theorem blind_targetProvider (d : Descriptor) (target : Option Target) :
    (targetProvider d target).Blind := by
  unfold targetProvider
  split
  · exact blind_pure _
  · exact blind_pure _
  · exact blind_importedProvider _
  · exact blind_importedProvider _
  · exact blind_answeringProvider _ _

theorem blind_keepIntake (group : String) (i : Registry.Intake) : (keepIntake group i).Blind := by
  unfold keepIntake
  refine (blind_modify ?_).bind fun _ => (blind_ofTraced _).bind fun _ => ?_
  · rintro w _ ⟨h⟩
    exact ⟨h⟩
  · split
    · exact blind_throw _
    · exact blind_pure _

theorem blind_registered (name : String) : (registered name).Blind := by
  unfold registered
  apply blind_get_bind
  · intro w
    dsimp only
    split
    · exact (blind_keepIntake _ _).bind fun _ => blind_pure _
    · exact blind_pure _
  · rintro w _ ⟨h⟩
    rfl

theorem blind_loadProvider (d : Descriptor) : (loadProvider d).Blind := by
  unfold loadProvider
  split
  · refine (blind_loadFile _ _).bind fun index => ?_
    exact (blind_resolveClass _ _).bind fun _ => blind_pure _
  · exact (blind_registered _).bind fun target => blind_targetProvider d target

/-! ### Pages -/

theorem blind_docsFrom (d : Descriptor) (provider : Provider) : (docsFrom d provider).Blind := by
  unfold docsFrom
  apply blind_get_bind
  · intro w
    refine (blind_ofTraced _).bind fun answer => (blind_ofExcept _).bind fun empty => ?_
    split
    · exact (blind_note _ _ _ _).bind fun _ => blind_ofExcept _
    · exact blind_ofExcept _
  · intro w w' h
    rw [h.memory]

theorem blind_renderCommand (headingLead : String) (d : Descriptor) :
    (renderCommand headingLead d).Blind :=
  (blind_loadProvider d).bind fun provider => (blind_docsFrom d provider).bind fun _ =>
    blind_pure _

theorem blind_writePage (destination : String) (page : Page) :
    (writePage destination page).Blind := by
  rintro w _ ⟨h⟩
  unfold writePage
  rw [outcome_bind, outcome_bind, outcome_get, outcome_get]
  dsimp only
  rcases h.write (outputPath destination page.fileName) (.text page.content) with
    ⟨e, failed, failed'⟩ | ⟨written, written', done, done', alike⟩
  · rw [failed, failed']
    cases e <;> exact ⟨rfl, ⟨h⟩⟩
  · rw [done, done']
    have later := (blind_note writerLogger .debug
      ("Wrote " ++ (outputPath destination page.fileName).toString ++ " (" ++
        toString page.content.length ++ " chars)")
      [("path", .str (outputPath destination page.fileName).toString),
        ("size", .int page.content.length)]).bind fun _ =>
          blind_pure (outputPath destination page.fileName)
    exact later { w with tree := written } { w with tree := written' } ⟨alike⟩

theorem blind_ensureDestination (destination : String) :
    (ensureDestination destination).Blind := by
  rintro w _ @⟨tree, h⟩
  have made := h.ensureDirectory (Path.ofString destination)
  unfold ensureDestination
  rw [outcome_bind, outcome_bind, outcome_get, outcome_get]
  dsimp only
  rcases run : w.tree.ensureDirectory (Path.ofString destination) with ⟨result, t⟩
  rcases run' : tree.ensureDirectory (Path.ofString destination) with ⟨result', t'⟩
  rw [run, run'] at made
  obtain ⟨same, alike⟩ := made
  obtain rfl : result' = result := same
  have alike' : ({ w with tree := t } : Workspace).Relisted { w with tree := t' } := ⟨alike⟩
  rcases result' with (⟨refusal, refused⟩ | _) | _
  all_goals exact ⟨rfl, alike'⟩

/-! ### Runs -/

/-- Listeners that do not depend on the order in which directories are listed. -/
structure Listeners.Blind (listeners : Listeners) : Prop where
  onGenerated : ∀ f, listeners.onGenerated = some f → ∀ path, (f path).Blind
  onWarning : ∀ f, listeners.onWarning = some f → ∀ message, (f message).Blind

section Runs

variable {job : Job} {listeners : Listeners} (deaf : Listeners.Blind listeners)

include deaf

theorem blind_tell (event : Event) : (tell listeners event).Blind := by
  cases event with
  | generated path =>
      rw [tell]
      cases heard : listeners.onGenerated with
      | none => exact blind_pure _
      | some f => exact deaf.onGenerated f heard path
  | warning message =>
      rw [tell]
      cases heard : listeners.onWarning with
      | none => exact blind_pure _
      | some f => exact deaf.onWarning f heard message

theorem blind_warn (message : String) : (warn listeners message).Blind :=
  (blind_note _ _ _ _).bind fun _ => blind_tell deaf _

theorem blind_documentAll (report : Report) (ds : List Descriptor) :
    (documentAll job listeners report ds).Blind := by
  induction ds generalizing report with
  | nil => exact blind_pure _
  | cons d rest ih =>
      unfold documentAll
      have documented : (documentCommand job d).Blind :=
        (blind_renderCommand _ d).bind fun page => blind_writePage _ page
      refine documented.attempt.bind fun result => ?_
      split
      · refine (blind_note _ _ _ _).bind fun _ => (blind_tell deaf _).bind fun _ => ?_
        exact ih _
      · split
        · refine (blind_ofExcept _).bind fun message => ?_
          exact (blind_warn deaf _).bind fun _ => ih _
        · exact blind_throw _

theorem blind_generate : (generate job listeners).Blind := by
  unfold generate
  refine (blind_readCommands _ _ _).bind fun ds => ?_
  split
  · exact (blind_warn deaf _).bind fun _ => blind_pure _
  · exact (blind_ensureDestination _).bind fun _ => blind_documentAll deaf _ ds

end Runs

end Action

/-- What the program shows of a run does not depend on the order either. -/
theorem Shell.Run.blind_announce : Action.Listeners.Blind announce where
  onGenerated f heard path := by
    obtain rfl := Option.some.inj heard
    exact (Action.blind_ofExcept _).bind fun line => Action.blind_print line
  onWarning f heard message := by
    obtain rfl := Option.some.inj heard
    exact (Action.blind_ofExcept _).bind fun line => Action.blind_print line

namespace Manifest

theorem isPlugin_eq_true_iff {tree : FileTree} {name : String} {directory : Path} :
    isPlugin tree name directory = .ok true ↔
      tree.isDirectory directory = .ok true ∧ tree.isFile (pathIn directory name) = .ok true := by
  rw [isPlugin, except_bind_eq_ok]
  constructor
  · rintro ⟨within, found, h⟩
    cases within with
    | false => cases h
    | true => exact ⟨accessed_eq_ok_iff.mp found, accessed_eq_ok_iff.mp h⟩
  · rintro ⟨within, found⟩
    exact ⟨true, accessed_eq_ok_iff.mpr within, accessed_eq_ok_iff.mpr found⟩

theorem pairwise_lt_pluginNames {tree : FileTree}
    (once : ∀ place, (tree.names place).Nodup) (source : Path) (name : String) :
    (pluginNames tree source name).Pairwise (· < ·) := by
  refine List.Pairwise.filter _ ?_
  unfold FileTree.list
  split
  · exact Text.pairwise_lt_sortNames (once _)
  · exact .nil

end Manifest

namespace Action

/-- The order in which directories are listed is immaterial. The directories of a project are
the same list or the same fault: the project's own directory, if it has a manifest, and when
plugins are scanned exactly those of its immediate subdirectories that have one, strictly
increasing by name. Reading the commands and generating the manual give equal results, and leave
workspaces that differ in the order of their trees alone. -/
theorem listing_order_is_immaterial {w w' : Workspace} (h : w.Relisted w')
    (once : ∀ place, (w.tree.names place).Nodup) :
    (∀ source name plugins, Manifest.directories w'.tree source name plugins =
      Manifest.directories w.tree source name plugins) ∧
    (∀ source name plugins found,
      Manifest.directories w.tree source name plugins = .ok found →
        ∃ (own : Bool) (names : List String),
          w.tree.isFile (Manifest.pathIn source name) = .ok own ∧
          found = (if own then [source] else []) ++
            (if plugins then names.map source.child else []) ∧
          names.Pairwise (· < ·) ∧
          ∀ child, child ∈ names ↔ child ∈ w.tree.list source ∧
            w.tree.isDirectory (source.child child) = .ok true ∧
            w.tree.isFile (Manifest.pathIn (source.child child) name) = .ok true) ∧
    (∀ source name plugins, Agree ((readCommands source name plugins).outcome w)
      ((readCommands source name plugins).outcome w')) ∧
    ∀ job listeners, Listeners.Blind listeners →
      Agree ((generate job listeners).outcome w) ((generate job listeners).outcome w') := by
  refine ⟨?_, ?_, ?_, ?_⟩
  · exact fun source name plugins => Manifest.directories_of_relisted h.tree source name plugins
  · intro source name plugins found given
    obtain ⟨own, hown, hfound⟩ := Manifest.directories_eq_pluginNames given
    refine ⟨own, Manifest.pluginNames w.tree source name, hown, hfound, ?_, fun child => ?_⟩
    · exact Manifest.pairwise_lt_pluginNames once source name
    · rw [Manifest.mem_pluginNames_iff, Manifest.isPlugin_eq_true_iff]
  · exact fun source name plugins => blind_readCommands source name plugins w w' h
  · exact fun job listeners deaf => blind_generate deaf w w' h

/-- A plugin that declares a command and another one that all plugins declare. -/
def sharingPlugin (plugin command : String) : List (Place × Entry) :=
  [(["p", plugin], .directory),
    (["p", plugin, "composer.json"], .file (.text
      ("\x7b\"extra\": \x7b\"commands\": [\"".toList ++ command.toList ++
        "\", \"shared\"]\x7d\x7d".toList)))]

def sharingProject (plugins : List (Place × Entry)) : Workspace where
  tree := { entries := (["p"], .directory) :: plugins, here := ["p"] }

def forwardProject : Workspace := sharingProject (sharingPlugin "a" "x" ++ sharingPlugin "b" "y")

def backwardProject : Workspace := sharingProject (sharingPlugin "b" "y" ++ sharingPlugin "a" "x")

theorem shared_command_in_either_order :
    Manifest.directories forwardProject.tree Path.here Manifest.defaultName true =
        .ok [Path.here.child "a", Path.here.child "b"] ∧
      Manifest.directories backwardProject.tree Path.here Manifest.defaultName true =
        .ok [Path.here.child "a", Path.here.child "b"] ∧
      Agree ((readCommands Path.here Manifest.defaultName true).outcome backwardProject)
        ((readCommands Path.here Manifest.defaultName true).outcome forwardProject) ∧
      Agree ((generate {} Shell.Run.announce).outcome backwardProject)
        ((generate {} Shell.Run.announce).outcome forwardProject) := by
  have distinct : (backwardProject.tree.entries.map Prod.fst).Nodup := by decide +kernel
  have turned : backwardProject.Relisted forwardProject :=
    ⟨FileTree.relisted_of_perm ["p"] (List.perm_append_comm.cons _) distinct⟩
  obtain ⟨directories, -, read, generated⟩ :=
    listing_order_is_immaterial turned (FileTree.nodup_names distinct)
  have found : Manifest.directories backwardProject.tree Path.here Manifest.defaultName true =
      .ok [Path.here.child "a", Path.here.child "b"] :=
    eq_ok_of_toOption (by decide +kernel)
  exact ⟨(directories _ _ _).trans found, found, read _ _ _,
    generated {} _ Shell.Run.blind_announce⟩

end Action

end CommandManual
