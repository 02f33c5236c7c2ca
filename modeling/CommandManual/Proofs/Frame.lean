import CommandManual.Proofs.Action
import CommandManual.Proofs.Files.Shape

/-!
What steps leave alone. A log record reaches the sinks as soon as it is left, so
a log file may grow with every record; apart from that, only the steps that
write pages and make directories touch the files. `OnlyLogs` says so of two
workspaces, and `KeepsFiles` says less: every place that is not the place of a log
file holds what it held. Such relations are kept by steps that are put together
from steps that keep them, which is what `Framing` is for.
-/

namespace CommandManual

structure FileTree.SameBut (exempt : Place → Prop) (tree tree' : FileTree) : Prop where
  ways : tree.SameWays tree'
  get? : ∀ place, ¬ exempt place → tree'.get? place = tree.get? place

namespace FileTree.SameBut

variable {exempt more : Place → Prop} {tree tree' tree'' : FileTree}

theorem refl (exempt : Place → Prop) (tree : FileTree) : tree.SameBut exempt tree :=
  ⟨.refl tree, fun _ _ => rfl⟩

theorem trans (h : tree.SameBut exempt tree') (h' : tree'.SameBut exempt tree'') :
    tree.SameBut exempt tree'' :=
  ⟨h.ways.trans h'.ways, fun place hp => (h'.get? place hp).trans (h.get? place hp)⟩

theorem mono (h : tree.SameBut exempt tree') (himp : ∀ place, exempt place → more place) :
    tree.SameBut more tree' :=
  ⟨h.ways, fun place hp => h.get? place fun he => hp (himp place he)⟩

end FileTree.SameBut

theorem FileTree.sameBut_put {tree : FileTree} {place : Place} (h : tree.way? place = none)
    (content : Content) : tree.SameBut (· = place) (tree.put place (.file content)) :=
  ⟨sameWays_put h content, fun _ hne => tree.get?_put_of_ne hne _⟩

/-! ### Log records -/

namespace Log

def Hub.LogsTo (h : Hub) (place : Place) : Prop :=
  ∃ id level, (id, Sink.file level place) ∈ h.sinks

theorem Logging.appendTo_sameBut (tree : FileTree) (place : Place) (line : String) :
    tree.SameBut (· = place) (Logging.appendTo tree place line) := by
  unfold Logging.appendTo
  split
  case h_4 => exact .refl _ tree
  all_goals
    rename_i hentry
    exact FileTree.sameBut_put (FileTree.way?_eq_none_iff.mpr (.inr ⟨_, hentry⟩)) _

theorem Logging.writeTo_keeps (r : Record) (s : Sink) (d : Desk) :
    (writeTo r s d).hub = d.hub ∧
      d.tree.SameBut (fun place => ∃ level, s = .file level place) (writeTo r s d).tree := by
  cases s with
  | terminal level layout color stamped =>
      cases layout <;> exact ⟨rfl, .refl _ _⟩
  | file level place =>
      refine ⟨rfl, (appendTo_sameBut d.tree place (jsonLine r)).mono ?_⟩
      rintro _ rfl
      exact ⟨level, rfl⟩
  | foreign level => exact ⟨rfl, .refl _ _⟩

/-- Handing a record from sink to sink only touches the files of these sinks. -/
theorem Logging.handOut_keeps (sinks : List Sink) (r : Record) (d : Desk) :
    (handOut sinks r d).hub = d.hub ∧
      d.tree.SameBut (fun place => ∃ level, .file level place ∈ sinks)
        (handOut sinks r d).tree := by
  induction sinks generalizing r d with
  | nil => exact ⟨rfl, .refl _ _⟩
  | cons s rest ih =>
      have later (place : Place) (h : ∃ level, Sink.file level place ∈ rest) :
          ∃ level, Sink.file level place ∈ s :: rest := by
        obtain ⟨level, hmem⟩ := h
        exact ⟨level, List.mem_cons_of_mem s hmem⟩
      unfold handOut
      split
      · obtain ⟨hhub, htree⟩ := writeTo_keeps (s.passOn r) s d
        obtain ⟨hhub', htree'⟩ := ih (s.passOn r) (writeTo (s.passOn r) s d)
        refine ⟨hhub'.trans hhub, (htree.mono ?_).trans (htree'.mono later)⟩
        rintro place ⟨level, rfl⟩
        exact ⟨level, List.mem_cons_self⟩
      · obtain ⟨hhub, htree⟩ := ih r d
        exact ⟨hhub, htree.mono later⟩

theorem Logging.appendTo_sameShape (tree : FileTree) (place : Place) (line : String) :
    tree.SameShape (Logging.appendTo tree place line) := by
  unfold Logging.appendTo
  split
  case h_4 => exact .refl tree
  all_goals
    rename_i hentry
    exact FileTree.sameShape_put hentry _

/-- Lines are only added to files that are there already. -/
theorem Logging.handOut_sameShape (sinks : List Sink) (r : Record) (d : Desk) :
    d.tree.SameShape (handOut sinks r d).tree := by
  induction sinks generalizing r d with
  | nil => exact .refl _
  | cons s rest ih =>
      unfold handOut
      split
      · refine .trans ?_ (ih (s.passOn r) (writeTo (s.passOn r) s d))
        cases s with
        | terminal level layout color stamped => cases layout <;> exact .refl _
        | file level place => exact appendTo_sameShape d.tree place _
        | foreign level => exact .refl _
      · exact ih r d

/-- Without log files a record changes no file. -/
theorem Logging.handOut_tree {sinks : List Sink}
    (h : ∀ level place, Sink.file level place ∉ sinks) (r : Record) (d : Desk) :
    (handOut sinks r d).tree = d.tree := by
  induction sinks generalizing r d with
  | nil => rfl
  | cons s rest ih =>
      have later (level : Level) (place : Place) : Sink.file level place ∉ rest :=
        fun hmem => h level place (List.mem_cons_of_mem s hmem)
      unfold handOut
      split
      · rw [ih later]
        cases s with
        | terminal level layout color stamped => cases layout <;> rfl
        | file level place => exact absurd List.mem_cons_self (h level place)
        | foreign level => rfl
      · exact ih later r d

theorem Desk.deliver_hub (d : Desk) (r : Record) : (d.deliver r).hub = d.hub :=
  (Logging.handOut_keeps _ r d).1

theorem Desk.deliver_tree (d : Desk) (r : Record) :
    d.tree.SameBut d.hub.LogsTo (d.deliver r).tree := by
  refine (Logging.handOut_keeps _ r d).2.mono ?_
  rintro place ⟨level, hmem⟩
  obtain ⟨⟨id, s⟩, hs, rfl⟩ := List.mem_map.mp hmem
  exact ⟨id, level, hs⟩

end Log

/-! ### Trees while records are left -/

structure Workspace.MayLog (w : Workspace) (tree : FileTree) : Prop where
  shape : w.tree.SameShape tree
  files : w.tree.SameBut w.hub.LogsTo tree
  /-- Without log files nothing changes at all. -/
  still : (∀ place, ¬ w.hub.LogsTo place) → tree = w.tree

namespace Workspace

theorem MayLog.refl (w : Workspace) : w.MayLog w.tree := ⟨.refl _, .refl _ _, fun _ => rfl⟩

theorem MayLog.trans {w w' : Workspace} {tree : FileTree} (h : w.MayLog w'.tree)
    (hub : w'.hub = w.hub) (h' : w'.MayLog tree) : w.MayLog tree := by
  refine ⟨h.shape.trans h'.shape, h.files.trans (hub ▸ h'.files), fun unlogged => ?_⟩
  exact (h'.still (hub ▸ unlogged)).trans (h.still unlogged)

end Workspace

/-- From the first workspace to the second the log stays set up as it is, and the
files change by what is logged at most. -/
structure Workspace.OnlyLogs (w w' : Workspace) : Prop where
  hub : w'.hub = w.hub
  tree : w.MayLog w'.tree

namespace Workspace

theorem OnlyLogs.refl (w : Workspace) : w.OnlyLogs w := ⟨rfl, .refl w⟩

theorem OnlyLogs.trans {w w' w'' : Workspace} (h : w.OnlyLogs w') (h' : w'.OnlyLogs w'') :
    w.OnlyLogs w'' :=
  ⟨h'.hub.trans h.hub, h.tree.trans h.hub h'.tree⟩

theorem onlyLogs_deliver (w : Workspace) (r : Log.Record) : w.OnlyLogs (w.deliver r) := by
  refine ⟨w.toDesk.deliver_hub r, Log.Logging.handOut_sameShape _ r w.toDesk,
    w.toDesk.deliver_tree r, fun unlogged => ?_⟩
  refine Log.Logging.handOut_tree (fun level place hmem => ?_) r w.toDesk
  obtain ⟨⟨id, s⟩, hs, rfl⟩ := List.mem_map.mp hmem
  exact unlogged place ⟨id, level, hs⟩

end Workspace

/-! ### Files that are kept -/

/-- From the first workspace to the second the log stays set up as it is, and no
file changes that is not a log file. -/
structure Workspace.KeepsFiles (w w' : Workspace) : Prop where
  hub : w'.hub = w.hub
  files : w.tree.SameBut w.hub.LogsTo w'.tree

namespace Workspace

theorem KeepsFiles.refl (w : Workspace) : w.KeepsFiles w := ⟨rfl, .refl _ _⟩

theorem KeepsFiles.trans {w w' w'' : Workspace} (h : w.KeepsFiles w')
    (h' : w'.KeepsFiles w'') : w.KeepsFiles w'' := by
  refine ⟨h'.hub.trans h.hub, h.files.trans ?_⟩
  rw [← h.hub]
  exact h'.files

theorem OnlyLogs.keepsFiles {w w' : Workspace} (h : w.OnlyLogs w') : w.KeepsFiles w' :=
  ⟨h.hub, h.tree.files⟩

theorem keepsFiles_deliver (w : Workspace) (r : Log.Record) : w.KeepsFiles (w.deliver r) :=
  (w.onlyLogs_deliver r).keepsFiles

end Workspace

namespace Action

variable {α β : Type}

def KeepsFiles (x : Action α) : Prop := ∀ w : Workspace, w.KeepsFiles (x.outcome w).2

theorem keepsFiles_pure (a : α) : (pure a : Action α).KeepsFiles := fun w => .refl w

/-! ### Relations that steps keep -/

def Keeps (R : Workspace → Workspace → Prop) (x : Action α) : Prop := ∀ w, R w (x.outcome w).2

end Action

/-- A relation between workspaces that holds over any number of steps, if each of
them leaves a record at most. -/
structure Workspace.Framing (R : Workspace → Workspace → Prop) : Prop where
  refl : ∀ w, R w w
  trans : ∀ {w w' w''}, R w w' → R w' w'' → R w w''
  deliver : ∀ w r, R w (w.deliver r)

namespace Workspace.Framing

open CommandManual.Action

variable {α β : Type} {R : Workspace → Workspace → Prop}

theorem pure (F : Framing R) (a : α) : (Pure.pure a : Action α).Keeps R := F.refl

theorem throw (F : Framing R) (f : Fault) : (MonadExcept.throw f : Action α).Keeps R := F.refl

theorem get (F : Framing R) : (MonadState.get : Action Workspace).Keeps R := F.refl

theorem ofExcept (F : Framing R) (x : Except Fault α) : (Action.ofExcept x).Keeps R := F.refl

theorem ofTraced (F : Framing R) (x : Traced α) : (Action.ofTraced x).Keeps R := by
  intro w
  rw [outcome_ofTraced]
  dsimp only
  generalize x.outcome.2 = records
  induction records generalizing w with
  | nil => exact F.refl w
  | cons r rest ih => exact F.trans (F.deliver w r) (ih (w.deliver r))

theorem note (F : Framing R) (logger : String) (level : Log.Level) (message : String)
    (values : List (String × Value)) : (Action.note logger level message values).Keeps R :=
  F.ofTraced _

theorem bind (F : Framing R) {x : Action α} {f : α → Action β} (hx : x.Keeps R)
    (hf : ∀ a, (f a).Keeps R) : (x >>= f).Keeps R := by
  intro w
  have h := hx w
  rw [outcome_bind]
  rcases hxw : x.outcome w with ⟨_ | a, w'⟩
  all_goals rw [hxw] at h
  · exact h
  · exact F.trans h (hf a w')

end Workspace.Framing

theorem Workspace.onlyLogs_framing : Framing OnlyLogs :=
  ⟨.refl, .trans, onlyLogs_deliver⟩

end CommandManual
