import CommandManual.Proofs.Script.Modules

/-!
What becomes of the search path. A command file may change it, and every change that it
makes is noted in the memory. Nothing else that happens while a file is carried out
touches the path, so it is always what the noted changes make of it. Around a command
file an entry may stand in front of the path, which is taken out afterwards.
-/

namespace CommandManual.Script

def PathEdit.applyAll (es : List PathEdit) (path : List String) : List String :=
  es.foldl (fun path e => e.apply path) path

/-- A relation between memories that also holds over whatever is done with modules. -/
structure Memory.RequestFraming (R : Memory → Memory → Prop) : Prop extends Framing R where
  count : ∀ m, R m { m with freshId := m.freshId + 1 }
  edit : ∀ m e, R m (m.edit e)
  modify : ∀ m index f, R m (m.modify index f)
  enter : ∀ m x, R m (m.enter x).2
  forget : ∀ m name, R m (m.forget name)

namespace Memory.RequestFraming

open Exec

variable {R : Memory → Memory → Prop} {tree : FileTree} {ask : String → Exec Nat}

theorem toItemFraming (F : RequestFraming R) (index : Nat) : ItemFraming R index where
  toFraming := F.toFraming
  count := F.count
  edit := F.edit
  names m _ := F.modify m index _

theorem runAt (F : RequestFraming R) (hrequest : ∀ name, (ask name).Keeps R) (tree : FileTree)
    (index : Nat) (moduleName : String) (path : Path) :
    (runAt tree ask index moduleName path).Keeps R :=
  F.bind (F.liftExcept _) fun items =>
    F.bind ((F.toItemFraming index).runItems hrequest .ofModule items) fun _ m => F.modify m _ _

theorem makeModule (F : RequestFraming R) (hrequest : ∀ name, (ask name).Keeps R)
    (full name : String) (directories : List Path) :
    (makeModule tree ask full name directories).Keeps R := by
  intro m
  rw [outcome_makeModule]
  rcases Module.offered? full with _ | x
  · rcases findModule tree name directories with (_ | ⟨file, inside⟩) | portions
    · exact F.refl m
    · have ran := F.trans (F.enter m (.ofFile full file inside))
        (F.runAt hrequest tree m.modules.length full file _)
      dsimp only
      rcases hrun : (Script.runAt tree ask m.modules.length full file).outcome
        (m.enter (.ofFile full file inside)).2 with ⟨e | _, m'⟩
      all_goals rw [hrun] at ran
      · exact F.trans ran (F.forget m' full)
      · exact ran
    · exact F.enter m _
  · exact F.enter m x

theorem placesOf (F : RequestFraming R) (parts : List String) :
    (placesOf tree parts).Keeps R := by
  induction parts with
  | nil => exact F.bind F.get fun _ => F.pure _
  | cons name outer ih =>
      unfold Script.placesOf
      refine F.bind F.get fun m => ?_
      split
      · exact F.pure _
      · split
        · exact F.pure _
        · dsimp only
          refine .ite (F.pure _) (.ite (F.throw_bind _ _) (F.bind ih fun places => ?_))
          split
          · exact F.bind (fun m => F.modify m _ _) fun _ => F.pure _
          · exact F.pure _

theorem requestParts (F : RequestFraming R) (hrequest : ∀ name, (ask name).Keeps R)
    (parts : List String) : (requestParts tree ask parts).Keeps R := by
  induction parts with
  | nil => exact F.throw _
  | cons name outer ih =>
      unfold Script.requestParts
      dsimp only
      refine F.bind F.get fun m => ?_
      split
      · exact F.pure _
      · refine .ite (F.bind (F.placesOf _) fun places => F.makeModule hrequest _ _ _) ?_
        refine F.bind ih fun package => F.bind F.get fun m => ?_
        split
        · exact F.pure _
        · refine F.bind (F.placesOf _) fun places => ?_
          split
          · exact F.throw _
          · refine F.bind (F.makeModule hrequest _ _ _) fun index => ?_
            exact F.bind (fun m => F.modify m _ _) fun _ => F.pure _

theorem requestWithin (F : RequestFraming R) (tree : FileTree) (depth : Nat) (name : String) :
    (requestWithin tree depth name).Keeps R := by
  induction depth generalizing name with
  | zero => exact F.throw _
  | succ depth ih =>
      unfold Script.requestWithin
      refine F.bind (fun m => F.ask m _) fun _ => F.bind F.get fun m => ?_
      split
      · exact F.pure _
      · exact .ite (F.throw_bind _ _) (F.requestParts ih _)

theorem request (F : RequestFraming R) (tree : FileTree) (name : String) :
    (Script.request tree name).Keeps R :=
  F.requestWithin tree requestDepth name

theorem requestAbsolute (F : RequestFraming R) (tree : FileTree) (name : String) :
    (Script.requestAbsolute tree name).Keeps R :=
  .ite (F.throw _) (F.request tree name)

end Memory.RequestFraming

structure Memory.LoadFraming (R : Memory → Memory → Prop) : Prop extends RequestFraming R where
  path : ∀ m path, R m { m with searchPath := path }

theorem Memory.LoadFraming.carryOut {R : Memory → Memory → Prop} (F : LoadFraming R)
    (tree : FileTree) (name : String) (file : Path) : (carryOut tree name file).Keeps R := by
  intro m
  have started : R m (m.started name file) :=
    F.trans (F.enter m (.ofCommand name file)) (F.path _ _)
  have ran := F.trans started
    (F.runAt (F.request tree) tree m.modules.length name file (m.started name file))
  rw [outcome_carryOut]
  rcases hrun : (Script.runAt tree (Script.request tree) m.modules.length name file).outcome
    (m.started name file) with ⟨e | _, m'⟩
  all_goals
    rw [hrun] at ran
    have left := F.trans ran (F.path m' (pathLeft file m m'.searchPath))
  · dsimp only
    split
    · exact F.trans left (F.forget _ name)
    · exact left
  · exact left

/-! ### Noted changes -/

/-- The search path of the second memory is that of the first one after some changes,
which are noted. -/
def Memory.Edited (es : List PathEdit) (m m' : Memory) : Prop :=
  m'.edits = m.edits ++ es ∧ m'.searchPath = PathEdit.applyAll es m.searchPath

theorem edited_requestFraming :
    Memory.RequestFraming fun m m' => ∃ es, m.Edited es m' where
  refl m := ⟨[], by simp, rfl⟩
  trans := by
    rintro m m' m'' ⟨es, hedits, hpath⟩ ⟨es', hedits', hpath'⟩
    refine ⟨es ++ es', ?_, ?_⟩
    · rw [hedits', hedits, List.append_assoc]
    · rw [hpath', hpath, PathEdit.applyAll, PathEdit.applyAll, PathEdit.applyAll,
        List.foldl_append]
  ask m names := ⟨[], by simp [Memory.ask], rfl⟩
  count m := ⟨[], by simp, rfl⟩
  edit m e := ⟨[e], rfl, rfl⟩
  modify m index f := ⟨[], by simp, by simp [PathEdit.applyAll]⟩
  enter m x := ⟨[], by simp [Memory.enter], rfl⟩
  forget m name := ⟨[], by simp [Memory.forget], rfl⟩

/-- While a command file is carried out the search path has its directory, and what it
changes about that path is noted and stays, but for one entry of its directory. -/
theorem edited_carryOut (tree : FileTree) (name : String) (file : Path) (m : Memory) :
    let after := ((carryOut tree name file).outcome m).2
    ∃ es, after.edits = m.edits ++ es ∧
      after.searchPath = pathLeft file m (PathEdit.applyAll es (searchedFrom file m)) := by
  intro after
  obtain ⟨es, hedits, hpath⟩ := edited_requestFraming.runAt
    (edited_requestFraming.request tree) tree m.modules.length name file (m.started name file)
  refine ⟨es, ?_⟩
  have hafter : after = ((carryOut tree name file).outcome m).2 := rfl
  rw [outcome_carryOut] at hafter
  rcases hrun : (runAt tree (request tree) m.modules.length name file).outcome
    (m.started name file) with ⟨e | _, m'⟩
  all_goals
    rw [hrun] at hedits hpath hafter
    have left : m'.edits = m.edits ++ es ∧ pathLeft file m m'.searchPath =
        pathLeft file m (PathEdit.applyAll es (searchedFrom file m)) :=
      ⟨hedits, congrArg (pathLeft file m) hpath⟩
  · rw [hafter]
    dsimp only
    split
    · exact left
    · exact left
  · rw [hafter]
    exact left

end CommandManual.Script
