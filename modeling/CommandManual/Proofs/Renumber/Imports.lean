import CommandManual.Proofs.Renumber.Runs

/-!
Modules on top of a past. A request first notes the names that it will look for, so in
a run that never asks for a name of the past all of them are free, and what is found
under them is what this run has made itself.
-/

namespace CommandManual.Script

open Exec

variable {past m m' : Memory} {r : Renumbering} {tree : FileTree}
  {ask ask' : String → Exec Nat}

/-! ### Modules as they start out -/

theorem renumberNames_startNames (r : Renumbering) (name : String) (isPackage : Bool)
    (loader : String) :
    renumberNames r (Module.startNames name isPackage loader) =
      Module.startNames name isPackage loader := rfl

theorem Module.renumber_ofFile (r : Renumbering) (name : String) (file : Path)
    (directories : Option (List Path)) :
    (Module.ofFile name file directories).renumber r = Module.ofFile name file directories := by
  cases directories <;> rfl

theorem renumber_problemClass (r : Renumbering) (kind : ProblemKind) :
    (problemClass kind).renumber r = problemClass kind := by
  have made {id : Nat} (hid : id < firstOwnId) (name : String) {own : List (String × Object)}
      (hown : renumberNames r own = own) {c : Class} (hc : c.renumber r = c) :
      (Class.mk id name own c.lineage).renumber r = Class.mk id name own c.lineage := by
    rw [Class.renumber, r.classId_of_lt hid, hown, renumberClasses_eq_map,
      ← Class.lineage_renumber, hc]
  have general : generalProblemClass.renumber r = generalProblemClass :=
    made (Class.problemId_lt _) _ rfl (renumber_knownClass r "Exception")
  cases kind with
  | general => exact general
  | configuration => exact made (Class.problemId_lt .configuration) _ rfl general
  | classNotFound => exact made (Class.problemId_lt .classNotFound) _ rfl general
  | fileWrite => exact made (Class.problemId_lt .fileWrite) _ rfl general

theorem Module.renumber_of_offered? {name : String} {x : Module}
    (h : Module.offered? name = some x) : x.renumber r = x := by
  obtain ⟨o, ho, rfl⟩ := Option.map_eq_some_iff.mp h
  have problems : renumberNames r
      (ProblemKind.all.map fun kind => (kind.name, Object.cls (problemClass kind))) =
        ProblemKind.all.map fun kind => (kind.name, Object.cls (problemClass kind)) := by
    simp [renumberNames_eq_map, Object.renumber, renumber_problemClass]
  have members : renumberNames r o.members = o.members := by
    unfold Script.offered? at ho
    dsimp only at ho
    split at ho <;> cases ho <;> first | exact problems | rfl
  unfold Module.renumber
  rw [renumberNames_append, renumberNames_startNames, members]

/-! ### Requests -/

theorem itemsAt_eq (r : Renumbering) (tree : FileTree) (moduleName : String) (path : Path) :
    itemsAt tree moduleName path = r.outcome id (itemsAt tree moduleName path) := by
  unfold itemsAt
  dsimp only
  split <;> rfl

theorem runAt_follows (tree : FileTree) (whole : past.Whole)
    (hask : ∀ name, Follows past r (· + r.modules) (ask name) (ask' name)) (index : Nat)
    (moduleName : String) (path : Path) :
    Follows past r id (runAt tree ask index moduleName path)
      (runAt tree ask' (index + r.modules) moduleName path) := by
  have hctx : Context.Follows past r ⟨index, path.name, ask⟩
      ⟨index + r.modules, path.name, ask'⟩ := ⟨rfl, rfl, hask⟩
  refine (Follows.liftExcept (itemsAt_eq r tree moduleName path)).bind fun items => ?_
  refine (runItems_follows whole hctx .ofModule items).bind fun _ => ?_
  exact .change (fun m => asked_framing.modify m _ _) fun atop =>
    atop.modify index fun x => rfl

theorem makeModule_follows (whole : past.Whole)
    (hask : ∀ name, Follows past r (· + r.modules) (ask name) (ask' name)) {full : String}
    (free : past.Free full) (name : String) (directories : List Path) :
    Follows past r (· + r.modules) (makeModule tree ask full name directories)
      (makeModule tree ask' full name directories) where
  asks := asked_framing.makeModule (fun name => (hask name).asks) full name directories
  meets := by
    intro m m' atop
    unfold Meets
    rw [outcome_makeModule, outcome_makeModule, atop.length]
    cases offered : Module.offered? full with
    | some x =>
        intro _
        have entered := atop.enter (x := x) (by rwa [name_of_offered? offered])
        rw [Module.renumber_of_offered? offered] at entered
        exact ⟨rfl, entered⟩
    | none =>
        -- What is on the disk does not depend on the memory.
        rcases findModule tree name directories with (_ | ⟨file, inside⟩) | portions
        · exact fun _ => ⟨rfl, atop⟩
        · have entered := atop.enter (x := .ofFile full file inside) free
          rw [Module.renumber_ofFile] at entered
          have ran := (runAt_follows tree whole hask m.modules.length full file).meets
            entered
          unfold Meets at ran
          rcases hrun : (runAt tree ask m.modules.length full file).outcome
            (m.enter (.ofFile full file inside)).2 with ⟨e | _, m₁⟩
          all_goals
            rcases hrun' : (runAt tree ask' (m.modules.length + r.modules) full file).outcome
              (m'.enter (.ofFile full file inside)).2 with ⟨result, m₁'⟩
            rw [hrun, hrun'] at ran
            dsimp only at ran ⊢
            rw [hrun, hrun']
            intro unasked
            obtain ⟨rfl, still⟩ := ran unasked
          · exact ⟨rfl, still.forget free⟩
          · exact ⟨rfl, still⟩
        · have entered := atop.enter (x := .ofDirectories full portions) free
          exact fun _ => ⟨rfl, entered⟩

theorem placesOf_follows (parts : List String) (free : ∀ name ∈ fullNames parts, past.Free name) :
    Follows past r id (placesOf tree parts) (placesOf tree parts) := by
  have F := asked_framing
  induction parts with
  | nil =>
      refine .get_bind (fun m => F.pure _) fun {m m'} atop => ?_
      rw [atop.searchPath]
      exact (Follows.pure _).meets atop
  | cons name outer ih =>
      refine ⟨F.placesOf (name :: outer), fun {m m'} atop => ?_⟩
      unfold placesOf
      refine Meets.get_bind ?_
      rw [atop.free _ (free _ List.mem_cons_self)]
      cases m.loaded.lookup (dotted (name :: outer)) with
      | none => exact (Follows.pure none).meets atop
      | some index =>
          dsimp only [Option.map_some]
          rw [atop.module?]
          cases m.module? index with
          | none => exact (Follows.pure none).meets atop
          | some x =>
              have within := ih fun name hname => free name (List.mem_cons_of_mem _ hname)
              have lost : (!outer.isEmpty && (m'.loaded.lookup (dotted outer)).isNone) =
                  (!outer.isEmpty && (m.loaded.lookup (dotted outer)).isNone) := by
                cases outer with
                | nil => rfl
                | cons outer rest =>
                    rw [atop.free _ (free _ (List.mem_cons_of_mem _ List.mem_cons_self)),
                      Option.isNone_map]
              dsimp only [Option.map_some]
              simp only [lost]
              refine Follows.meets ?_ atop
              refine .ite (.pure _) (.ite (.throw_bind _) (within.bind fun places => ?_))
              dsimp only [id]
              split
              · refine (Follows.change (fun m => F.modify m _ _) fun atop => ?_).bind
                  fun _ => Follows.pure (f := id) _
                exact atop.modify index fun x => rfl
              · exact .pure _

theorem requestParts_follows (whole : past.Whole)
    (hask : ∀ name, Follows past r (· + r.modules) (ask name) (ask' name)) (parts : List String)
    (free : ∀ name ∈ fullNames parts, past.Free name) :
    Follows past r (· + r.modules) (requestParts tree ask parts)
      (requestParts tree ask' parts) := by
  have F := asked_framing
  have hrequest (name : String) := (hask name).asks
  induction parts with
  | nil => exact .throw _
  | cons name outer ih =>
      have within := ih fun name hname => free name (List.mem_cons_of_mem _ hname)
      have own := free _ List.mem_cons_self
      refine ⟨F.requestParts hrequest (name :: outer), fun {m m'} atop => ?_⟩
      unfold requestParts
      dsimp only
      refine Meets.get_bind ?_
      rw [atop.free _ own]
      cases m.loaded.lookup (dotted (name :: outer)) with
      | some index => exact (Follows.pure index).meets atop
      | none =>
          refine Follows.meets ?_ atop
          refine .ite ?_ ?_
          · refine (placesOf_follows [] fun name hname => by cases hname).bind fun places => ?_
            exact makeModule_follows whole hask own name _
          · -- Making the package may have made the module already.
            refine within.bind fun package => ?_
            refine .get_bind (fun m => ?_) fun {m m'} atop => ?_
            · split
              · exact F.pure _
              · refine F.bind (F.placesOf _) fun places => ?_
                split
                · exact F.throw _
                · exact F.bind (F.makeModule hrequest _ _ _) fun index =>
                    F.bind (fun m => F.modify m _ _) fun _ => F.pure _
            · rw [atop.free _ own]
              cases m.loaded.lookup (dotted (name :: outer)) with
              | some index => exact (Follows.pure index).meets atop
              | none =>
                  refine Follows.meets ?_ atop
                  refine (placesOf_follows outer fun name hname =>
                    free name (List.mem_cons_of_mem _ hname)).bind fun places => ?_
                  cases places with
                  | none => exact .throw _
                  | some directories =>
                      refine (makeModule_follows whole hask own name directories).bind
                        fun index => ?_
                      refine (Follows.change (fun m => F.modify m _ _) fun atop => ?_).bind
                        fun _ => Follows.pure (f := (· + r.modules)) index
                      exact atop.bindName package name (.module index)

theorem requestWithin_follows (whole : past.Whole) (depth : Nat) (name : String) :
    Follows past r (· + r.modules) (requestWithin tree depth name)
      (requestWithin tree depth name) := by
  have F := asked_framing
  induction depth generalizing name with
  | zero => exact .throw _
  | succ depth ih =>
      have asks (name : String) := (ih name).asks
      refine ⟨F.requestWithin tree (depth + 1) name, fun {m m'} atop => ?_⟩
      unfold requestWithin
      -- The names are noted before anything is looked up; what follows knows that they are free.
      refine Meets.ask_bind atop (fun _ => F.bind F.get fun m => ?_) fun free _ => ?_
      · split
        · exact F.pure _
        · exact .ite (F.throw_bind _ _) (F.requestParts asks _)
      refine .get_bind (fun m => ?_) fun {m m'} atop => ?_
      · split
        · exact F.pure _
        · exact .ite (F.throw_bind _ _) (F.requestParts asks _)
      obtain ⟨own, parts⟩ := List.forall_mem_cons.mp free
      rw [atop.free _ own]
      cases m.loaded.lookup name with
      | some index => exact (Follows.pure index).meets atop
      | none =>
          refine Follows.meets ?_ atop
          exact .ite (.throw_bind _) (requestParts_follows whole ih _ parts)

theorem request_follows (tree : FileTree) (whole : past.Whole) (name : String) :
    Follows past r (· + r.modules) (request tree name) (request tree name) :=
  requestWithin_follows whole requestDepth name

theorem Memory.Atop.withPath (h : Memory.Atop past r m m') (path : List String) :
    Memory.Atop past r { m with searchPath := path } { m' with searchPath := path } :=
  ⟨h.size, h.modules, h.own, h.freshId, rfl, h.free, h.taken⟩

/-- A command file does the same on top of a past, unless it asks for what that has taken. -/
theorem carryOut_follows (tree : FileTree) (whole : past.Whole) {name : String}
    (free : past.Free name) (file : Path) :
    Follows past r (· + r.modules) (carryOut tree name file) (carryOut tree name file) where
  asks := asked_framing.carryOut tree name file
  meets := by
    intro m m' atop
    have entered := atop.enter (x := .ofCommand name file) free
    rw [Module.ofCommand, Module.renumber_ofFile, ← Module.ofCommand] at entered
    have path : toAdd? file.parent.toString m' = toAdd? file.parent.toString m := by
      rw [toAdd?, toAdd?, atop.searchPath]
    -- Both search paths are the same, so the directory is put in front of both or of neither.
    have started : past.Atop r (m.started name file) (m'.started name file) := by
      unfold Memory.started searchedFrom
      rw [path, atop.searchPath]
      exact entered.withPath _
    have ran := (runAt_follows tree whole (request_follows tree whole) m.modules.length
      name file).meets started
    unfold Meets at ran ⊢
    rw [outcome_carryOut, outcome_carryOut, atop.length]
    unfold pathLeft
    rw [path]
    rcases hrun : (runAt tree (request tree) m.modules.length name file).outcome
      (m.started name file) with ⟨e | _, m₁⟩
    all_goals
      rcases hrun' : (runAt tree (request tree) (m.modules.length + r.modules) name file).outcome
        (m'.started name file) with ⟨result, m₁'⟩
      rw [hrun, hrun'] at ran
      dsimp only at ran ⊢
      intro unasked
    · obtain ⟨rfl, still⟩ := ran (by
        split at unasked <;> exact unasked)
      rw [Renumbering.outcome_error]
      dsimp only
      rw [Raised.isOrdinary_renumber, still.searchPath]
      refine ⟨rfl, ?_⟩
      split
      · exact (still.withPath _).forget free
      · exact still.withPath _
    · obtain ⟨rfl, still⟩ := ran unasked
      rw [Renumbering.outcome_ok]
      dsimp only
      rw [still.searchPath]
      exact ⟨rfl, still.withPath _⟩

end CommandManual.Script
