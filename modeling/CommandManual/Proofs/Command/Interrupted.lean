import CommandManual.Proofs.Command.Once

/-!
Command files that are not carried out to their end. The name of a file is known
while the file is carried out, and is given up again when an ordinary error ends
that; then the next request carries the file out anew. Anything else that a file
raises, such as a wish to leave the program, leaves the name with a module that only
has what came before, and later requests get that module. So what a request gives
back is complete exactly if no request before it was broken off in this way under the
name of the file.
-/

namespace CommandManual

open CommandManual.Script CommandManual.Action

def Script.Memory.Finished (m : Memory) (name : String) : Prop :=
  ∀ i, m.loaded.lookup name = some i → m.IsComplete i

namespace FileRequest

variable {r : FileRequest} {file : Path} {w : Workspace} {name : String}

/-- A request is broken off under a name: it carries out the file of this name, which
raises something that is no ordinary error. -/
def BreaksOff (r : FileRequest) (w : Workspace) (name : String) : Prop :=
  ∃ file e, r.CarriesOut w file ∧ moduleName file = name ∧ r.carriedOut w file = .error e ∧
    e.isOrdinary = false

/-! ### One request -/

/-- A request that is not broken off leaves no name without a complete module. -/
theorem finished_of_not_breaksOff (h : w.memory.Finished name) (whole : ¬ r.BreaksOff w name) :
    (r.outcome w).2.memory.Finished name := by
  by_cases carries : ∃ file, r.CarriesOut w file
  · obtain ⟨file, carries⟩ := carries
    rw [carries.outcome.1]
    intro i hi
    have spared := spares_carryOut r.tree (moduleName file) file
      (Nat.zero_le w.memory.modules.length)
    -- Only the name of the file itself can stand for something unfinished.
    rcases spared.finished name i hi with old | rfl | complete
    · exact spared.complete i (h i old)
    · rcases hrun : (carryOut r.tree (moduleName file) file).outcome w.memory with ⟨e | index, m'⟩
      all_goals rw [hrun] at hi
      · cases ordinary : e.isOrdinary with
        | true =>
            rw [(carryOut_error hrun).1 ordinary] at hi
            cases hi
        | false =>
            refine absurd ⟨file, e, carries, rfl, ?_, ordinary⟩ whole
            rw [carriedOut, hrun]
      · obtain ⟨known, complete⟩ := carryOut_ok hrun
        cases known.symm.trans hi
        exact complete
    · exact complete
  · rw [memory_of_not_carriesOut fun file hfile => carries ⟨file, hfile⟩]
    exact h

/-- A request that is broken off leaves the name with a module that is not complete. -/
theorem exists_isOpen_of_breaksOff (h : r.BreaksOff w name) :
    ∃ i, (r.outcome w).2.memory.loaded.lookup name = some i ∧
      (r.outcome w).2.memory.IsOpen i := by
  obtain ⟨file, e, carries, rfl, raised, unusual⟩ := h
  rw [carries.outcome.1]
  exact (carryOut_error (Prod.ext raised rfl)).2 unusual

end FileRequest

/-! ### One request after another -/

/-- One of some requests, made one after another, is broken off under a name. -/
def BrokenOff (name : String) : Workspace → List FileRequest → Prop
  | _, [] => False
  | w, r :: rs => r.BreaksOff w name ∨ BrokenOff name (r.outcome w).2 rs

theorem finished_of_not_brokenOff {name : String} {w : Workspace} {rs : List FileRequest}
    (h : w.memory.Finished name) (whole : ¬ BrokenOff name w rs) :
    (afterRequests w rs).memory.Finished name := by
  induction rs generalizing w with
  | nil => exact h
  | cons r rs ih =>
      obtain ⟨first, later⟩ := not_or.mp whole
      exact ih (FileRequest.finished_of_not_breaksOff h first) later

theorem exists_isOpen_of_brokenOff {name : String} {w : Workspace} {rs : List FileRequest}
    (h : BrokenOff name w rs) :
    ∃ i, (afterRequests w rs).memory.loaded.lookup name = some i ∧
      (afterRequests w rs).memory.IsOpen i := by
  induction rs generalizing w with
  | nil => exact absurd h id
  | cons r rs ih =>
      rcases h with now | later
      · obtain ⟨i, known, hopen⟩ := FileRequest.exists_isOpen_of_breaksOff now
        -- The later requests find the name and leave the module as it is.
        refine ⟨i, (grows_afterRequests _ rs).loaded name i known, ?_⟩
        have hlt : i < (r.outcome w).2.memory.modules.length := by
          obtain ⟨x, hx, -⟩ := hopen
          exact (List.getElem?_eq_some_iff.mp hx).1
        exact (keepsModules_afterRequests _ rs).isOpen hlt hopen
      · exact ih later

/-- What the next request for a file gets after one that raised something. -/
theorem next_request_of_error {r r' : FileRequest} {file : Path} {e : Raised} {w : Workspace}
    (carries : r.CarriesOut w file) (raised : r.carriedOut w file = .error e)
    (leads' : r'.LeadsTo file) :
    let after := (r.outcome w).2
    (e.isOrdinary = true →
        after.memory.loaded.lookup (moduleName file) = none ∧
          (r'.outcome after).2.memory =
            ((carryOut r'.tree (moduleName file) file).outcome after.memory).2) ∧
      (e.isOrdinary = false → ∃ index, after.memory.IsOpen index ∧
        r'.outcome after = (.ok index, { after with tree := r'.tree })) := by
  intro after
  have failed : (carryOut r.tree (moduleName file) file).outcome w.memory =
      (.error e, after.memory) :=
    Prod.ext raised carries.outcome.1.symm
  obtain ⟨forgotten, left⟩ := carryOut_error failed
  refine ⟨fun ordinary => ?_, fun unusual => ?_⟩
  · have again : r'.CarriesOut after file := ⟨leads', forgotten ordinary, carries.runnable⟩
    exact ⟨forgotten ordinary, again.outcome.1⟩
  · obtain ⟨index, known, hopen⟩ := left unusual
    exact ⟨index, hopen, FileRequest.outcome_of_known leads' known⟩

/-- Requests for the modules of files, from a workspace in which all known modules are
complete. When one of them carries out a file that raises an ordinary error, the name
of the file is given up, and the next request for the file carries it out again. When
the file raises anything else, its name is left with a module that is not complete,
which the next request for the file gives back. What a request gives back is complete
exactly if none before it was broken off like that under the name of the file. -/
theorem complete_iff_not_broken_off {w : Workspace} (start : ∀ name, w.memory.Finished name)
    (rs : List FileRequest) :
    let now := afterRequests w rs
    (∀ (r r' : FileRequest) (file : Path) (e : Raised),
        r.CarriesOut now file → r.carriedOut now file = .error e → r'.LeadsTo file →
        (e.isOrdinary = true →
            (r.outcome now).2.memory.loaded.lookup (moduleName file) = none ∧
              (r'.outcome (r.outcome now).2).2.memory =
                ((carryOut r'.tree (moduleName file) file).outcome (r.outcome now).2.memory).2) ∧
          (e.isOrdinary = false → ∃ index, (r.outcome now).2.memory.IsOpen index ∧
            r'.outcome (r.outcome now).2 =
              (.ok index, { (r.outcome now).2 with tree := r'.tree }))) ∧
      ∀ (r : FileRequest) (file : Path) (index : Nat), r.LeadsTo file →
        (r.outcome now).1 = .ok index →
        ((r.outcome now).2.memory.IsComplete index ↔ ¬ BrokenOff (moduleName file) w rs) := by
  intro now
  refine ⟨fun r r' file e carries raised leads' => next_request_of_error carries raised leads',
    fun r file index leads returned => ?_⟩
  rcases known : now.memory.loaded.lookup (moduleName file) with _ | i
  · -- A request that was broken off would have left the name known.
    have whole : ¬ BrokenOff (moduleName file) w rs := by
      intro broken
      obtain ⟨i, hi, -⟩ := exists_isOpen_of_brokenOff broken
      cases known.symm.trans hi
    rcases FileRequest.outcome_of_new leads known with ⟨-, fault, failed⟩ | ⟨-, hmemory, hok⟩
    · rw [failed] at returned
      cases returned
    · rw [hmemory]
      have complete := (carryOut_ok (Prod.ext ((hok index).mp returned) rfl)).2
      exact iff_of_true complete whole
  · rw [FileRequest.outcome_of_known leads known] at returned ⊢
    obtain rfl : i = index := Except.ok.inj returned
    constructor
    · intro complete broken
      obtain ⟨j, hj, hopen⟩ := exists_isOpen_of_brokenOff broken
      cases known.symm.trans hj
      exact hopen.not_isComplete complete
    · intro whole
      exact finished_of_not_brokenOff (start _) whole i known

/-! ### A file that leaves the program -/

def leavingTree : FileTree where
  entries :=
    [(["b.py"], .file (.script
      [.classBlock "Before" [] .absent [], .throw "SystemExit" (some (.str "3")),
        .classBlock "After" [] .absent []]))]
  here := []

def leavingRequest : FileRequest := ⟨leavingTree, Path.ofString "b.py", ""⟩

def endsUnusually : Except Raised Nat → Bool
  | .error e => !e.isOrdinary
  | .ok _ => false

/-- The second request gives back the module that the first one has left. -/
theorem leaving_file_is_given_back :
    ∃ (w after : Workspace) (index : Nat),
      (leavingRequest.outcome w).2 = after ∧
        leavingRequest.outcome after = (.ok index, { after with tree := leavingTree }) ∧
        ¬ (leavingRequest.outcome after).2.memory.IsComplete index := by
  have leads : leavingRequest.LeadsTo ⟨.slash, ["b.py"]⟩ := ⟨_, rfl, rfl, rfl⟩
  have carries : leavingRequest.CarriesOut { tree := leavingTree } ⟨.slash, ["b.py"]⟩ :=
    ⟨leads, rfl, .inl rfl⟩
  have start (name : String) : (Workspace.memory { tree := leavingTree }).Finished name := by
    rintro i ⟨⟩
  have unusual :
      endsUnusually (leavingRequest.carriedOut { tree := leavingTree } ⟨.slash, ["b.py"]⟩) =
        true := by
    decide +kernel
  generalize ({ tree := leavingTree } : Workspace) = w at carries start unusual
  rcases raised : leavingRequest.carriedOut w ⟨.slash, ["b.py"]⟩ with e | i
  all_goals rw [raised] at unusual
  · have unusual : e.isOrdinary = false := by simpa [endsUnusually] using unusual
    obtain ⟨next, -⟩ := complete_iff_not_broken_off start []
    obtain ⟨-, left⟩ := next leavingRequest leavingRequest _ e carries raised leads
    obtain ⟨index, -, given⟩ := left unusual
    obtain ⟨-, completed⟩ := complete_iff_not_broken_off start [leavingRequest]
    refine ⟨w, _, index, rfl, given, fun complete => ?_⟩
    refine (completed leavingRequest _ index leads (congrArg Prod.fst given)).mp complete ?_
    exact .inl ⟨_, e, carries, rfl, raised, unusual⟩
  · cases unusual

/-- The first request fails, and the second one gives back a module that has only the
first of the two classes. -/
theorem half_of_file_is_given_back :
    let first := leavingRequest.outcome { tree := leavingTree }
    let second := leavingRequest.outcome first.2
    first.1.toOption = none ∧ second.1.toOption = some 0 ∧
      (second.2.memory.module? 0).map Module.complete = some false ∧
      (second.2.memory.module? 0).map (fun x => (x.names.lookup "Before").isSome) = some true ∧
      (second.2.memory.module? 0).map (fun x => (x.names.lookup "After").isSome) = some false := by
  decide +kernel

end CommandManual
