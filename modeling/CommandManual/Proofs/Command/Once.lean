import CommandManual.Proofs.Command.Siblings
import CommandManual.Proofs.Script.Finished
import CommandManual.Proofs.Script.SearchPath

/-!
Requests for the modules of command files, one after another. The first request for
a file carries it out, and as long as the file is there, every later one gets the
same module back and leaves everything as it is. The modules of other files are kept
all the time. What a file has changed about the search path stays; apart from that the
path is what it was after each request.
-/

namespace CommandManual

open CommandManual.Script CommandManual.Action

/-- A request for the module of the file at a path, made when the files are those of
a tree. -/
structure FileRequest where
  tree : FileTree
  path : Path
  className : String := ""

namespace FileRequest

def outcome (r : FileRequest) (w : Workspace) : Except Fault Nat × Workspace :=
  (loadFile r.path r.className).outcome { w with tree := r.tree }

def LeadsTo (r : FileRequest) (file : Path) : Prop :=
  ∃ place, file = ⟨.slash, place⟩ ∧ r.tree.isFile r.path = .ok true ∧
    r.tree.locate .follow r.path = .ok place

theorem LeadsTo.findFile {r : FileRequest} {file : Path} (h : r.LeadsTo file) (w : Workspace) :
    (findFile r.path r.className).outcome { w with tree := r.tree } =
      (.ok file, { w with tree := r.tree }) :=
  findFile_eq_ok_iff.mpr ⟨rfl, h⟩

end FileRequest

/-- What is left when requests were made one after another, whatever came of them. -/
def afterRequests (w : Workspace) (rs : List FileRequest) : Workspace :=
  rs.foldl (fun w r => (r.outcome w).2) w

/-! ### What requests keep -/

def Workspace.KeepsModules (w w' : Workspace) : Prop :=
  w.memory.Spares w.memory.modules.length (fun _ => True) w'.memory

theorem keepsModules_wideFraming : Workspace.WideFraming Workspace.KeepsModules where
  refl w := .refl _ _ w.memory
  trans h h' := Memory.Spares.append h h' (Nat.le_refl _)
  deliver w _ := .refl _ _ w.memory
  intake w _ _ := .refl _ _ w.memory
  request w tree name :=
    (spares_requestAbsolute tree _ name w.memory (Nat.le_refl _)).mono fun _ => False.elim
  carryOut _ tree file _ :=
    (spares_carryOut tree _ file (Nat.le_refl _)).mono fun _ _ => trivial

/-- A relation that does not depend on the files holds over any number of requests. -/
theorem keeps_afterRequests {R : Workspace → Workspace → Prop} (F : Workspace.WideFraming R)
    (blind : ∀ w tree, R w { w with tree }) (w : Workspace) (rs : List FileRequest) :
    R w (afterRequests w rs) := by
  induction rs generalizing w with
  | nil => exact F.refl w
  | cons r rs ih =>
      -- The files may be other ones before each request.
      exact F.trans (F.trans (blind w r.tree) (F.loadFile r.path r.className _)) (ih _)

theorem grows_afterRequests (w : Workspace) (rs : List FileRequest) :
    w.memory.Grows (fun _ _ => True) (afterRequests w rs).memory :=
  keeps_afterRequests grows_wideFraming (fun w _ => .refl _ w.memory) w rs

theorem keepsModules_afterRequests (w : Workspace) (rs : List FileRequest) :
    w.KeepsModules (afterRequests w rs) :=
  keeps_afterRequests keepsModules_wideFraming (fun w _ => .refl _ _ w.memory) w rs

/-! ### Files that are found again -/

namespace FileRequest

variable {r : FileRequest} {file : Path} {w : Workspace} {index : Nat}

/-- A file whose name is known is not carried out. -/
theorem outcome_of_known (h : r.LeadsTo file)
    (known : w.memory.loaded.lookup (moduleName file) = some index) :
    r.outcome w = (.ok index, { w with tree := r.tree }) := by
  rcases loadFile_cases (h.findFile w) with ⟨i, hi, hload⟩ | ⟨absent, -⟩
  · cases known.symm.trans hi
    exact hload
  · cases known.symm.trans absent

/-- A request carries out a file: its path leads there, the name of the file is not
known, and the file is of a form that can be carried out. -/
structure CarriesOut (r : FileRequest) (w : Workspace) (file : Path) : Prop where
  leads : r.LeadsTo file
  new : w.memory.loaded.lookup (moduleName file) = none
  runnable : IsRunnable file

def carriedOut (r : FileRequest) (w : Workspace) (file : Path) : Except Raised Nat :=
  ((carryOut r.tree (moduleName file) file).outcome w.memory).1

/-- A request for a file whose name is not known either carries it out, and gives
back what comes of that, or does nothing but fail. -/
theorem outcome_of_new (h : r.LeadsTo file)
    (new : w.memory.loaded.lookup (moduleName file) = none) :
    ¬ r.CarriesOut w file ∧ (∃ fault, r.outcome w = (.error fault, { w with tree := r.tree })) ∨
      r.CarriesOut w file ∧
        (r.outcome w).2.memory =
          ((carryOut r.tree (moduleName file) file).outcome w.memory).2 ∧
        ∀ index, (r.outcome w).1 = .ok index ↔ r.carriedOut w file = .ok index := by
  rcases loadFile_cases (h.findFile w) with
    ⟨i, known, -⟩ | ⟨-, ⟨unfit, failed⟩ | ⟨runnable, carried⟩⟩
  · cases new.symm.trans known
  · exact .inl ⟨fun carries => unfit carries.runnable, failed⟩
  · exact .inr ⟨⟨h, new, runnable⟩, carried⟩

theorem CarriesOut.outcome (h : r.CarriesOut w file) :
    (r.outcome w).2.memory = ((carryOut r.tree (moduleName file) file).outcome w.memory).2 ∧
      ∀ index, (r.outcome w).1 = .ok index ↔ r.carriedOut w file = .ok index := by
  rcases outcome_of_new h.leads h.new with ⟨idle, -⟩ | ⟨-, carried⟩
  · exact absurd h idle
  · exact carried

theorem memory_of_not_carriesOut (h : ∀ file, ¬ r.CarriesOut w file) :
    (r.outcome w).2.memory = w.memory := by
  by_cases leads : ∃ file, r.LeadsTo file
  · obtain ⟨file, leads⟩ := leads
    rcases known : w.memory.loaded.lookup (moduleName file) with _ | i
    · rcases outcome_of_new leads known with ⟨-, fault, failed⟩ | ⟨carries, -⟩
      · rw [failed]
      · exact absurd carries (h file)
    · rw [outcome_of_known leads known]
  · have searched := memory_framing.findFile r.path r.className { w with tree := r.tree }
    unfold FileRequest.outcome loadFile
    rw [outcome_bind]
    rcases hfind : (findFile r.path r.className).outcome { w with tree := r.tree }
      with ⟨fault | file, w'⟩
    all_goals rw [hfind] at searched
    · exact searched
    · exact absurd ⟨file, (findFile_eq_ok_iff.mp hfind).2⟩ leads

theorem CarriesOut.searchPath (h : r.CarriesOut w file) :
    ∃ es, (r.outcome w).2.memory.edits = w.memory.edits ++ es ∧
      (r.outcome w).2.memory.searchPath =
        pathLeft file w.memory (PathEdit.applyAll es (searchedFrom file w.memory)) := by
  rw [h.outcome.1]
  exact edited_carryOut r.tree (moduleName file) file w.memory

end FileRequest

end CommandManual
