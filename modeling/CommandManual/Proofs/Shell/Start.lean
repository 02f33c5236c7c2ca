import CommandManual.Proofs.Action
import CommandManual.Proofs.Console.Markup
import CommandManual.Proofs.Except
import CommandManual.Proofs.Settings.Faults
import CommandManual.Shell.Run

/-!
How a run starts. Every request has the settings loaded first. A fault that is blamed on
the configuration is shown and ends the run with code 1; its message is escaped, so it can
always be shown. Every other fault goes through the run as it is.
-/

namespace CommandManual.Shell

open Console

def Request.config : Request → Option Path
  | .generate _ r => r.config
  | .list _ r => r.config

namespace Run

/-! ### Messages of faults -/

def faultLead : String := "[red]✗[/red] "

theorem normalStyle_red : normalStyle ['r', 'e', 'd'] = .ok "red" :=
  eq_ok_of_toOption (by decide +kernel)

theorem openTag_red (n : Nat) : openTag n ['r', 'e', 'd'] = .ok ⟨n, "red", []⟩ := by
  simp [openTag, styleOf, normalStyle_red, Except.mapError]

theorem closeTag_red (position n : Nat) :
    closeTag position ['/', 'r', 'e', 'd'] [⟨n, "red", []⟩] = .ok (⟨n, "red", []⟩, []) := by
  have trimmed : Text.trim ['r', 'e', 'd'] = ['r', 'e', 'd'] := by decide
  simp [closeTag, trimmed, styleOf, normalStyle_red, Except.mapError]

theorem piecesFrom_faultLead (t : Text) :
    piecesFrom 0 0 [] (faultLead.toList ++ t) =
      .tag 0 ['r', 'e', 'd'] :: .plain ['✗'] :: .tag 6 ['/', 'r', 'e', 'd'] ::
        piecesFrom 0 13 [' '] t :=
  rfl

/-- Every message can be shown. -/
theorem exists_sentence (message : String) : ∃ line, sentence faultLead message = .ok line := by
  -- The tags of the lead are opened and closed; after them only plain pieces come.
  have tagged : (faultLead.toList ++ escape message.toList).any (· == '[') = true := rfl
  have shown : ∃ styled, readMarkup (faultLead.toList ++ escape message.toList) = .ok styled := by
    rw [readMarkup, if_pos tagged, piecesFrom_faultLead]
    simp only [showPieces, List.head?_cons, openTag_red, closeTag_red, except_ok_bind]
    exact exists_showPieces _ _ (plain_piecesFrom_escape message.toList 13 [' '])
  obtain ⟨styled, shown⟩ := shown
  refine ⟨linesOf styled.text, ?_⟩
  rw [sentence, shown]
  rfl

/-! ### Loading the settings -/

variable {env : Environment} {path : Option Path} {w : Workspace}

theorem runStep_loadSettings_of_configuration {component reason line : String}
    (blamed : Settings.load w.tree env path = .error (.configuration component reason))
    (shown : sentence faultLead (Fault.configuration component reason).message = .ok line) :
    runStep (loadSettings env path) w =
      (.error (.exit (.code 1)), { w with stdout := w.stdout ++ line }) := by
  have start : runStep (get : Run Workspace) w = (.ok w, w) := rfl
  have said : runStep (say faultLead (Fault.configuration component reason).message) w =
      (.ok (), { w with stdout := w.stdout ++ line }) := by
    rw [say, shown]
    rfl
  rw [loadSettings, runStep_bind_of_ok start, blamed]
  exact (runStep_bind_of_ok said).trans rfl

theorem runStep_loadSettings_of_fault {f : Fault}
    (failed : Settings.load w.tree env path = .error f) (other : f.isConfiguration = false) :
    runStep (loadSettings env path) w = (.error (.fault f), w) := by
  have start : runStep (get : Run Workspace) w = (.ok w, w) := rfl
  rw [loadSettings, runStep_bind_of_ok start, failed]
  cases f with
  | configuration component reason => cases other
  | _ => rfl

theorem runStep_carryOut_of_error {request : Request} {ending : Ending} {w' : Workspace}
    (failed : runStep (loadSettings env request.config) w = (.error ending, w')) :
    runStep (carryOut env request) w = (.error ending, w') := by
  cases request with
  | generate flags r => exact runStep_bind_of_error failed
  | list flags r => exact runStep_bind_of_error failed

theorem runStep_perform_of_error {args : List String} {request : Request} {ending : Ending}
    {w' : Workspace} (asked : Request.read args = .ok request)
    (failed : runStep (loadSettings env request.config) w = (.error ending, w')) :
    runStep (perform env args) w = (.error ending, w') := by
  rw [perform, asked]
  exact runStep_carryOut_of_error failed

/-- Loading the settings gives settings or is blamed on the configuration, unless the file is
in breach. Then, and only then, a run goes on or ends with code 1 and a message. -/
theorem settings_blamed_iff_unbreached (tree : FileTree) (env : Environment)
    (path : Option Path) :
    (((∃ c, Settings.load tree env path = .ok c) ∨
        ∃ component reason,
          Settings.load tree env path = .error (.configuration component reason)) ↔
      ¬ Settings.LoadBreach tree path) ∧
    ∀ (args : List String) (request : Request) (w : Workspace),
      Request.read args = .ok request → request.config = path → w.tree = tree →
        (∀ component reason,
          Settings.load tree env path = .error (.configuration component reason) →
            ∃ line, sentence faultLead (Fault.configuration component reason).message = .ok line ∧
              outcome env args w = (.ok (.code 1), { w with stdout := w.stdout ++ line })) ∧
        (Settings.LoadBreach tree path →
          ∃ f, f.isConfiguration = false ∧ Settings.load tree env path = .error f ∧
            runStep (perform env args) w = (.error (.fault f), w)) := by
  constructor
  · rw [← not_breaks_iff, Settings.breaks_load_iff]
  · rintro args request w asked rfl rfl
    constructor
    · intro component reason blamed
      obtain ⟨line, shown⟩ := exists_sentence (Fault.configuration component reason).message
      have ended := runStep_perform_of_error asked
        (runStep_loadSettings_of_configuration blamed shown)
      refine ⟨line, shown, ?_⟩
      rw [outcome, ← runStep, ended]
    · intro breach
      obtain ⟨f, failed, other⟩ := Settings.breaks_load_iff.mpr breach
      exact ⟨f, other, failed,
        runStep_perform_of_error asked (runStep_loadSettings_of_fault failed other)⟩

def tornFile : FileTree where
  entries := [(["pyproject.toml"], .file (.text "[tool.manify".toList))]
  here := []

theorem torn_file_ends_with_message :
    ¬ Settings.LoadBreach tornFile none ∧
      ∃ line, outcome [] ["list"] { tree := tornFile } =
        (.ok (.code 1), { tree := tornFile, stdout := "" ++ line }) := by
  obtain ⟨unbreached, runs⟩ := settings_blamed_iff_unbreached tornFile [] none
  have blamed : Settings.load tornFile [] none =
      .error (.configuration "config" "invalid TOML in /pyproject.toml") := rfl
  obtain ⟨line, -, ended⟩ := (runs ["list"] _ { tree := tornFile } rfl rfl rfl).1 _ _ blamed
  exact ⟨unbreached.mp (.inr ⟨_, _, blamed⟩), line, ended⟩

def strayByte : FileTree where
  entries := [(["pyproject.toml"], .file (.bytes [0xff]))]
  here := []

/-- What is wrong with this file is not blamed on the configuration, and the run ends
without a code. -/
theorem stray_byte_goes_through :
    ∃ e, Settings.load strayByte [] none = .error (.undecodable e) ∧
      outcome [] ["list"] { tree := strayByte } =
        (.error (.undecodable e), { tree := strayByte }) :=
  ⟨_, rfl, rfl⟩

end Run

end CommandManual.Shell
