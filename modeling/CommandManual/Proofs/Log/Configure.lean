import CommandManual.Proofs.Action
import CommandManual.Proofs.Data.Value
import CommandManual.Proofs.Files.Directories
import Mathlib.Data.List.Basic

/-!
Which sinks are up after the log was configured. Settings describe their sinks: one
on the terminal, and one for the file if a file is given. Putting settings into
force takes down the old sinks first and remembers the settings last, so a call
that fails in between leaves the old settings remembered without their sinks. A
later call with these settings then changes nothing. `configured_sinks_iff` says
exactly when the sinks are the described ones after a call that returns.
-/

namespace CommandManual.Log

variable {α β : Type}

/-! ### Running steps of the log -/

namespace Logging

def outcome (x : Logging α) (d : Desk) : Except Fault α × Desk := StateT.run (ExceptT.run x) d

@[simp] theorem outcome_pure (a : α) (d : Desk) :
    (pure a : Logging α).outcome d = (.ok a, d) := rfl

@[simp] theorem outcome_throw (f : Fault) (d : Desk) :
    (throw f : Logging α).outcome d = (.error f, d) := rfl

@[simp] theorem outcome_get (d : Desk) : (get : Logging Desk).outcome d = (.ok d, d) := rfl

@[simp] theorem outcome_set (d d' : Desk) :
    (set d' : Logging PUnit).outcome d = (.ok ⟨⟩, d') := rfl

@[simp] theorem outcome_changeHub (f : Hub → Hub) (d : Desk) :
    (changeHub f).outcome d = (.ok (), { d with hub := f d.hub }) := rfl

@[simp] theorem outcome_ofExcept (x : Except Fault α) (d : Desk) :
    (ofExcept x).outcome d = (x, d) := rfl

theorem outcome_bind (x : Logging α) (f : α → Logging β) (d : Desk) :
    (x >>= f).outcome d =
      match x.outcome d with
      | (.ok a, d') => (f a).outcome d'
      | (.error e, d') => (.error e, d') := by
  rcases hx : x.outcome d with ⟨e | a, d'⟩
  · exact runStep_bind_of_error hx
  · exact runStep_bind_of_ok hx

theorem outcome_bind_eq_ok {x : Logging α} {f : α → Logging β} {d d'' : Desk} {b : β} :
    (x >>= f).outcome d = (.ok b, d'') ↔
      ∃ a d', x.outcome d = (.ok a, d') ∧ (f a).outcome d' = (.ok b, d'') :=
  runStep_bind_eq_ok

end Logging

/-! ### The sinks that settings describe -/

namespace Settings

def terminal (s : Settings) (level : Level) : Sink :=
  .terminal level s.layout s.useColor.isTruthy s.includeTimestamp.isTruthy

def logPath (s : Settings) (d : Desk) : Except Fault Path :=
  (Logging.fileName d.stamp.moment (Path.ofString s.outputFile.display).toString).map fun name =>
    Logging.absolutePath d.tree.here (Path.ofString name)

/-- The sinks of some settings: one on the terminal, and one of the same level for
the file exactly if a file is given. -/
inductive Describes (s : Settings) (d : Desk) : List Sink → Prop
  | terminal {level : Level} (named : (LevelChoice.ofValue s.level).resolve = .ok level)
      (noFile : s.outputFile.isTruthy = false) : Describes s d [s.terminal level]
  | withFile {level : Level} {path : Path} {place : Place}
      (named : (LevelChoice.ofValue s.level).resolve = .ok level)
      (file : s.outputFile.isTruthy = true) (opened : s.logPath d = .ok path)
      (located : d.tree.locate .follow path = .ok place) :
      Describes s d [s.terminal level, .file level place]

theorem Describes.exists_level {s : Settings} {d : Desk} {sinks : List Sink}
    (h : s.Describes d sinks) : ∃ level, (LevelChoice.ofValue s.level).resolve = .ok level := by
  cases h with
  | terminal named => exact ⟨_, named⟩
  | withFile named => exact ⟨_, named⟩

end Settings

/-! ### Settings that count as equal -/

theorem Layout.ofValue_of_agrees {x y : Value} (h : x.agrees y = true) :
    Layout.ofValue x = Layout.ofValue y := by
  have console {v : Value} (hv : ∀ s, v ≠ .str s) : Layout.ofValue v = .console := by
    unfold Layout.ofValue
    split
    · exact absurd rfl (hv _)
    · exact absurd rfl (hv _)
    · exact absurd rfl (hv _)
    · rfl
  rcases Value.eq_or_not_text_of_agrees h with rfl | ⟨hx, hy⟩
  · rfl
  · rw [console hx, console hy]

/-- What counts as a level is a text or a whole number. -/
theorem exists_number_of_resolve {v : Value} {level : Level}
    (h : (LevelChoice.ofValue v).resolve = .ok level) (hv : ∀ s, v ≠ .str s) :
    ∃ n, v.ratio? = some (n, 1) ∧ LevelChoice.ofValue v = .numbered n := by
  cases v with
  | str s => exact absurd rfl (hv s)
  | int n => exact ⟨n, rfl, rfl⟩
  | bool b => exact ⟨_, rfl, rfl⟩
  | _ => cases h

/-- Values that count as equal ask for the same level, if both ask for one. -/
theorem resolve_of_agrees {x y : Value} (h : x.agrees y = true) {level level' : Level}
    (hx : (LevelChoice.ofValue x).resolve = .ok level)
    (hy : (LevelChoice.ofValue y).resolve = .ok level') : level = level' := by
  rcases Value.eq_or_not_text_of_agrees h with rfl | ⟨notText, notText'⟩
  · exact Except.ok.inj (hx.symm.trans hy)
  obtain ⟨n, hn, choice⟩ := exists_number_of_resolve hx notText
  obtain ⟨m, hm, choice'⟩ := exists_number_of_resolve hy notText'
  have heq : n = m := by
    rw [Value.agrees_eq_sameNumber hn, Value.sameNumber, hn, hm] at h
    simpa using h
  rw [choice, heq, ← choice'] at hx
  exact Except.ok.inj (hx.symm.trans hy)

namespace Settings

theorem toValue_agrees_iff {c s : Settings} :
    c.toValue.agrees s.toValue = true ↔
      c.level.agrees s.level = true ∧ c.format.agrees s.format = true ∧
        (if c.outputFile.isTruthy then Value.str c.outputFile.display else .null).agrees
          (if s.outputFile.isTruthy then Value.str s.outputFile.display else .null) = true ∧
        c.useColor.agrees s.useColor = true ∧
        c.includeTimestamp.agrees s.includeTimestamp = true := by
  simp [toValue, Value.agrees, Value.fieldsAgree, List.lookup_cons]

/-- Settings that count as equal describe the same sinks, if both name a level. -/
theorem Describes.of_agrees {c s : Settings} {d : Desk} {sinks : List Sink}
    (h : c.Describes d sinks) (same : c.toValue.agrees s.toValue = true) {level : Level}
    (named : (LevelChoice.ofValue s.level).resolve = .ok level) : s.Describes d sinks := by
  obtain ⟨hlevel, hformat, hfile, hcolor, hstamp⟩ := toValue_agrees_iff.mp same
  have hterminal (l : Level) : c.terminal l = s.terminal l := by
    unfold Settings.terminal layout
    rw [Layout.ofValue_of_agrees hformat, Value.isTruthy_of_agrees hcolor,
      Value.isTruthy_of_agrees hstamp]
  cases h with
  | terminal named' noFile =>
      cases resolve_of_agrees hlevel named' named
      rw [hterminal]
      refine .terminal named (Bool.eq_false_iff.mpr fun file => ?_)
      simp [noFile, file, Value.agrees, Value.sameNumber, Value.ratio?] at hfile
  | withFile named' file opened located =>
      cases resolve_of_agrees hlevel named' named
      rw [hterminal]
      cases file' : s.outputFile.isTruthy with
      | false => simp [file, file', Value.agrees, Value.sameNumber, Value.ratio?] at hfile
      | true =>
          have htext : c.outputFile.display = s.outputFile.display := by
            simpa [file, file', Value.agrees] using hfile
          rw [logPath, htext] at opened
          exact .withFile named file' opened located

end Settings

/-! ### What configuring does -/

def Desk.skips (d : Desk) (s : Settings) (force : Bool) : Bool :=
  d.hub.settings.any (fun c => c.toValue.agrees s.toValue) && !force

def Hub.cleared (h : Hub) : Hub := h.removeOwned.remove firstSink

def Hub.remember (s : Settings) (h : Hub) : Hub := { h with settings := some s }

inductive Configured (s : Settings) (force : Bool) (d : Desk) : Except Fault Unit → Desk → Prop
  | kept (skipped : d.skips s force = true) : Configured s force d (.ok ()) d
  | unknownLevel {e : LevelError} (new : d.skips s force = false)
      (unnamed : (LevelChoice.ofValue s.level).resolve = .error e) :
      Configured s force d (.error (.level e)) { d with hub := d.hub.cleared }
  | terminal {level : Level} (new : d.skips s force = false)
      (named : (LevelChoice.ofValue s.level).resolve = .ok level)
      (noFile : s.outputFile.isTruthy = false) :
      Configured s force d (.ok ())
        { d with hub := (d.hub.cleared.addOwn (s.terminal level)).remember s }
  /-- The sink on the terminal is up, and the file cannot be opened. -/
  | refused {level : Level} {fault : Fault} {tree : FileTree} (new : d.skips s force = false)
      (named : (LevelChoice.ofValue s.level).resolve = .ok level)
      (file : s.outputFile.isTruthy = true) :
      Configured s force d (.error fault)
        { d with hub := d.hub.cleared.addOwn (s.terminal level), tree }
  | withFile {level : Level} {path : Path} {place : Place} {tree : FileTree}
      (new : d.skips s force = false)
      (named : (LevelChoice.ofValue s.level).resolve = .ok level)
      (file : s.outputFile.isTruthy = true) (opened : s.logPath { d with tree } = .ok path)
      (located : tree.locate .follow path = .ok place) :
      Configured s force d (.ok ())
        { d with
          hub := ((d.hub.cleared.addOwn (s.terminal level)).addOwn (.file level place)).remember s
          tree }

namespace Logging

theorem exists_outcome_ensureDirectory (path : Path) (d : Desk) :
    ∃ result tree, (ensureDirectory path).outcome d = (result, { d with tree }) ∧
      tree.here = d.tree.here :=
  ⟨_, _, rfl, (FileTree.opens_ensureDirectory path d.tree).here⟩

/-- Opening a log file leaves the hub alone, and its path leads to the place. -/
theorem exists_outcome_openFile (named : Path) (d : Desk) :
    ∃ result tree, (openFile named).outcome d = (result, { d with tree }) ∧
      tree.here = d.tree.here ∧
      ∀ place, result = .ok place →
        ∃ name, fileName d.stamp.moment named.toString = .ok name ∧
          tree.locate .follow (absolutePath d.tree.here (Path.ofString name)) = .ok place := by
  unfold openFile
  rw [outcome_bind, outcome_get]
  dsimp only
  rw [outcome_bind, outcome_ofExcept]
  rcases fileName d.stamp.moment named.toString with fault | name
  · exact ⟨_, d.tree, rfl, rfl, by rintro place ⟨⟩⟩
  dsimp only
  rw [outcome_bind, outcome_get]
  dsimp only
  generalize hpath : absolutePath d.tree.here (Path.ofString name) = path
  -- A path that a file can be written at also leads there.
  have led (tree : FileTree) (place : Place)
      (h : (tree.locate .write path).mapError
        (fun r => Fault.access (.refused r path.toString)) = .ok place) :
      ∃ name', Except.ok name = (.ok name' : Except Fault String) ∧
        tree.locate .follow (absolutePath d.tree.here (Path.ofString name')) = .ok place := by
    refine ⟨name, rfl, ?_⟩
    rw [hpath]
    rcases located : tree.locate .write path with e | place'
    all_goals
      rw [located] at h
      cases h
    exact FileTree.locate_of_sameWays (.refl tree) (by decide) located
  obtain ⟨result, tree, made, here⟩ := exists_outcome_ensureDirectory path.parent d
  rw [outcome_bind, made]
  rcases result with fault | _
  · exact ⟨_, tree, rfl, here, by rintro place ⟨⟩⟩
  dsimp only
  rw [outcome_bind, outcome_get]
  dsimp only
  split
  · exact ⟨_, tree, rfl, here, led tree⟩
  · rw [outcome_bind, outcome_ofExcept]
    rcases written : tree.write path (.text []) with e | tree'
    · exact ⟨_, tree, rfl, here, by rintro place ⟨⟩⟩
    · obtain ⟨-, place, -, -, rfl⟩ := FileTree.write_eq_ok_iff.mp written
      exact ⟨_, _, rfl, here, led _⟩

/-- Whatever configuring comes to is one of these. -/
theorem configured (s : Settings) (force : Bool) (d : Desk) :
    Configured s force d ((configure s force).outcome d).1 ((configure s force).outcome d).2 := by
  unfold configure
  rw [outcome_bind, outcome_get]
  dsimp only
  split
  · rename_i skipped
    exact .kept skipped
  rename_i new
  have new : d.skips s force = false := Bool.eq_false_iff.mpr new
  rw [outcome_bind, outcome_changeHub]
  dsimp only
  rw [outcome_bind, outcome_ofExcept]
  rcases named : (LevelChoice.ofValue s.level).resolve with e | level
  · exact .unknownLevel new named
  rw [mapError_ok]
  dsimp only
  rw [outcome_bind, outcome_changeHub]
  dsimp only
  cases file : s.outputFile.isTruthy with
  | false => exact .terminal new named file
  | true =>
      rw [if_pos rfl, outcome_bind]
      cases hvalue : s.outputFile with
      | str name =>
          -- From here on the hub is not looked at until the end.
          generalize hup : Hub.addOwn _ (Hub.remove firstSink d.hub.removeOwned) = up
          obtain ⟨made, tree, hmade, here⟩ :=
            exists_outcome_ensureDirectory (Path.ofString name).parent { d with hub := up }
          dsimp only [pathOf, outcome_pure]
          rw [outcome_bind, hmade]
          rcases made with fault | _
          · subst hup
            exact .refused new named file
          obtain ⟨opened, tree', hopened, here', led⟩ :=
            exists_outcome_openFile (Path.ofString name) { d with hub := up, tree }
          dsimp only
          rw [outcome_bind, hopened]
          rcases opened with fault | place
          · subst hup
            exact .refused new named file
          obtain ⟨filled, hfilled, located⟩ := led place rfl
          subst hup
          refine .withFile new named file ?_ located
          have hfilled : fileName d.stamp.moment (Path.ofString s.outputFile.display).toString =
              .ok filled := by
            rw [hvalue]
            exact hfilled
          rw [Settings.logPath, hfilled]
          exact congrArg (fun h => Except.ok (absolutePath h (Path.ofString filled))) here'
      | _ => exact .refused new named file

end Logging

/-! ### The sinks of the program -/

namespace Hub

def Numbered (h : Hub) : Prop := ∀ id s, (id, s) ∈ h.sinks → id < h.nextId

theorem Numbered.remove {h : Hub} (numbered : h.Numbered) (id : Nat) : (h.remove id).Numbered :=
  fun n s hmem => numbered n s (List.mem_filter.mp hmem).1

theorem Numbered.removeOwned {h : Hub} (numbered : h.Numbered) : h.removeOwned.Numbered := by
  have removed (ids : List Nat) (h : Hub) (numbered : h.Numbered) :
      (ids.foldl (fun h id => h.remove id) h).Numbered := by
    induction ids generalizing h with
    | nil => exact numbered
    | cons id rest ih => exact ih (h.remove id) (numbered.remove id)
  exact removed h.owned h numbered

theorem Numbered.addOwn {h : Hub} (numbered : h.Numbered) (s : Sink) :
    (h.addOwn s).Numbered := by
  intro id t hmem
  rcases List.mem_append.mp hmem with old | new
  · exact Nat.lt_succ_of_lt (numbered id t old)
  · cases List.mem_singleton.mp new
    exact Nat.lt_succ_self _

theorem ownSinks_of_owned_nil {h : Hub} (none : h.owned = []) : h.ownSinks = [] := by
  simp [ownSinks, none]

theorem ownSinks_cleared (h : Hub) : h.cleared.ownSinks = [] := ownSinks_of_owned_nil rfl

/-- A sink that is put up is the last one of the program. -/
theorem ownSinks_addOwn {h : Hub} (numbered : h.Numbered) (s : Sink) :
    (h.addOwn s).ownSinks = h.ownSinks ++ [s] := by
  have old : h.sinks.filterMap (fun entry =>
      if (h.owned ++ [h.nextId]).contains entry.1 then some entry.2 else none) = h.ownSinks := by
    refine List.filterMap_congr fun entry hmem => ?_
    have hne : entry.1 ≠ h.nextId := Nat.ne_of_lt (numbered entry.1 entry.2 hmem)
    simp [hne]
  rw [← old]
  simp [ownSinks, addOwn, add]

end Hub

/-! ### One order after the other -/

inductive Order
  | configure (s : Settings) (force : Bool)
  | reset

def Order.step : Order → Logging Unit
  | configure s force => Logging.configure s force
  | reset => Logging.reset

def Settings.failure? (s : Settings) : Except Fault Unit → Option Settings
  | .ok () => none
  | .error _ => some s

/-- The settings with which the last order failed that was not skipped, if it did. -/
def Order.failed? (d : Desk) (before : Option Settings) : Order → Option Settings
  | configure s force =>
    if d.skips s force then before else s.failure? ((Logging.configure s force).outcome d).1
  | reset => none

/-- A desk and the settings with which the last order failed that was not skipped,
after one more order. -/
def Order.carriedOut (state : Desk × Option Settings) (order : Order) :
    Desk × Option Settings :=
  ((order.step.outcome state.1).2, order.failed? state.1 state.2)

/-- The desk after some orders, each of which may fail, and the settings with which
the last one failed that was not skipped. -/
def Desk.obey (d : Desk) (orders : List Order) : Desk × Option Settings :=
  orders.foldl Order.carriedOut (d, none)

/-- The sinks that are up when settings could not be put into force: the one on the
terminal, unless the level is at fault. -/
def Settings.leftovers (s : Settings) : List Sink :=
  match (LevelChoice.ofValue s.level).resolve with
  | .ok level => [s.terminal level]
  | .error _ => []

/-- How the sinks of the program and the settings in force belong together, when
an order may have failed. -/
structure Desk.Tracks (d : Desk) (failed : Option Settings) : Prop where
  numbered : d.hub.Numbered
  described : failed = none → ∀ c, d.hub.settings = some c → c.Describes d d.hub.ownSinks
  left : ∀ s, failed = some s → d.hub.ownSinks = s.leftovers

namespace Desk.Tracks

variable {d d' : Desk} {failed : Option Settings}

theorem cleared (h : d.Tracks failed) : d.hub.cleared.Numbered :=
  h.numbered.removeOwned.remove firstSink

theorem ownSinks_up (h : d.Tracks failed) (s : Sink) : (d.hub.cleared.addOwn s).ownSinks = [s] := by
  rw [Hub.ownSinks_addOwn h.cleared, Hub.ownSinks_cleared, List.nil_append]

theorem configured (h : d.Tracks failed) {s : Settings} {force : Bool} {result : Except Fault Unit}
    (done : Configured s force d result d') :
    d'.Tracks (if d.skips s force then failed else s.failure? result) := by
  cases done with
  | kept skipped =>
      rw [if_pos skipped]
      exact h
  | unknownLevel new unnamed =>
      rw [new]
      refine ⟨h.cleared, by rintro ⟨⟩, ?_⟩
      rintro _ ⟨⟩
      rw [Settings.leftovers, unnamed]
      exact d.hub.ownSinks_cleared
  | @terminal level new named noFile =>
      rw [new]
      refine ⟨h.cleared.addOwn _, ?_, by rintro _ ⟨⟩⟩
      rintro - _ ⟨⟩
      have up : (d.hub.cleared.addOwn (s.terminal level)).ownSinks = [s.terminal level] :=
        h.ownSinks_up _
      exact up ▸ .terminal named noFile
  | refused new named file =>
      rw [new]
      refine ⟨h.cleared.addOwn _, by rintro ⟨⟩, ?_⟩
      rintro _ ⟨⟩
      rw [Settings.leftovers, named]
      exact h.ownSinks_up _
  | @withFile level path place tree new named file opened located =>
      rw [new]
      refine ⟨(h.cleared.addOwn _).addOwn _, ?_, by rintro _ ⟨⟩⟩
      rintro - _ ⟨⟩
      have up : ((d.hub.cleared.addOwn (s.terminal level)).addOwn (.file level place)).ownSinks =
          [s.terminal level, .file level place] := by
        rw [Hub.ownSinks_addOwn (h.cleared.addOwn _), h.ownSinks_up, List.singleton_append]
      exact up ▸ .withFile named file opened located

/-- After one more order they still belong together. -/
theorem step (h : d.Tracks failed) (order : Order) :
    (order.step.outcome d).2.Tracks (order.failed? d failed) := by
  cases order with
  | configure s force => exact h.configured (Logging.configured s force d)
  | reset =>
      refine ⟨h.numbered.removeOwned, ?_, by rintro s ⟨⟩⟩
      rintro - c ⟨⟩

end Desk.Tracks

/-- They belong together after any orders, if no settings were in force before. -/
theorem Desk.tracks_obey {d : Desk} (numbered : d.hub.Numbered) (fresh : d.hub.settings = none)
    (orders : List Order) : (d.obey orders).1.Tracks (d.obey orders).2 := by
  have start : d.Tracks none := by
    refine ⟨numbered, ?_, by rintro s ⟨⟩⟩
    intro _ c inForce
    rw [fresh] at inForce
    cases inForce
  -- The failure that is carried along changes, so the run starts from any state.
  have run (orders : List Order) (state : Desk × Option Settings) (h : state.1.Tracks state.2) :
      (orders.foldl Order.carriedOut state).1.Tracks (orders.foldl Order.carriedOut state).2 := by
    induction orders generalizing state with
    | nil => exact h
    | cons order rest ih => exact ih _ (h.step order)
  exact run orders (d, none) start

theorem Configured.settings_of_new {s : Settings} {force : Bool} {d d' : Desk}
    (done : Configured s force d (.ok ()) d') (new : d.skips s force = false) :
    d'.hub.settings = some s := by
  cases done with
  | kept skipped =>
      rw [new] at skipped
      cases skipped
  | terminal => rfl
  | withFile => rfl

theorem Configured.eq_of_skipped {s : Settings} {force : Bool} {d d' : Desk}
    {result : Except Fault Unit} (done : Configured s force d result d')
    (skipped : d.skips s force = true) : d' = d := by
  cases done with
  | kept => rfl
  | unknownLevel new | terminal new | refused new | withFile new =>
      rw [skipped] at new
      cases new

/-- Which sinks of the program are up when configuring the log returns, after any
orders before it: those that the settings describe, unless the call was skipped
since settings that count as equal were remembered, and either the given level is
no level or the last order that was not skipped has failed and left other sinks. -/
theorem configured_sinks_iff {d d' : Desk} (numbered : d.hub.Numbered)
    (fresh : d.hub.settings = none) (orders : List Order) {s : Settings} {force : Bool}
    (returned : (Logging.configure s force).outcome (d.obey orders).1 = (.ok (), d')) :
    s.Describes d' d'.hub.ownSinks ↔
      ((d.obey orders).1.skips s force = true →
        (∃ level, (LevelChoice.ofValue s.level).resolve = .ok level) ∧
          ∀ s', (d.obey orders).2 = some s' → s.Describes d' s'.leftovers) := by
  have tracks := Desk.tracks_obey numbered fresh orders
  have done := Logging.configured s force (d.obey orders).1
  rw [returned] at done
  cases skipped : (d.obey orders).1.skips s force with
  | false =>
      have after := tracks.configured done
      rw [skipped] at after
      have described := after.described rfl s (done.settings_of_new skipped)
      simp [described]
  | true =>
      -- Nothing changes, so all depends on how the last order has left the log.
      obtain rfl := done.eq_of_skipped skipped
      constructor
      · intro described _
        refine ⟨described.exists_level, fun s' hfailed => ?_⟩
        rw [← tracks.left s' hfailed]
        exact described
      · intro h
        obtain ⟨⟨level, named⟩, left⟩ := h rfl
        cases hfailed : (d.obey orders).2 with
        | none =>
            obtain ⟨c, inForce, same⟩ : ∃ c, (d.obey orders).1.hub.settings = some c ∧
                c.toValue.agrees s.toValue = true := by
              rw [Desk.skips, Bool.and_eq_true, Option.any_eq_true] at skipped
              exact skipped.1
            exact (tracks.described hfailed c inForce).of_agrees same named
        | some s' =>
            rw [tracks.left s' hfailed]
            exact left s' hfailed

/-! ### A failed call in between -/

def startDesk : Desk := { hub := .initial, tree := { entries := [], here := [] } }

def watched : Settings := { level := .str "INFO", outputFile := .str "logs/run.log" }

def loud : Settings := { level := .str "LOUD" }

/-- When the settings were forced after the failure, telling them once more leaves
the sinks that they describe. -/
theorem forced_settings_described :
    ∃ d', (Logging.configure watched false).outcome (startDesk.obey
        [.configure watched false, .configure loud false, .configure watched true]).1 =
          (.ok (), d') ∧
      watched.Describes d' d'.hub.ownSinks ∧ d'.hub.ownSinks.length = 2 := by
  have numbered : startDesk.hub.Numbered := by
    intro id s hmem
    cases List.mem_singleton.mp hmem
    decide
  have returned : ((Logging.configure watched false).outcome (startDesk.obey
      [.configure watched false, .configure loud false, .configure watched true]).1).1.isOk =
        true := by
    decide +kernel
  have mended : (startDesk.obey
      [.configure watched false, .configure loud false, .configure watched true]).2.isNone =
        true := by
    decide +kernel
  have length : ((Logging.configure watched false).outcome (startDesk.obey
      [.configure watched false, .configure loud false,
        .configure watched true]).1).2.hub.ownSinks.length = 2 := by
    decide +kernel
  rcases hrun : (Logging.configure watched false).outcome (startDesk.obey
    [.configure watched false, .configure loud false, .configure watched true]).1
    with ⟨fault | _, d'⟩
  all_goals rw [hrun] at returned length
  · cases returned
  · refine ⟨d', rfl, (configured_sinks_iff numbered rfl _ hrun).mpr fun _ => ?_, length⟩
    refine ⟨⟨.info, by decide⟩, fun s' hfailed => ?_⟩
    rw [hfailed] at mended
    cases mended

/-- When the settings are only told again after the failure, the call returns and
no sink of the program is up. -/
theorem sinks_lost_after_failure :
    ∃ d', (Logging.configure watched false).outcome
        (startDesk.obey [.configure watched false, .configure loud false]).1 = (.ok (), d') ∧
      d'.hub.ownSinks = [] ∧ ¬ watched.Describes d' d'.hub.ownSinks := by
  have returned : ((Logging.configure watched false).outcome
      (startDesk.obey [.configure watched false, .configure loud false]).1).1.isOk = true := by
    decide +kernel
  have lost : ((Logging.configure watched false).outcome
      (startDesk.obey [.configure watched false, .configure loud false]).1).2.hub.ownSinks =
        [] := by
    decide +kernel
  rcases hrun : (Logging.configure watched false).outcome
    (startDesk.obey [.configure watched false, .configure loud false]).1 with ⟨fault | _, d'⟩
  all_goals rw [hrun] at returned lost
  · cases returned
  · refine ⟨d', rfl, lost, ?_⟩
    rw [show d'.hub.ownSinks = [] from lost]
    rintro ⟨⟩

end CommandManual.Log
