import CommandManual.Proofs.Command.Registry
import CommandManual.Proofs.Except

/-!
What an intake adds to the registry. It fills gaps only: a name that stands for something
keeps it, and any other name gets the target of its first entry point that can be loaded.
An entry point is passed over without being loaded if something stands for its name when it
is reached, and one that fails is noted and passed over. All this holds as long as what is
said about the failures can be put into words; an error that has no text ends the intake.
-/

namespace CommandManual

open Registry

/-! ### Failures -/

namespace EntryPoint

def failure? (e : EntryPoint) : Option (EntryPoint × String) :=
  match e.outcome with
  | .ok _ => none
  | .error raised => raised.formatted.toOption.map fun detail => (e, detail)

def Wordable (e : EntryPoint) : Prop :=
  ∀ raised, e.outcome = .error raised → ∃ detail, raised.formatted = .ok detail

def Ordinary (e : EntryPoint) : Prop :=
  ∀ raised, e.outcome = .error raised → raised.isOrdinary = true

end EntryPoint

/-- A name for which no class of a command file holds anything has not been declared. -/
theorem Script.Class.declared?_eq_none {c : Script.Class} {name : String}
    (undeclared : ∀ k ∈ c.lineage, k.isKnown = false → k.own.lookup name = none) :
    c.declared? name = none := by
  unfold Script.Class.declared?
  split
  · rename_i k found
    split
    · rfl
    · rename_i unknown
      exact undeclared k (List.mem_of_find?_eq_some found) (Bool.not_eq_true _ ▸ unknown)
  · rfl

def Registry.complaint (failure : EntryPoint × String) : Log.Record :=
  .named logger .warning
    ("Failed to load command entry point " ++ failure.1.name ++ " (" ++ failure.1.value ++
      "): " ++ failure.2)
    [("name", .str failure.1.name), ("value", .str failure.1.value), ("error", .str failure.2)]

theorem Registry.run_noteFailures (failures : List (EntryPoint × String))
    (records : List Log.Record) :
    StateT.run (ExceptT.run (noteFailures failures)) records =
      (.ok (), records ++ failures.map complaint) := by
  induction failures generalizing records with
  | nil =>
      rw [List.map_nil, List.append_nil]
      rfl
  | cons failure rest ih =>
      obtain ⟨e, detail⟩ := failure
      rw [noteFailures, Traced.run_bind, Traced.run_note]
      dsimp only
      rw [ih, List.append_assoc]
      rfl

/-! ### Names that are taken -/

namespace Registry

def firstLoaded? (name : String) (entries : List EntryPoint) : Option Target :=
  entries.findSome? fun e => if e.name = name then e.outcome.toOption else none

/-- Whether something stands for a name once the entry points before were taken in. -/
def taken (r : Registry) (before : List EntryPoint) (name : String) : Bool :=
  r.has name || (firstLoaded? name before).isSome

/-- The entry points that are loaded: those for whose names nothing stands when they are
reached. -/
def attempts (r : Registry) : (before : List EntryPoint) → List EntryPoint → List EntryPoint
  | _, [] => []
  | before, e :: rest =>
    if r.taken before e.name then attempts r (before ++ [e]) rest
    else e :: attempts r (before ++ [e]) rest

theorem firstLoaded?_append (name : String) (before after : List EntryPoint) :
    firstLoaded? name (before ++ after) =
      (firstLoaded? name before).or (firstLoaded? name after) :=
  List.findSome?_append

theorem firstLoaded?_singleton (name : String) (e : EntryPoint) :
    firstLoaded? name [e] = if e.name = name then e.outcome.toOption else none := by
  simp only [firstLoaded?, List.findSome?_cons, List.findSome?_nil]
  split <;> simp_all

/-- What the names stand for in an intake that has gone through some entry points. -/
def Fills (r : Registry) (before : List EntryPoint) (i : Intake) : Prop :=
  ∀ name, i.registry.targets.lookup name =
    (r.targets.lookup name).or (firstLoaded? name before)

section Step

variable {r : Registry} {before : List EntryPoint} {i : Intake} {e : EntryPoint}

theorem taken_eq (r : Registry) (before : List EntryPoint) (name : String) :
    r.taken before name = ((r.targets.lookup name).or (firstLoaded? name before)).isSome := by
  rw [Option.isSome_or]
  rfl

theorem Fills.has_eq (fills : Fills r before i) (name : String) :
    i.registry.has name = r.taken before name := by
  rw [has, fills name, taken_eq]

/-- An entry point of a name that is taken changes nothing. -/
theorem Fills.pass (fills : Fills r before i) (known : r.taken before e.name = true) :
    Fills r (before ++ [e]) i := by
  intro name
  rw [fills name, firstLoaded?_append, firstLoaded?_singleton, ← Option.or_assoc]
  split
  · rename_i same
    rw [taken_eq] at known
    rw [← same, Option.or_of_isSome known]
  · rw [Option.or_none]

/-- An entry point that can be loaded fills the gap that is found. -/
theorem Fills.fill (fills : Fills r before i) (gap : r.taken before e.name = false)
    {target : Target} (loaded : e.outcome = .ok target) (count : Nat) :
    Fills r (before ++ [e])
      { i with registry := i.registry.register e.name target, count } := by
  intro name
  have free : (r.targets.lookup e.name).or (firstLoaded? e.name before) = none := by
    rw [taken_eq] at gap
    exact Option.not_isSome_iff_eq_none.mp (Bool.not_eq_true _ ▸ gap)
  rw [lookup_register, firstLoaded?_append, firstLoaded?_singleton, ← Option.or_assoc]
  by_cases same : name = e.name
  · subst same
    rw [if_pos rfl, if_pos rfl, free, loaded]
    rfl
  · rw [if_neg same, if_neg (Ne.symm same), Option.or_none]
    exact fills name

/-- An entry point that fails leaves the gap. -/
theorem Fills.leave (fills : Fills r before i) {raised : Script.Raised}
    (failed : e.outcome = .error raised) (failures : List (EntryPoint × String)) :
    Fills r (before ++ [e]) { i with failures } := by
  intro name
  rw [firstLoaded?_append, firstLoaded?_singleton, failed]
  have nothing : (if e.name = name then (Except.error raised : Except _ Target).toOption
      else none) = none := by
    split <;> rfl
  rw [nothing, Option.or_none]
  exact fills name

end Step

/-! ### A whole intake -/

section Run

variable {r : Registry} {before entries : List EntryPoint} {i : Intake}

/-- After an intake that is not stopped the gaps are filled, and what failed is kept. -/
theorem Fills.takeIn (fills : Fills r before i)
    (finished : (Registry.takeIn entries i).stopped = none) :
    Fills r (before ++ entries) (Registry.takeIn entries i) ∧
      (Registry.takeIn entries i).failures =
        i.failures ++ (r.attempts before entries).filterMap EntryPoint.failure? := by
  -- The names that are taken grow with the entry points that were passed.
  fun_induction Registry.takeIn entries i generalizing before with
  | case1 i =>
      rw [List.append_nil, attempts]
      exact ⟨fills, by simp⟩
  | case2 e rest i known ih =>
      rw [fills.has_eq] at known
      obtain ⟨filled, noted⟩ := ih (fills.pass known) finished
      rw [attempts, if_pos known, List.append_cons]
      exact ⟨filled, noted⟩
  | case3 e rest i unknown target loaded ih =>
      rw [fills.has_eq, Bool.not_eq_true] at unknown
      obtain ⟨filled, noted⟩ := ih (fills.fill unknown loaded _) finished
      have silent : e.failure? = none := by rw [EntryPoint.failure?, loaded]
      rw [attempts, if_neg (by rw [unknown]; exact Bool.false_ne_true),
        List.filterMap_cons_none silent, List.append_cons]
      exact ⟨filled, noted⟩
  | case4 => cases finished
  | case5 e rest i unknown raised failed ordinary detail shown ih =>
      rw [fills.has_eq, Bool.not_eq_true] at unknown
      obtain ⟨filled, noted⟩ := ih (fills.leave failed _) finished
      have said : e.failure? = some (e, detail) := by
        rw [EntryPoint.failure?, failed]
        dsimp only
        rw [shown]
        rfl
      rw [attempts, if_neg (by rw [unknown]; exact Bool.false_ne_true),
        List.filterMap_cons_some said, List.append_cons]
      refine ⟨filled, noted.trans ?_⟩
      rw [List.append_assoc, List.singleton_append]
  | case6 => cases finished

/-- An intake of entry points that fail in ordinary ways is stopped only by an error that
has no text. -/
theorem Fills.stopped_takeIn (fills : Fills r before i) (going : i.stopped = none)
    (ordinary : ∀ e ∈ entries, e.Ordinary) :
    (Registry.takeIn entries i).stopped = none ↔
      ∀ e ∈ r.attempts before entries, e.Wordable := by
  fun_induction Registry.takeIn entries i generalizing before with
  | case1 i => simp [attempts, going]
  | case2 e rest i known ih =>
      rw [fills.has_eq] at known
      rw [attempts, if_pos known]
      exact ih (fills.pass known) going (List.forall_mem_cons.mp ordinary).2
  | case3 e rest i unknown target loaded ih =>
      rw [fills.has_eq] at unknown
      have wordable : e.Wordable := by
        intro raised failed
        rw [loaded] at failed
        cases failed
      rw [attempts, if_neg unknown, List.forall_mem_cons]
      rw [ih (fills.fill (Bool.not_eq_true _ ▸ unknown) loaded _) going
        (List.forall_mem_cons.mp ordinary).2]
      exact (and_iff_right wordable).symm
  | case4 e rest i unknown raised failed unusual =>
      have usual := (List.forall_mem_cons.mp ordinary).1 raised failed
      simp [usual] at unusual
  | case5 e rest i unknown raised failed usual detail shown ih =>
      rw [fills.has_eq] at unknown
      have wordable : e.Wordable := by
        intro raised' failed'
        rw [failed] at failed'
        cases failed'
        exact ⟨detail, shown⟩
      rw [attempts, if_neg unknown, List.forall_mem_cons]
      rw [ih (fills.leave failed _) going (List.forall_mem_cons.mp ordinary).2]
      exact (and_iff_right wordable).symm
  | case6 e rest i unknown raised failed usual raised' mute =>
      -- The only case in which the intake stops.
      rw [fills.has_eq] at unknown
      rw [attempts, if_neg unknown, List.forall_mem_cons]
      constructor
      · intro none
        cases none
      · rintro ⟨wordable, -⟩
        obtain ⟨detail, shown⟩ := wordable raised failed
        rw [mute] at shown
        cases shown

/-- Every entry point that is counted adds a name, also when the intake is stopped. -/
theorem length_targets_takeIn (entries : List EntryPoint) (i : Intake) :
    (Registry.takeIn entries i).registry.targets.length + i.count =
      i.registry.targets.length + (Registry.takeIn entries i).count := by
  fun_induction Registry.takeIn entries i with
  | case1 | case4 | case6 => rfl
  | case2 e rest i known ih => exact ih
  | case3 e rest i unknown target loaded ih =>
      have grown : (i.registry.register e.name target).targets.length =
          i.registry.targets.length + 1 := by
        have new : e.name ∉ i.registry.targets.map Prod.fst := by
          intro listed
          apply unknown
          rw [← mem_names_iff, names, Text.mem_sortNames]
          exact listed
        have keys := congrArg List.length (keys_assign e.name target i.registry.targets)
        rw [if_neg new] at keys
        simpa [register] using keys
      dsimp only at ih
      omega
  | case5 e rest i unknown raised failed ordinary detail shown ih => exact ih

/-- Nothing is asked of an entry point for whose name something stands when it is reached. -/
theorem Fills.takeIn_congr (fills : Fills r before i) {passed after : List EntryPoint}
    {e e' : EntryPoint} (same : e'.name = e.name)
    (known : r.taken (before ++ passed) e.name = true) :
    Registry.takeIn (passed ++ e' :: after) i = Registry.takeIn (passed ++ e :: after) i := by
  induction passed generalizing before i with
  | nil =>
      rw [List.append_nil, ← fills.has_eq] at known
      rw [List.nil_append, List.nil_append, Registry.takeIn, Registry.takeIn, same, if_pos known,
        if_pos known]
  | cons first passed ih =>
      rw [List.append_cons] at known
      rw [List.cons_append, List.cons_append, Registry.takeIn, Registry.takeIn]
      split
      · rename_i reached
        rw [fills.has_eq] at reached
        exact ih (fills.pass reached) known
      · rename_i reached
        rw [fills.has_eq, Bool.not_eq_true] at reached
        split
        · rename_i target loaded
          exact ih (fills.fill reached loaded _) known
        · rename_i raised failed
          split
          · rfl
          · split
            · exact ih (fills.leave failed _) known
            · rfl

end Run

theorem length_names (r : Registry) : r.names.length = r.targets.length := by
  rw [names, (Text.sortNames_perm _).length_eq, List.length_map]

def beginning (r : Registry) : Intake := { registry := { r with consulted := true } }

theorem fills_beginning (r : Registry) : Fills r [] r.beginning := by
  intro name
  rw [firstLoaded?, List.findSome?_nil, Option.or_none]
  rfl

end Registry

/-! ### The call -/

namespace Workspace

def installing (w : Workspace) (entryPoints : List EntryPoint) : Workspace :=
  { w with entryPoints }

theorem records_foldl_deliver (w : Workspace) (records : List Log.Record) :
    (records.foldl deliver w).records = w.records ++ records := by
  induction records generalizing w with
  | nil => rw [List.foldl_nil, List.append_nil]
  | cons r rest ih =>
      rw [List.foldl_cons, ih, deliver, List.append_assoc, List.singleton_append]

theorem foldl_deliver_installing (w : Workspace) (entryPoints : List EntryPoint)
    (records : List Log.Record) :
    records.foldl deliver (w.installing entryPoints) =
      (records.foldl deliver w).installing entryPoints := by
  induction records generalizing w with
  | nil => rfl
  | cons r rest ih => exact ih (w.deliver r)

end Workspace

namespace Action

def resultOf (i : Registry.Intake) : Except Fault Unit :=
  match i.stopped with
  | some raised => .error (.raised raised)
  | none => .ok ()

/-- What is made of an intake: it is kept, its failures are noted, and what stopped it is
passed on. -/
theorem outcome_keepIntake (group : String) (i : Registry.Intake) (w : Workspace) :
    (keepIntake group i).outcome w =
      (resultOf i, (i.failures.map Registry.complaint).foldl Workspace.deliver
        { w with registry := i.registry, lookups := w.lookups ++ [group] }) := by
  have noted : (Registry.noteFailures i.failures).outcome =
      (.ok (), i.failures.map Registry.complaint) := Registry.run_noteFailures i.failures []
  unfold keepIntake
  rw [outcome_bind, outcome_modify]
  dsimp only
  rw [outcome_bind, outcome_ofTraced, noted]
  dsimp only
  unfold resultOf
  split <;> simp_all

theorem resultOf_eq_ok_iff {i : Registry.Intake} : resultOf i = .ok () ↔ i.stopped = none := by
  unfold resultOf
  split <;> simp [*]

theorem outcome_loadEntryPoints {group : String} {w : Workspace} {i : Registry.Intake}
    (taken : w.registry.loadEntryPoints (advertised group w) = i) :
    (loadEntryPoints group).outcome w =
      ((resultOf i).map fun _ => i.count,
        (i.failures.map Registry.complaint).foldl Workspace.deliver
          { w with registry := i.registry, lookups := w.lookups ++ [group] }) := by
  unfold loadEntryPoints
  rw [outcome_bind, outcome_get]
  dsimp only
  rw [outcome_bind, taken, outcome_keepIntake]
  rcases resultOf i with fault | ⟨⟩ <;> rfl

/-- Only what is taken in matters of what is advertised. -/
theorem outcome_loadEntryPoints_installing {group : String} {w : Workspace}
    {entryPoints : List EntryPoint}
    (same : w.registry.loadEntryPoints (advertised group (w.installing entryPoints)) =
      w.registry.loadEntryPoints (advertised group w)) :
    (loadEntryPoints group).outcome (w.installing entryPoints) =
      (((loadEntryPoints group).outcome w).1, (w.intake group).installing entryPoints) := by
  have taken : (w.installing entryPoints).registry.loadEntryPoints
      (advertised group (w.installing entryPoints)) =
        w.registry.loadEntryPoints (advertised group w) := same
  rw [Workspace.intake, outcome_loadEntryPoints taken, outcome_loadEntryPoints rfl,
    ← Workspace.foldl_deliver_installing]
  rfl

end Action

namespace Workspace

open CommandManual.Action

variable (w : Workspace) (group : String)

/-- The commands that a group advertises fill the gaps of the registry: the call returns how
many names were added, what was known is kept, and any other name stands for the first of its
entry points that can be loaded. An entry point for whose name something stands when it is
reached might do anything when it is loaded, since it is not. Each failure is noted. -/
structure FillsGaps : Prop where
  returns : ∃ count, ((loadEntryPoints group).outcome w).1 = .ok count ∧
    (w.intake group).registry.names.length = w.registry.names.length + count
  kept : ∀ name t, w.registry.targets.lookup name = some t →
    (w.intake group).registry.targets.lookup name = some t
  filled : ∀ name, w.registry.has name = false →
    (w.intake group).registry.targets.lookup name = firstLoaded? name (advertised group w)
  unasked : ∀ before e after e' entryPoints, advertised group w = before ++ e :: after →
    w.registry.taken before e.name = true → e'.name = e.name →
    advertised group (w.installing entryPoints) = before ++ e' :: after →
    (loadEntryPoints group).outcome (w.installing entryPoints) =
      (((loadEntryPoints group).outcome w).1, (w.intake group).installing entryPoints)
  noted : (w.intake group).records = w.records ++
    ((w.registry.attempts [] (advertised group w)).filterMap EntryPoint.failure?).map complaint

variable {w group}

/-- An intake that is not stopped fills the gaps. -/
theorem fillsGaps_of_finished
    (finished : (takeIn (advertised group w) w.registry.beginning).stopped = none) :
    w.FillsGaps group := by
  have start := fills_beginning w.registry
  obtain ⟨filled, noted⟩ := start.takeIn finished
  have registry : (w.intake group).registry =
      (takeIn (advertised group w) w.registry.beginning).registry :=
    (w.sameRegistry_intake group).registry
  refine ⟨⟨(takeIn (advertised group w) w.registry.beginning).count, ?_, ?_⟩, ?_, ?_, ?_, ?_⟩
  · have ended := resultOf_eq_ok_iff.mpr finished
    rw [outcome_loadEntryPoints rfl]
    exact congrArg (Except.map _) ended
  · rw [length_names, length_names, registry]
    exact length_targets_takeIn (advertised group w) w.registry.beginning
  · intro name t known
    rw [registry]
    exact lookup_takeIn (i := w.registry.beginning) _ known
  · intro name gap
    have free : w.registry.targets.lookup name = none := by
      rw [← Option.not_isSome_iff_eq_none]
      exact Bool.not_eq_true _ ▸ gap
    rw [registry, filled name, free, Option.none_or, List.nil_append]
  · intro before e after e' entryPoints now known same then'
    apply outcome_loadEntryPoints_installing
    rw [now, then']
    exact start.takeIn_congr same known
  · rw [intake, outcome_loadEntryPoints rfl]
    dsimp only
    rw [records_foldl_deliver]
    exact congrArg (fun failures => w.records ++ failures.map complaint) noted

/-- The commands that a group advertises fill the gaps of the registry exactly if every error
that comes of loading one can be put into words. The entry points fail in ordinary ways, and
there may be several of one name. -/
theorem entry_points_fill_gaps_iff (w : Workspace) (group : String)
    (ordinary : ∀ e ∈ advertised group w, e.Ordinary) :
    w.FillsGaps group ↔
      ∀ e ∈ w.registry.attempts [] (advertised group w), e.Wordable := by
  rw [← (fills_beginning w.registry).stopped_takeIn rfl ordinary]
  constructor
  · rintro ⟨⟨count, returned, -⟩, -⟩
    rw [outcome_loadEntryPoints rfl] at returned
    apply resultOf_eq_ok_iff.mp
    change (resultOf (takeIn _ w.registry.beginning)).map _ = _ at returned
    generalize resultOf (takeIn _ w.registry.beginning) = result at returned ⊢
    cases result with
    | ok => rfl
    | error fault => cases returned
  · exact fillsGaps_of_finished

/-- A command is registered by hand, and another one is advertised three times. -/
def bazaar : Workspace where
  tree := { entries := [], here := [] }
  registry := { targets := [("greet", numbered 3)] }
  entryPoints :=
    [advert "wave" (.error (.undefinedName "Wave")), advert "greet" (.ok (numbered 1)),
      advert "wave" (.ok (numbered 2)), advert "wave" (.error (.undefinedName "Again"))]

/-- The first entry point that can be loaded fills the gap. What was registered by hand stays,
and only the failure before the gap was filled is noted. -/
theorem bazaar_filled :
    (∀ e ∈ advertised defaultGroup bazaar, e.Ordinary) ∧
      bazaar.FillsGaps defaultGroup ∧
      (bazaar.intake defaultGroup).registry.targets.lookup "wave" = some (numbered 2) ∧
      (bazaar.intake defaultGroup).registry.targets.lookup "greet" = some (numbered 3) ∧
      (bazaar.intake defaultGroup).records.map Log.Record.message =
        ["Failed to load command entry point wave (pack:wave): name 'Wave' is not defined"] := by
  have listed : advertised defaultGroup bazaar = bazaar.entryPoints := rfl
  have tried : bazaar.registry.attempts [] (advertised defaultGroup bazaar) =
      [advert "wave" (.error (.undefinedName "Wave")), advert "wave" (.ok (numbered 2))] := rfl
  have ordinary : ∀ e ∈ advertised defaultGroup bazaar, e.Ordinary := by
    rw [listed]
    simp [bazaar, advert, EntryPoint.Ordinary, Script.Raised.isOrdinary]
  have wordable : ∀ e ∈ bazaar.registry.attempts [] (advertised defaultGroup bazaar),
      e.Wordable := by
    rw [tried]
    simp [advert, EntryPoint.Wordable, Script.Raised.formatted]
  have fills := (entry_points_fill_gaps_iff bazaar defaultGroup ordinary).mpr wordable
  refine ⟨ordinary, fills, ?_, ?_, ?_⟩
  · exact fills.filled "wave" rfl
  · exact fills.kept "greet" (numbered 3) rfl
  · rw [fills.noted]
    rfl

def muteError : Script.Class :=
  .mk 10000 "Mute" [("__str__", .function { doc := .absent })]
    (Script.knownClass "Exception").lineage

def muteBazaar : Workspace where
  hub := ({} : Log.Hub).addOwn (.terminal .warning .console true true)
  tree := { entries := [], here := [] }
  entryPoints :=
    [advert "wave" (.error (.thrown muteError none)), advert "greet" (.ok (numbered 1))]

def unshownKind? : Script.Raised → Option String
  | .ofObject (.shownAs kind) => some kind
  | _ => none

theorem formatted_muteError :
    (Script.Raised.thrown muteError none).formatted =
      .error (.ofObject (.shownAs "NoneType")) := by
  have plain : muteError.declared? "__format__" = none := by
    apply Script.Class.declared?_eq_none
    have none : ∀ k ∈ muteError.lineage, k.isKnown = false →
        (k.own.lookup "__format__").isNone = true := by
      decide +kernel
    exact fun k hk unknown => Option.isNone_iff_eq_none.mp (none k hk unknown)
  have told : inFault? unshownKind? (Script.Raised.thrown muteError none).text =
      some "NoneType" := by
    decide +kernel
  obtain ⟨raised, failed, kind⟩ := exists_of_inFault? told
  rw [Script.Raised.formatted, Script.askDeclared, plain, Option.map_none, failed]
  unfold unshownKind? at kind
  split at kind
  · rw [Option.some.inj kind]
  · cases kind

/-- The failure cannot be noted, so the call fails, and the command after it is not taken in. -/
theorem mute_error_ends_intake :
    muteBazaar.hub.hears .warning = true ∧ (∀ e ∈ advertised defaultGroup muteBazaar, e.Ordinary) ∧
      ((loadEntryPoints defaultGroup).outcome muteBazaar).1 =
        .error (.raised (.ofObject (.shownAs "NoneType"))) ∧
      firstLoaded? "greet" (advertised defaultGroup muteBazaar) = some (numbered 1) ∧
      (muteBazaar.intake defaultGroup).registry.targets.lookup "greet" = none ∧
      ¬ muteBazaar.FillsGaps defaultGroup := by
  have listed : advertised defaultGroup muteBazaar = muteBazaar.entryPoints := rfl
  have usual : (Script.Raised.thrown muteError none).isOrdinary = true := by decide +kernel
  have stopped : muteBazaar.registry.loadEntryPoints (advertised defaultGroup muteBazaar) =
      { muteBazaar.registry.beginning with
        stopped := some (.ofObject (.shownAs "NoneType")) } := by
    have missed : muteBazaar.registry.beginning.registry.has "wave" = false := rfl
    rw [listed]
    change takeIn (advert "wave" (.error (.thrown muteError none)) :: _)
      muteBazaar.registry.beginning = _
    rw [takeIn, if_neg (by rw [advert, missed]; exact Bool.false_ne_true)]
    simp [advert, usual, formatted_muteError]
  have ended : ((loadEntryPoints defaultGroup).outcome muteBazaar).1 =
      .error (.raised (.ofObject (.shownAs "NoneType"))) := by
    rw [outcome_loadEntryPoints stopped]
    rfl
  refine ⟨rfl, ?_, ended, rfl, ?_, ?_⟩
  · rw [listed]
    simp [muteBazaar, advert, EntryPoint.Ordinary, usual]
  · rw [(muteBazaar.sameRegistry_intake defaultGroup).registry, stopped]
    rfl
  · rintro ⟨⟨count, returned, -⟩, -⟩
    rw [ended] at returned
    cases returned

end Workspace

end CommandManual
