import CommandManual.Proofs.Manual.Report
import CommandManual.Proofs.Manual.Settled

/-!
How far one command is kept apart from the others. A command that is not
breached has its turn and the next one comes, whatever went wrong with it; a
command that is breached ends the run. So a run returns exactly when no command
is breached in the workspace that the turns before it leave.
-/

namespace CommandManual

def Listeners.Answer (listeners : Listeners) : Prop :=
  ∀ event w, ∃ w', (Action.tell listeners event).outcome w = (.ok (), w')

namespace Action

variable {job : Job} {listeners : Listeners}

/-! ### Turns have one end -/

theorem Turn.unique {d : Descriptor} {event event' : Event} {w u u' : Workspace}
    (turn : Turn job listeners d w event u) (turn' : Turn job listeners d w event' u') :
    event = event' ∧ u = u' := by
  rcases hd : (documentCommand job d).outcome w with ⟨fault | path, w₁⟩
  · obtain ⟨-, message, worded, rfl, told⟩ := (turn_iff_of_error hd).mp turn
    obtain ⟨-, message', worded', rfl, told'⟩ := (turn_iff_of_error hd).mp turn'
    cases worded.symm.trans worded'
    cases told.symm.trans told'
    exact ⟨rfl, rfl⟩
  · obtain ⟨rfl, told⟩ := (turn_iff_of_ok hd).mp turn
    obtain ⟨rfl, told'⟩ := (turn_iff_of_ok hd).mp turn'
    cases told.symm.trans told'
    exact ⟨rfl, rfl⟩

theorem Turns.unique {ds : List Descriptor} {events events' : List Event} {w u u' : Workspace}
    (turns : Turns job listeners w ds events u) (turns' : Turns job listeners w ds events' u') :
    events = events' ∧ u = u' := by
  induction turns generalizing events' with
  | nil w =>
      cases turns'
      exact ⟨rfl, rfl⟩
  | cons turn turns ih =>
      cases turns' with
      | cons turn' turns' =>
          obtain ⟨rfl, rfl⟩ := turn.unique turn'
          obtain ⟨rfl, rfl⟩ := ih turns'
          exact ⟨rfl, rfl⟩

/-! ### Breaches and turns -/

theorem worded_eq_error_iff {fault e : Fault} :
    fault.worded = .error e ↔
      ∃ kind r e', fault = .signalled kind r ∧ r.text = .error e' ∧ e = .raised e' := by
  cases fault with
  | signalled kind r => cases hr : r.text <;> simp [Fault.worded, hr, eq_comm]
  | _ => simp [Fault.worded]

/-- A command that ends in a fault is breached when the fault ends the whole run, or when
there are no words for it. -/
theorem breach_iff_of_error {d : Descriptor} {w w₁ : Workspace} {fault : Fault}
    (h : (documentCommand job d).outcome w = (.error fault, w₁)) :
    Breach job d w ↔ fault.endsOneCommand = false ∨ ∃ e, fault.worded = .error e := by
  have escapes : (documentCommand job d).Escapes w ↔ fault.endsOneCommand = false := by
    simp [Escapes, h]
  rw [breach_iff, escapes]
  constructor
  · rintro (ends | ⟨kind, r, e, signals, -, wordless⟩)
    · exact .inl ends
    · obtain ⟨failed, -⟩ :=
        (@documentCommand_unsettled_iff job d w _).mpr ⟨kind, r, rfl, signals⟩
      rw [h] at failed
      cases failed
      exact .inr ⟨_, worded_eq_error_iff.mpr ⟨kind, r, e, rfl, wordless, rfl⟩⟩
  · rintro (ends | ⟨_, wordless⟩)
    · exact .inl ends
    cases caught : fault.endsOneCommand with
    | false => exact .inl rfl
    | true =>
        obtain ⟨kind, r, e, rfl, wordless, -⟩ := worded_eq_error_iff.mp wordless
        obtain ⟨_, _, ⟨⟩, signals⟩ :=
          documentCommand_unsettled_iff.mp ⟨by rw [h], rfl⟩
        exact .inr ⟨kind, r, e, signals, caught, wordless⟩

/-- A command has a turn unless it is breached. -/
theorem exists_turn_iff (heard : listeners.Answer) {d : Descriptor} {w : Workspace} :
    (∃ event u, Turn job listeners d w event u) ↔ ¬ Breach job d w := by
  rcases hd : (documentCommand job d).outcome w with ⟨fault | path, w₁⟩
  · rw [breach_iff_of_error hd]
    simp only [turn_iff_of_error hd]
    constructor
    · rintro ⟨_, _, caught, _, worded, -⟩ (ends | ⟨e, wordless⟩)
      · rw [caught] at ends
        cases ends
      · cases worded.symm.trans wordless
    · intro whole
      obtain ⟨caught, worded⟩ := not_or.mp whole
      rcases hworded : fault.worded with e | message
      · exact absurd ⟨e, hworded⟩ worded
      obtain ⟨u, told⟩ := heard (.warning message)
        (w₁.deliver ((Event.warning message).record listeners))
      exact ⟨_, u, by simpa using caught, message, rfl, rfl, told⟩
  · simp only [turn_iff_of_ok hd]
    obtain ⟨u, told⟩ := heard (.generated path)
      (w₁.deliver ((Event.generated path).record listeners))
    refine iff_of_true ⟨_, u, rfl, told⟩ fun breach => ?_
    rcases breach_iff.mp breach with ⟨_, failed, -⟩ | ⟨kind, r, _, signals, -⟩
    · rw [hd] at failed
      cases failed
    · obtain ⟨failed, -⟩ :=
        (@documentCommand_unsettled_iff job d w _).mpr ⟨kind, r, rfl, signals⟩
      rw [hd] at failed
      cases failed

/-- Some commands, each in the workspace that the turns before it leave, are not
breached. -/
def Unbreached (job : Job) (listeners : Listeners) (ds : List Descriptor) (w : Workspace) :
    Prop :=
  ∀ before d after events u, ds = before ++ d :: after →
    Turns job listeners w before events u → ¬ Breach job d u

theorem unbreached_cons_iff {d : Descriptor} {rest : List Descriptor} {event : Event}
    {w u : Workspace} (turn : Turn job listeners d w event u) :
    Unbreached job listeners (d :: rest) w ↔
      ¬ Breach job d w ∧ Unbreached job listeners rest u := by
  constructor
  · intro h
    refine ⟨h [] d rest [] w rfl (.nil w), ?_⟩
    intro before d' after events u' hrest turns
    exact h (d :: before) d' after (event :: events) u' (by rw [hrest]; rfl) (.cons turn turns)
  · rintro ⟨hd, hrest⟩ before d' after events u' hds turns
    cases turns with
    | nil =>
        cases hds
        exact hd
    | cons turn' turns =>
        cases hds
        -- A command has one turn from `w`, so both chains go on from `u`.
        obtain ⟨rfl, rfl⟩ := turn.unique turn'
        exact hrest _ _ _ _ _ rfl turns

theorem exists_turns_iff (heard : listeners.Answer) {ds : List Descriptor} {w : Workspace} :
    (∃ events u, Turns job listeners w ds events u) ↔ Unbreached job listeners ds w := by
  induction ds generalizing w with
  | nil =>
      refine ⟨fun _ before d after events u hds => ?_, fun _ => ⟨[], w, .nil w⟩⟩
      cases before <;> cases hds
  | cons d rest ih =>
      constructor
      · rintro ⟨_, u, turns⟩
        cases turns with
        | cons turn turns =>
            refine (unbreached_cons_iff turn).mpr ⟨?_, ih.mp ⟨_, u, turns⟩⟩
            exact (exists_turn_iff heard).mp ⟨_, _, turn⟩
      · intro h
        -- The first command has no command before it, so its turn is possible as it is.
        obtain ⟨event, u, turn⟩ :=
          (exists_turn_iff heard).mpr (h [] d rest [] w rfl (.nil w))
        obtain ⟨events, u', turns⟩ := ih.mpr ((unbreached_cons_iff turn).mp h).2
        exact ⟨event :: events, u', .cons turn turns⟩

/-- A run whose commands can be read and whose destination can be made returns a
report exactly when no command is breached. -/
theorem generate_returns_iff_unbreached {ds : List Descriptor} {destination : Path}
    {w w₁ w₂ : Workspace}
    (read : (readCommands job.source job.manifestName job.scanPlugins).outcome w = (.ok ds, w₁))
    (made : (ensureDestination job.destination).outcome w₁ = (.ok destination, w₂))
    (heard : listeners.Answer) :
    (∃ report w', (generate job listeners).outcome w = (.ok report, w')) ↔
      Unbreached job listeners ds w₂ := by
  rw [← exists_turns_iff heard]
  constructor
  · rintro ⟨report, w', h⟩
    obtain ⟨ds', w₁', read', h⟩ := generate_eq_ok_iff.mp h
    cases read.symm.trans read'
    rcases h with ⟨rfl, -⟩ | ⟨-, _, _, events, made', turns, -⟩
    · exact ⟨[], w₂, .nil w₂⟩
    · cases made.symm.trans made'
      exact ⟨events, w', turns⟩
  · rintro ⟨events, u, turns⟩
    by_cases hds : ds = []
    · -- Without commands the destination is not made, and only the warning is told.
      obtain ⟨u', told⟩ := heard (.warning noCommandsWarning)
        (w₁.deliver ((Event.warning noCommandsWarning).record listeners))
      exact ⟨_, u', generate_eq_ok_iff.mpr ⟨ds, w₁, read, .inl ⟨hds, told, rfl⟩⟩⟩
    · exact ⟨_, u, generate_eq_ok_iff.mpr
        ⟨ds, w₁, read, .inr ⟨hds, destination, w₂, events, made, turns, rfl⟩⟩⟩

/-- Neither command of the project is breached: one is documented, and the class
of the other is not found. -/
theorem greeting_unbreached :
    ∃ ds w₁ w₂ destination,
      (readCommands Path.here Manifest.defaultName true).outcome greetingProject = (.ok ds, w₁) ∧
        (ensureDestination "docs/").outcome w₁ = (.ok destination, w₂) ∧
        Unbreached {} {} ds w₂ := by
  have reads : ((readCommands Path.here Manifest.defaultName true).outcome
      greetingProject).1.toOption.isSome = true := by decide +kernel
  have makes : ((ensureDestination "docs/").outcome ((readCommands Path.here
      Manifest.defaultName true).outcome greetingProject).2).1.toOption.isSome = true := by
    decide +kernel
  have returns : ((generate {} {}).outcome greetingProject).1.toOption.isSome = true := by
    decide +kernel
  rcases read : (readCommands Path.here Manifest.defaultName true).outcome greetingProject
    with ⟨_ | ds, w₁⟩
  · rw [read] at reads
    cases reads
  rw [read] at makes
  rcases made : (ensureDestination "docs/").outcome w₁ with ⟨_ | destination, w₂⟩
  · rw [made] at makes
    cases makes
  rcases run : (generate {} {}).outcome greetingProject with ⟨_ | report, w'⟩
  · rw [run] at returns
    cases returns
  refine ⟨ds, w₁, w₂, destination, rfl, made, ?_⟩
  have heard : Listeners.Answer {} := by
    intro event w
    cases event <;> exact ⟨w, rfl⟩
  exact (@generate_returns_iff_unbreached {} {} _ _ _ _ _ read made heard).mp ⟨report, w', run⟩

/-- A project whose first command has a method with a number in the place of its
docblock. -/
def docblockProject : Workspace where
  tree :=
    { entries :=
        [(["p"], .directory),
          (["p", "composer.json"],
            .file (.text "\x7b\"extra\": \x7b\"commands\": [\"count\", \"greet\"]\x7d\x7d".toList))]
      here := ["p"] }
  registry :=
    { targets :=
        [("count", .object (.cls
            (.mk 1000 "Count" [("run", .function { doc := .other "int" })]
              [Script.Class.object]))),
          ("greet", .object (.cls
            (.mk 1001 "Greet" [("hello", .function { doc := .text "Say hi.".toList })]
              [Script.Class.object])))] }

theorem docblock_ends_run :
    ((readCommands Path.here Manifest.defaultName true).outcome docblockProject).1.toOption.map
        List.length = some 2 ∧
      ((ensureDestination "docs/").outcome ((readCommands Path.here
        Manifest.defaultName true).outcome docblockProject).2).1.toOption =
          some (Path.ofString "docs/") ∧
      ¬ ∃ report w', (generate {} {}).outcome docblockProject = (.ok report, w') := by
  refine ⟨by decide +kernel, by decide +kernel, ?_⟩
  rintro ⟨report, w', run⟩
  have fails : ((generate {} {}).outcome docblockProject).1.toOption = none := by
    decide +kernel
  rw [run] at fails
  cases fails

end Action

end CommandManual
