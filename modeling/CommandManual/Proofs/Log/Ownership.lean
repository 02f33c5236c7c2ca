import CommandManual.Proofs.Log.Configure
import Mathlib.Data.List.Nodup
import Mathlib.Data.List.Perm.Subperm

/-!
Whose sinks are up. The program keeps the numbers of its own sinks and takes down
nothing else, except for the sink that is there from the start. The application around
it may put up and take down sinks at any time, those of the program too, so a number
that is kept need not stand for a sink any more. As no number is given out twice, it
never stands for a sink of someone else. A `Ledger` holds who has put up which sink, and
`Ledger.Sound` is what every move keeps.
-/

namespace CommandManual.Log

/-! ### What the program does to the sinks -/

namespace Hub

def numbers (h : Hub) : List Nat := h.sinks.map Prod.fst

/-- What a move of the program may do to the sinks: its own sinks and the first one may
go, new ones get new numbers, and these are kept. -/
structure Tended (h h' : Hub) : Prop where
  next : h.nextId ≤ h'.nextId
  spared : ∀ entry ∈ h.sinks, entry.1 ∉ h.owned → entry.1 ≠ firstSink → entry ∈ h'.sinks
  up : ∀ id ∈ h'.numbers,
    id ∈ h.numbers ∧ (id ∈ h.owned → id ∈ h'.owned) ∨
      h.nextId ≤ id ∧ id < h'.nextId ∧ id ∈ h'.owned
  owned : ∀ id ∈ h'.owned,
    id ∈ h.owned ∨ h.nextId ≤ id ∧ id < h'.nextId ∧ id ∈ h'.numbers
  few : h'.owned = h.owned ∨ h'.owned.length ≤ 2
  numbered : h.Numbered → h'.Numbered
  nodup : h.Numbered → h.numbers.Nodup → h'.numbers.Nodup

theorem Tended.refl (h : Hub) : h.Tended h where
  next := Nat.le_refl _
  spared := fun _ hmem _ _ => hmem
  up := fun _ hmem => .inl ⟨hmem, id⟩
  owned := fun _ hmem => .inl hmem
  few := .inl rfl
  numbered := id
  nodup := fun _ distinct => distinct

/-- Only the sinks and their numbers matter. -/
theorem Tended.of_same {h h' h'' : Hub} (t : h.Tended h') (sinks : h''.sinks = h'.sinks)
    (owned : h''.owned = h'.owned) (next : h''.nextId = h'.nextId) : h.Tended h'' := by
  cases h'
  cases h''
  cases sinks
  cases owned
  cases next
  exact ⟨t.next, t.spared, t.up, t.owned, t.few, t.numbered, t.nodup⟩

theorem sinks_foldl_remove (ids : List Nat) (h : Hub) :
    (ids.foldl (fun h id => h.remove id) h).sinks =
      h.sinks.filter fun entry => !ids.contains entry.1 := by
  induction ids generalizing h with
  | nil => simp
  | cons id rest ih =>
      rw [List.foldl_cons, ih, remove, List.filter_filter]
      refine List.filter_congr fun entry _ => ?_
      simp only [List.contains_cons, Bool.not_or, bne, Bool.and_comm]

theorem nextId_foldl_remove (ids : List Nat) (h : Hub) :
    (ids.foldl (fun h id => h.remove id) h).nextId = h.nextId := by
  induction ids generalizing h with
  | nil => rfl
  | cons id rest ih => exact ih (h.remove id)

/-- Sinks of the program are taken down, and maybe others that `p` does not hold of. -/
theorem tended_filter {h h' : Hub} {p : Nat × Sink → Bool} (sinks : h'.sinks = h.sinks.filter p)
    (next : h'.nextId = h.nextId) (owned : h'.owned = [])
    (kept : ∀ entry, entry.1 ∉ h.owned → entry.1 ≠ firstSink → p entry = true)
    (gone : ∀ entry, entry.1 ∈ h.owned → p entry = false) : h.Tended h' where
  next := Nat.le_of_eq next.symm
  spared := by
    intro entry hmem foreign other
    rw [sinks]
    exact List.mem_filter.mpr ⟨hmem, kept entry foreign other⟩
  up := by
    intro id hmem
    rw [numbers, sinks] at hmem
    obtain ⟨entry, hentry, rfl⟩ := List.mem_map.mp hmem
    obtain ⟨hold, stays⟩ := List.mem_filter.mp hentry
    refine .inl ⟨List.mem_map_of_mem hold, fun own => ?_⟩
    rw [gone entry own] at stays
    cases stays
  owned := by simp [owned]
  few := .inr (by simp [owned])
  numbered := by
    intro numbered id s hmem
    rw [sinks] at hmem
    rw [next]
    exact numbered id s (List.mem_filter.mp hmem).1
  nodup := by
    intro _ distinct
    rw [numbers, sinks]
    exact distinct.sublist (List.filter_sublist.map Prod.fst)

theorem tended_removeOwned (h : Hub) : h.Tended h.removeOwned := by
  refine tended_filter (sinks_foldl_remove h.owned h) (nextId_foldl_remove h.owned h) rfl ?_ ?_
  · intro entry foreign _
    simpa using foreign
  · intro entry own
    simpa using own

theorem tended_cleared (h : Hub) : h.Tended h.cleared := by
  have sinks : h.cleared.sinks =
      h.sinks.filter fun entry => entry.1 != firstSink && !h.owned.contains entry.1 := by
    rw [← List.filter_filter, ← sinks_foldl_remove]
    rfl
  refine tended_filter sinks (nextId_foldl_remove h.owned h) rfl ?_ ?_
  · intro entry foreign other
    simp [foreign, other]
  · intro entry own
    simp [own]

@[simp] theorem numbers_add (h : Hub) (s : Sink) : (h.add s).numbers = h.numbers ++ [h.nextId] := by
  simp [numbers, add]

@[simp] theorem numbers_addOwn (h : Hub) (s : Sink) :
    (h.addOwn s).numbers = h.numbers ++ [h.nextId] :=
  h.numbers_add s

/-- The next number is new. -/
theorem Numbered.nodup {h : Hub} (numbered : h.Numbered) (distinct : h.numbers.Nodup) :
    (h.numbers ++ [h.nextId]).Nodup := by
  refine distinct.append (List.nodup_singleton _) ?_
  intro id old new
  obtain rfl := List.mem_singleton.mp new
  obtain ⟨⟨id, s⟩, hmem, rfl : id = h.nextId⟩ := List.mem_map.mp old
  exact Nat.lt_irrefl _ (numbered _ s hmem)

/-- One more sink of the program, as long as it has fewer than two. -/
theorem Tended.addOwn {h h' : Hub} (t : h.Tended h') (room : h'.owned.length < 2) (s : Sink) :
    h.Tended (h'.addOwn s) where
  next := Nat.le_succ_of_le t.next
  spared := fun entry hmem foreign other =>
    List.mem_append_left _ (t.spared entry hmem foreign other)
  up := by
    intro id hmem
    rw [numbers_addOwn] at hmem
    rcases List.mem_append.mp hmem with old | new
    · refine (t.up id old).imp ?_ ?_
      · exact fun ⟨hold, own⟩ => ⟨hold, fun h => List.mem_append_left _ (own h)⟩
      · exact fun ⟨least, most, own⟩ =>
          ⟨least, Nat.lt_succ_of_lt most, List.mem_append_left _ own⟩
    · obtain rfl := List.mem_singleton.mp new
      exact .inr ⟨t.next, Nat.lt_succ_self _, List.mem_append_right _ (List.mem_singleton_self _)⟩
  owned := by
    intro id hmem
    rw [numbers_addOwn]
    rcases List.mem_append.mp hmem with old | new
    · exact (t.owned id old).imp_right fun ⟨least, most, up⟩ =>
        ⟨least, Nat.lt_succ_of_lt most, List.mem_append_left _ up⟩
    · obtain rfl := List.mem_singleton.mp new
      exact .inr ⟨t.next, Nat.lt_succ_self _, List.mem_append_right _ (List.mem_singleton_self _)⟩
  few := by
    refine .inr ?_
    rw [Hub.addOwn, List.length_append]
    exact Nat.succ_le_of_lt room
  numbered := fun numbered => (t.numbered numbered).addOwn s
  nodup := by
    intro numbered distinct
    rw [numbers_addOwn]
    exact (t.numbered numbered).nodup (t.nodup numbered distinct)

end Hub

theorem Configured.tended {s : Settings} {force : Bool} {d d' : Desk} {result : Except Fault Unit}
    (done : Configured s force d result d') : d.hub.Tended d'.hub := by
  have room (level : Level) : d.hub.Tended (d.hub.cleared.addOwn (s.terminal level)) :=
    d.hub.tended_cleared.addOwn Nat.two_pos _
  cases done with
  | kept => exact .refl _
  | unknownLevel => exact d.hub.tended_cleared
  | @terminal level => exact (room level).of_same rfl rfl rfl
  | refused => exact room _
  | @withFile level path place =>
      exact ((room level).addOwn (Nat.lt_succ_self 1) (.file level place)).of_same rfl rfl rfl

/-- Asking for a logger may configure the log, and is otherwise nothing to the sinks. -/
theorem Logging.tended_logger (env : Environment) (name : String) (d : Desk) :
    d.hub.Tended ((logger env name).outcome d).2.hub := by
  unfold logger
  rw [outcome_bind, outcome_get]
  dsimp only
  split
  · exact (Hub.Tended.refl _).of_same rfl rfl rfl
  · split
    · have done := (configured (settingsOfEnvironment env) false d).tended
      rw [outcome_bind]
      rcases hrun : (configure (settingsOfEnvironment env) false).outcome d with ⟨fault | _, d'⟩
      all_goals rw [hrun] at done
      · exact done
      · exact done.of_same rfl rfl rfl
    · exact (Hub.Tended.refl _).of_same rfl rfl rfl

/-! ### Moves of the program and of the application -/

inductive Move
  /-- The program is told something about its sinks. -/
  | order (order : Order)
  /-- The program is asked for a logger. -/
  | logger (env : Environment) (name : String)
  /-- The application puts up a sink. -/
  | add (s : Sink)
  /-- The application takes down the sink of a number, if there is one. -/
  | remove (id : Nat)
  /-- The application takes down all sinks. -/
  | removeAll

namespace Move

def byProgram : Move → Bool
  | order _ | logger .. => true
  | add _ | remove _ | removeAll => false

def carryOut (d : Desk) : Move → Desk
  | order o => (o.step.outcome d).2
  | logger env name => ((Logging.logger env name).outcome d).2
  | add s => { d with hub := d.hub.add s }
  | remove id => { d with hub := d.hub.remove id }
  | removeAll => { d with hub.sinks := [] }

theorem tended {m : Move} (program : m.byProgram = true) (d : Desk) :
    d.hub.Tended (m.carryOut d).hub := by
  cases m with
  | order o =>
      cases o with
      | configure s force => exact (Logging.configured s force d).tended
      | reset => exact d.hub.tended_removeOwned.of_same rfl rfl rfl
  | logger env name => exact Logging.tended_logger env name d
  | add | remove | removeAll => cases program

end Move

/-- The log with the numbers of all sinks that were ever put up, by who did it. -/
structure Ledger where
  desk : Desk
  program : List Nat := []
  application : List Nat := []

namespace Ledger

def opened (d : Desk) : Ledger := { desk := { d with hub := .initial } }

def up (l : Ledger) : List Nat := l.desk.hub.numbers

def newOn (l : Ledger) (d : Desk) : List Nat := d.hub.numbers.filter fun id => !l.up.contains id

/-- The ledger after a move. What is up then and was not before counts as put up by
who has made the move. -/
def after (l : Ledger) (m : Move) : Ledger :=
  let desk := m.carryOut l.desk
  if m.byProgram then { l with desk, program := l.program ++ l.newOn desk }
  else { l with desk, application := l.application ++ l.newOn desk }

def afterAll (l : Ledger) (moves : List Move) : Ledger := moves.foldl after l

structure Sound (l : Ledger) : Prop where
  first : firstSink < l.desk.hub.nextId
  numbered : l.desk.hub.Numbered
  nodup : l.up.Nodup
  program_lt : ∀ id ∈ l.program, id < l.desk.hub.nextId
  application_lt : ∀ id ∈ l.application, id < l.desk.hub.nextId
  apart : ∀ id ∈ l.program, id ∉ l.application
  first_foreign : firstSink ∉ l.application
  tracked : ∀ id ∈ l.up, id ∈ l.program → id ∈ l.desk.hub.owned
  owned : ∀ id ∈ l.desk.hub.owned, id ∈ l.program
  few : l.desk.hub.owned.length ≤ 2

theorem sound_opened (d : Desk) : (opened d).Sound where
  first := Nat.zero_lt_one
  numbered := by
    intro id s hmem
    cases List.mem_singleton.mp hmem
    exact Nat.zero_lt_one
  nodup := List.nodup_singleton _
  program_lt := by rintro id ⟨⟩
  application_lt := by rintro id ⟨⟩
  apart := by rintro id ⟨⟩
  first_foreign := by rintro ⟨⟩
  tracked := by rintro id - ⟨⟩
  owned := by rintro id ⟨⟩
  few := Nat.zero_le _

variable {l : Ledger}

theorem mem_newOn {d : Desk} {id : Nat} : id ∈ l.newOn d ↔ id ∈ d.hub.numbers ∧ id ∉ l.up := by
  simp [newOn]

theorem Sound.lt_of_up (h : l.Sound) {id : Nat} (up : id ∈ l.up) : id < l.desk.hub.nextId := by
  obtain ⟨⟨_, s⟩, hmem, rfl⟩ := List.mem_map.mp up
  exact h.numbered _ s hmem

/-- A move of the program: what is new has new numbers, and these are kept. -/
theorem Sound.program_move (h : l.Sound) {desk : Desk} (t : l.desk.hub.Tended desk.hub) :
    Sound { l with desk, program := l.program ++ l.newOn desk } := by
  have new {id : Nat} (hnew : id ∈ l.newOn desk) :
      l.desk.hub.nextId ≤ id ∧ id < desk.hub.nextId ∧ id ∈ desk.hub.owned := by
    obtain ⟨up, notUp⟩ := mem_newOn.mp hnew
    exact (t.up id up).resolve_left fun old => notUp old.1
  refine
    { first := Nat.lt_of_lt_of_le h.first t.next
      numbered := t.numbered h.numbered
      nodup := t.nodup h.numbered h.nodup
      program_lt := ?_
      application_lt := fun id hid => Nat.lt_of_lt_of_le (h.application_lt id hid) t.next
      apart := ?_
      first_foreign := h.first_foreign
      tracked := ?_
      owned := ?_
      few := ?_ }
  · intro id hid
    rcases List.mem_append.mp hid with old | hnew
    · exact Nat.lt_of_lt_of_le (h.program_lt id old) t.next
    · exact (new hnew).2.1
  · intro id hid
    rcases List.mem_append.mp hid with old | hnew
    · exact h.apart id old
    · exact fun foreign => Nat.not_lt.mpr (new hnew).1 (h.application_lt id foreign)
  · -- A sink that is still up was left alone, or it is new and the program's own.
    intro id up hid
    rcases t.up id up with ⟨wasUp, stays⟩ | ⟨-, -, own⟩
    · rcases List.mem_append.mp hid with old | hnew
      · exact stays (h.tracked id wasUp old)
      · exact (new hnew).2.2
    · exact own
  · intro id own
    refine List.mem_append.mpr ((t.owned id own).imp (h.owned id) ?_)
    rintro ⟨least, -, up⟩
    exact mem_newOn.mpr ⟨up, fun wasUp => Nat.not_lt.mpr least (h.lt_of_up wasUp)⟩
  · rcases t.few with same | few
    · rw [same]
      exact h.few
    · exact few

/-- A move of the application: the program keeps the numbers it has kept. -/
theorem Sound.application_move (h : l.Sound) {desk : Desk}
    (next : l.desk.hub.nextId ≤ desk.hub.nextId) (owned : desk.hub.owned = l.desk.hub.owned)
    (up : ∀ id ∈ desk.hub.numbers, id ∈ l.up ∨ l.desk.hub.nextId ≤ id)
    (numbered : desk.hub.Numbered) (nodup : desk.hub.numbers.Nodup) :
    Sound { l with desk, application := l.application ++ l.newOn desk } := by
  have new {id : Nat} (hnew : id ∈ l.newOn desk) : l.desk.hub.nextId ≤ id := by
    obtain ⟨hup, notUp⟩ := mem_newOn.mp hnew
    exact (up id hup).resolve_left notUp
  refine
    { first := Nat.lt_of_lt_of_le h.first next
      numbered
      nodup
      program_lt := fun id hid => Nat.lt_of_lt_of_le (h.program_lt id hid) next
      application_lt := ?_
      apart := ?_
      first_foreign := ?_
      tracked := ?_
      owned := ?_
      few := ?_ }
  · intro id hid
    rcases List.mem_append.mp hid with old | hnew
    · exact Nat.lt_of_lt_of_le (h.application_lt id old) next
    · obtain ⟨⟨_, s⟩, hmem, rfl⟩ := List.mem_map.mp (mem_newOn.mp hnew).1
      exact numbered _ s hmem
  · intro id hid foreign
    rcases List.mem_append.mp foreign with old | hnew
    · exact h.apart id hid old
    · exact Nat.not_lt.mpr (new hnew) (h.program_lt id hid)
  · intro foreign
    rcases List.mem_append.mp foreign with old | hnew
    · exact h.first_foreign old
    · exact Nat.not_lt.mpr (new hnew) h.first
  · -- A number that the program has in its ledger was given out before, so it is none of
    -- the new ones.
    intro id hup hid
    rw [owned]
    refine h.tracked id ((up id hup).resolve_right fun least => ?_) hid
    exact Nat.not_lt.mpr least (h.program_lt id hid)
  · rw [owned]
    exact h.owned
  · rw [owned]
    exact h.few

theorem Sound.after (h : l.Sound) (m : Move) : (l.after m).Sound := by
  cases program : m.byProgram with
  | true =>
      rw [Ledger.after, if_pos program]
      exact h.program_move (Move.tended program l.desk)
  | false =>
      rw [Ledger.after, if_neg (Bool.eq_false_iff.mp program)]
      cases m with
      | order | logger => cases program
      | add s =>
          refine h.application_move (Nat.le_succ _) rfl ?_ (h.numbered.addOwn s) ?_
          · intro id hid
            rw [Move.carryOut, Hub.numbers_add] at hid
            exact (List.mem_append.mp hid).imp_right fun new =>
              Nat.le_of_eq (List.mem_singleton.mp new).symm
          · rw [Move.carryOut, Hub.numbers_add]
            exact h.numbered.nodup h.nodup
      | remove id =>
          -- What is left is part of what was up.
          have fewer : ((Move.remove id).carryOut l.desk).hub.numbers.Sublist l.up :=
            List.filter_sublist.map Prod.fst
          exact h.application_move (Nat.le_refl _) rfl (fun _ hid => .inl (fewer.subset hid))
            (h.numbered.remove id) (h.nodup.sublist fewer)
      | removeAll =>
          refine h.application_move (Nat.le_refl _) rfl ?_ ?_ List.nodup_nil
          · rintro id ⟨⟩
          · rintro id s ⟨⟩

theorem sound_afterAll (d : Desk) (moves : List Move) : ((opened d).afterAll moves).Sound := by
  have run (moves : List Move) (l : Ledger) (h : l.Sound) : (l.afterAll moves).Sound := by
    induction moves generalizing l with
    | nil => exact h
    | cons m rest ih => exact ih _ (h.after m)
  exact run moves _ (sound_opened d)

structure Accounted (l : Ledger) : Prop where
  /-- The numbers of its sinks that are up are kept. -/
  tracked : ∀ id ∈ l.up, id ∈ l.program → id ∈ l.desk.hub.owned
  /-- No more than two of its sinks are up. -/
  few : (l.up.filter fun id => l.program.contains id).length ≤ 2
  /-- After a reset none is. -/
  reset : ∀ id ∈ (l.after (.order .reset)).up, id ∉ (l.after (.order .reset)).program
  /-- Whatever it does, the sinks of the application stay. -/
  spared : ∀ m : Move, m.byProgram = true → ∀ entry ∈ l.desk.hub.sinks,
    entry.1 ∈ l.application → entry ∈ (l.after m).desk.hub.sinks

/-- However the moves of the program and of the application follow each other, and
whichever of them fail, the numbers that the program keeps cover its sinks that are
up, which are two at most and none after a reset, and it never takes down a sink of the
application. -/
theorem sinks_accounted (d : Desk) (moves : List Move) :
    ((opened d).afterAll moves).Accounted := by
  have h := sound_afterAll d moves
  generalize (opened d).afterAll moves = l at h
  refine ⟨h.tracked, ?_, ?_, ?_⟩
  · have kept : (l.up.filter fun id => l.program.contains id) ⊆ l.desk.hub.owned := by
      intro id hid
      obtain ⟨up, own⟩ := List.mem_filter.mp hid
      exact h.tracked id up (List.contains_iff_mem.mp own)
    exact Nat.le_trans ((h.nodup.filter _).subperm kept).length_le h.few
  · intro id up own
    exact List.not_mem_nil ((h.after (.order .reset)).tracked id up own)
  · intro m program entry hmem foreign
    rw [Ledger.after, if_pos program]
    refine (Move.tended program l.desk).spared entry hmem ?_ ?_
    · exact fun own => h.apart _ (h.owned _ own) foreign
    · exact fun first => h.first_foreign (first ▸ foreign)

/-- A sink of the application is up before and after the two of the program, one of
which the application takes down. -/
example :
    let l := (opened { tree := { entries := [], here := [] } }).afterAll
      [.add (.foreign .info), .order (.configure { outputFile := .str "run.log" } false),
        .remove 2]
    l.program = [2, 3] ∧ l.application = [1] ∧ l.up = [1, 3] ∧ l.desk.hub.owned = [2, 3] ∧
      (l.after (.order .reset)).up = [1] := by
  decide +kernel

end Ledger

end CommandManual.Log
