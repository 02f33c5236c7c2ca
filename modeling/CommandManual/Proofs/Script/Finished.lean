import CommandManual.Proofs.Script.Modules

/-!
Modules that are finished. While a file is carried out, the modules that were there
before are kept: none of them is taken for another file or becomes complete, and
none gets a name but for a package, whose submodules may be bound in it. The
modules that are made meanwhile are complete when the work ends, or their names are
given up. Only the module of a command file can be left under its name without
being complete, which happens when what the file raises is no ordinary error.
-/

namespace CommandManual.Script

/-- The second module is the first one after other files were carried out: a
package may have got submodules, and plain directories may have been searched
anew. -/
structure Module.Kept (x x' : Module) : Prop where
  name : x'.name = x.name
  file : x'.file = x.file
  complete : x'.complete = x.complete
  package : x'.directories.isSome = x.directories.isSome
  directories : x.file.isSome = true → x'.directories = x.directories
  names : ∀ n, x'.names.lookup n = x.names.lookup n ∨ ∃ i, x'.names.lookup n = some (.module i)
  still : x.directories = none → x'.names = x.names

namespace Module.Kept

variable {x x' x'' : Module}

theorem refl (x : Module) : x.Kept x :=
  ⟨rfl, rfl, rfl, rfl, fun _ => rfl, fun _ => .inl rfl, fun _ => rfl⟩

theorem trans (h : x.Kept x') (h' : x'.Kept x'') : x.Kept x'' where
  name := h'.name.trans h.name
  file := h'.file.trans h.file
  complete := h'.complete.trans h.complete
  package := h'.package.trans h.package
  directories hfile := (h'.directories (h.file ▸ hfile)).trans (h.directories hfile)
  names n := by
    rcases h'.names n with same | bound
    · rw [same]
      exact h.names n
    · exact .inr bound
  still hnone := by
    have hnone' : x'.directories = none := by
      simpa [hnone] using h.package
    exact (h'.still hnone').trans (h.still hnone)

end Module.Kept

def Memory.IsComplete (m : Memory) (i : Nat) : Prop :=
  ∃ x, m.module? i = some x ∧ x.complete = true

def Memory.IsOpen (m : Memory) (i : Nat) : Prop :=
  ∃ x, m.module? i = some x ∧ x.complete = false

theorem Memory.IsOpen.not_isComplete {m : Memory} {i : Nat} (h : m.IsOpen i) :
    ¬ m.IsComplete i := by
  rintro ⟨x', hx', hc'⟩
  obtain ⟨x, hx, hc⟩ := h
  cases hx.symm.trans hx'
  rw [hc] at hc'
  cases hc'

/-- From the first memory to the second, the first `n` modules are kept, and what is
complete stays so. New names stand for complete modules, except those that are
`unfinished`. -/
structure Memory.Spares (n : Nat) (unfinished : String → Prop) (m m' : Memory) : Prop where
  length : m.modules.length ≤ m'.modules.length
  kept : ∀ i x, i < n → m.module? i = some x → ∃ x', m'.module? i = some x' ∧ x.Kept x'
  complete : ∀ i, m.IsComplete i → m'.IsComplete i
  finished : ∀ name i, m'.loaded.lookup name = some i →
    m.loaded.lookup name = some i ∨ unfinished name ∨ m'.IsComplete i

namespace Memory

variable {n : Nat} {unfinished : String → Prop} {m m' m'' : Memory} {name : String}

theorem Spares.refl (n : Nat) (unfinished : String → Prop) (m : Memory) :
    m.Spares n unfinished m :=
  ⟨Nat.le_refl _, fun _ x _ hx => ⟨x, hx, .refl x⟩, fun _ => id, fun _ _ => .inl⟩

theorem Spares.trans (h : m.Spares n unfinished m') (h' : m'.Spares n unfinished m'') :
    m.Spares n unfinished m'' where
  length := Nat.le_trans h.length h'.length
  kept i x hi hx := by
    obtain ⟨x', hx', kept⟩ := h.kept i x hi hx
    obtain ⟨x'', hx'', kept'⟩ := h'.kept i x' hi hx'
    exact ⟨x'', hx'', kept.trans kept'⟩
  complete i hi := h'.complete i (h.complete i hi)
  finished name i hi := by
    rcases h'.finished name i hi with hi | new
    · rcases h.finished name i hi with hi | hopen | hcomplete
      · exact .inl hi
      · exact .inr (.inl hopen)
      · exact .inr (.inr (h'.complete i hcomplete))
    · exact .inr new

theorem Spares.isOpen (h : m.Spares n unfinished m') {i : Nat} (hi : i < n) (hopen : m.IsOpen i) :
    m'.IsOpen i := by
  obtain ⟨x, hx, hc⟩ := hopen
  obtain ⟨x', hx', kept⟩ := h.kept i x hi hx
  exact ⟨x', hx', kept.complete.trans hc⟩

/-- The modules that were there at first are also kept by what comes later. -/
theorem Spares.append (h : m.Spares n unfinished m')
    (h' : m'.Spares m'.modules.length unfinished m'') (hn : n ≤ m.modules.length) :
    m.Spares n unfinished m'' := by
  refine h.trans ⟨h'.length, fun i x hi => h'.kept i x ?_, h'.complete, h'.finished⟩
  exact Nat.lt_of_lt_of_le hi (Nat.le_trans hn h.length)

theorem Spares.mono {more : String → Prop} (h : m.Spares n unfinished m')
    (himp : ∀ name, unfinished name → more name) : m.Spares n more m' where
  length := h.length
  kept := h.kept
  complete := h.complete
  finished name i hi := (h.finished name i hi).imp_right (.imp_left (himp name))

@[simp] theorem modify_length (m : Memory) (index : Nat) (f : Module → Module) :
    (m.modify index f).modules.length = m.modules.length := by
  unfold modify
  split
  · exact List.length_set
  · rfl

theorem spares_modify {index : Nat} {f : Module → Module}
    (hkept : ∀ x, index < n → m.module? index = some x → x.Kept (f x))
    (hcomplete : ∀ x : Module, x.complete = true → (f x).complete = true) :
    m.Spares n unfinished (m.modify index f) where
  length := Nat.le_of_eq (m.modify_length index f).symm
  kept i x hi hx := by
    rw [module?_modify]
    split
    · rename_i heq
      subst heq
      exact ⟨f x, by rw [hx]; rfl, hkept x hi hx⟩
    · exact ⟨x, hx, .refl x⟩
  complete i hi := by
    obtain ⟨x, hx, hc⟩ := hi
    unfold IsComplete
    rw [module?_modify]
    split
    · rename_i heq
      subst heq
      exact ⟨f x, by rw [hx]; rfl, hcomplete x hc⟩
    · exact ⟨x, hx, hc⟩
  finished name i hi := by
    rw [modify_loaded] at hi
    exact .inl hi

theorem spares_enter (n : Nat) (m : Memory) (x : Module) :
    m.Spares n (· = x.name) (m.enter x).2 where
  length := by simp [enter]
  kept i y _ hy := ⟨y, module?_enter_of_some hy, .refl y⟩
  complete i hi := by
    obtain ⟨y, hy, hc⟩ := hi
    exact ⟨y, module?_enter_of_some hy, hc⟩
  finished other i hi := by
    by_cases hne : other = x.name
    · exact .inr (.inl hne)
    · rw [lookup_enter_of_ne m hne] at hi
      exact .inl hi

/-- The module of an unfinished name turns out to be complete. -/
theorem Spares.settle (h : m.Spares n (· = name) m')
    (last : ∀ i, m'.loaded.lookup name = some i → m'.IsComplete i) :
    m.Spares n (fun _ => False) m' where
  length := h.length
  kept := h.kept
  complete := h.complete
  finished other i hi := by
    rcases h.finished other i hi with hold | rfl | hcomplete
    · exact .inl hold
    · exact .inr (.inr (last i hi))
    · exact .inr (.inr hcomplete)

/-- An unfinished name is given up. -/
theorem Spares.forget (h : m.Spares n (· = name) m') :
    m.Spares n (fun _ => False) (m'.forget name) where
  length := h.length
  kept := h.kept
  complete := h.complete
  finished other i hi := by
    rw [lookup_forget] at hi
    split at hi
    · cases hi
    · rename_i hne
      rcases h.finished other i hi with hold | heq | hcomplete
      · exact .inl hold
      · exact absurd heq hne
      · exact .inr (.inr hcomplete)

end Memory

/-! ### Steps that spare modules -/

def Exec.Spares {α : Type} (n : Nat) (x : Exec α) : Prop :=
  x.Keeps fun m m' => n ≤ m.modules.length → m.Spares n (fun _ => False) m'

theorem spares_framing (n : Nat) :
    Memory.Framing fun m m' => n ≤ m.modules.length → m.Spares n (fun _ => False) m' where
  refl m _ := .refl n _ m
  trans h h' hn := (h hn).trans (h' (Nat.le_trans hn (h hn).length))
  ask _ _ _ := ⟨Nat.le_refl _, fun _ x _ hx => ⟨x, hx, .refl x⟩, fun _ => id, fun _ _ => .inl⟩

theorem spares_itemFraming {n index : Nat} (hindex : n ≤ index) :
    Memory.ItemFraming
      (fun m m' => n ≤ m.modules.length → m.Spares n (fun _ => False) m') index where
  toFraming := spares_framing n
  count _ _ := ⟨Nat.le_refl _, fun _ x _ hx => ⟨x, hx, .refl x⟩, fun _ => id, fun _ _ => .inl⟩
  edit _ _ _ := ⟨Nat.le_refl _, fun _ x _ hx => ⟨x, hx, .refl x⟩, fun _ => id, fun _ _ => .inl⟩
  names _ _ _ := Memory.spares_modify (fun _ hi => absurd hindex (Nat.not_le.mpr hi)) fun _ => id

section Requests

open Exec

variable {tree : FileTree} {request : String → Exec Nat} {n : Nat}

theorem spares_runFile {ctx : Context} (hindex : n ≤ ctx.index)
    (hrequest : ∀ name, Spares n (ctx.request name)) (items : List Item) :
    Spares n (runFile ctx items) := by
  have F := spares_itemFraming hindex
  refine F.bind (F.runItems hrequest .ofModule items) fun _ m _ => ?_
  exact Memory.spares_modify (fun _ hi => absurd hindex (Nat.not_le.mpr hi)) fun _ _ => rfl

theorem spares_runAt (tree : FileTree) {index : Nat} (hindex : n ≤ index)
    (hrequest : ∀ name, Spares n (request name)) (moduleName : String) (path : Path) :
    Spares n (runAt tree request index moduleName path) :=
  (spares_framing n).bind ((spares_framing n).liftExcept _) fun items =>
    spares_runFile hindex hrequest items

/-- A file that is carried out to its end leaves its module complete. -/
theorem isComplete_of_runFile_ok {ctx : Context} (hrequest : ∀ name, Grows tree (ctx.request name))
    {items : List Item} {m m' : Memory} {x : Module} (hx : m.module? ctx.index = some x)
    (h : (runFile ctx items).outcome m = (.ok (), m')) : m'.IsComplete ctx.index := by
  obtain ⟨scope, m₁, hitems, h⟩ := outcome_bind_eq_ok.mp h
  have grown := (grows_itemFraming tree ctx.index).runItems hrequest .ofModule items m
  rw [hitems] at grown
  obtain ⟨x₁, hx₁, -⟩ := grown.modules ctx.index x hx
  cases h
  refine ⟨{ x₁ with complete := true }, ?_, rfl⟩
  rw [Memory.module?_modify, if_pos rfl, hx₁]
  rfl

theorem isComplete_of_runAt_ok (hrequest : ∀ name, Grows tree (request name)) {index : Nat}
    {moduleName : String} {path : Path} {m m' : Memory} {x : Module}
    (hx : m.module? index = some x)
    (h : (runAt tree request index moduleName path).outcome m = (.ok (), m')) :
    m'.IsComplete index := by
  obtain ⟨items, m₁, hread, h⟩ := outcome_bind_eq_ok.mp h
  obtain rfl : m = m₁ := congrArg Prod.snd hread
  exact isComplete_of_runFile_ok hrequest hx h

theorem complete_of_offered? {name : String} {x : Module} (h : Module.offered? name = some x) :
    x.complete = true := by
  obtain ⟨o, -, rfl⟩ := Option.map_eq_some_iff.mp h
  rfl

/-- Making a module leaves it complete under its name, or gives the name up. -/
theorem spares_makeModule (grows : ∀ name, Grows tree (request name))
    (hrequest : ∀ name, Spares n (request name)) (full name : String)
    (directories : List Path) : Spares n (makeModule tree request full name directories) := by
  intro m hn
  -- What is complete from the start leaves nothing unfinished.
  have entered {x : Module} (complete : x.complete = true) :
      m.Spares n (fun _ => False) (m.enter x).2 := by
    refine (m.spares_enter n x).settle fun i hi => ?_
    obtain rfl : m.modules.length = i := Option.some.inj ((m.lookup_enter_self x).symm.trans hi)
    exact ⟨_, m.module?_enter_self x, complete⟩
  rw [outcome_makeModule]
  rcases offered : Module.offered? full with _ | x
  swap
  · exact entered (complete_of_offered? offered)
  rcases findModule tree name directories with (_ | ⟨file, inside⟩) | portions
  · exact .refl n _ m
  · have entered := m.spares_enter n (.ofFile full file inside)
    have ran := spares_runAt tree hn hrequest full file
      (m.enter (.ofFile full file inside)).2 (Nat.le_trans hn entered.length)
    have grown := grows_runAt grows m.modules.length full file
      (m.enter (.ofFile full file inside)).2
    dsimp only
    rcases hrun : (runAt tree request m.modules.length full file).outcome
      (m.enter (.ofFile full file inside)).2 with ⟨e | _, m'⟩
    all_goals
      rw [hrun] at ran grown
      have kept := entered.trans (ran.mono fun _ => False.elim)
    · exact kept.forget
    · refine kept.settle fun i hi => ?_
      -- Nothing that the file did has taken its name away.
      have known := grown.loaded full _ (m.lookup_enter_self (.ofFile full file inside))
      obtain rfl : m.modules.length = i := Option.some.inj (known.symm.trans hi)
      exact isComplete_of_runAt_ok grows (m.module?_enter_self _) hrun
  · exact entered (x := .ofDirectories full portions) rfl

/-- Only plain directories are searched anew. -/
theorem spares_placesOf (tree : FileTree) (n : Nat) (parts : List String) :
    Spares n (placesOf tree parts) := by
  have F := spares_framing n
  induction parts with
  | nil => exact F.bind F.get fun _ => F.pure _
  | cons name outer ih =>
      intro m hn
      unfold placesOf
      rw [outcome_bind, outcome_get]
      dsimp only
      split
      · exact .refl n _ m
      split
      · exact .refl n _ m
      rename_i index _ _ x hx
      split
      · exact .refl n _ m
      rename_i plain
      simp only [Bool.or_eq_true, Option.isNone_iff_eq_none, not_or, Bool.not_eq_true] at plain
      split
      · exact .refl n _ m
      have searched := ih m hn
      rw [outcome_bind]
      rcases hplaces : (placesOf tree outer).outcome m with ⟨e | places, m'⟩
      all_goals rw [hplaces] at searched
      · exact searched
      dsimp only
      split
      · refine searched.trans (Memory.spares_modify (fun x' hi hx' => ?_) fun _ => id)
        -- The search around it may have changed the module, but not its kind.
        obtain ⟨y, hy, kept⟩ := searched.kept index x hi hx
        obtain rfl : y = x' := Option.some.inj (hy.symm.trans hx')
        have hfile : y.file.isSome = false := kept.file ▸ plain.1
        have hpackage : y.directories.isSome = true := by
          rw [kept.package]
          exact Option.isSome_iff_ne_none.mpr plain.2
        refine ⟨rfl, rfl, rfl, hpackage.symm, fun h => ?_, fun _ => .inl rfl, fun _ => rfl⟩
        rw [hfile] at h
        cases h
      · exact searched

/-- A package in which submodules are searched has directories. -/
theorem exists_package_of_placesOf_some {name : String} {outer : List String}
    {directories : List Path} {m m' : Memory}
    (h : (placesOf tree (name :: outer)).outcome m = (.ok (some directories), m')) :
    ∃ i x, m.loaded.lookup (dotted (name :: outer)) = some i ∧ m.module? i = some x ∧
      x.directories.isSome = true := by
  unfold placesOf at h
  rw [outcome_bind, outcome_get] at h
  dsimp only at h
  split at h
  · cases h
  rename_i i hi
  split at h
  · cases h
  rename_i x hx
  refine ⟨i, x, hi, hx, ?_⟩
  split at h
  · have hdirectories : x.directories = some directories := by
      simpa using congrArg Prod.fst h
    rw [hdirectories]
    rfl
  · rename_i plain
    simp only [Bool.or_eq_true, not_or, Bool.not_eq_true, Option.isNone_eq_false_iff] at plain
    exact plain.2

theorem spares_requestParts (grows : ∀ name, Grows tree (request name))
    (hrequest : ∀ name, Spares n (request name)) (parts : List String) :
    Spares n (requestParts tree request parts) := by
  have F := spares_framing n
  induction parts with
  | nil => exact F.throw _
  | cons name outer ih =>
      intro m hn
      unfold requestParts
      dsimp only
      rw [outcome_bind, outcome_get]
      dsimp only
      split
      · exact .refl n _ m
      split
      · exact F.bind (spares_placesOf tree n [])
          (fun places => spares_makeModule grows hrequest _ _ _) m hn
      rename_i hne
      have around := ih m hn
      rw [outcome_bind]
      rcases houter : (requestParts tree request outer).outcome m with ⟨e | package, m₁⟩
      all_goals rw [houter] at around
      · exact around
      refine around.trans ?_
      have hn₁ := Nat.le_trans hn around.length
      dsimp only
      rw [outcome_bind, outcome_get]
      dsimp only
      split
      · exact .refl n _ m₁
      have searched := spares_placesOf tree n outer m₁ hn₁
      rw [outcome_bind]
      rcases hplaces : (placesOf tree outer).outcome m₁ with ⟨e | places, m₂⟩
      all_goals rw [hplaces] at searched
      · exact searched
      dsimp only
      split
      · exact searched
      rename_i directories
      have made := searched.trans
        (spares_makeModule grows hrequest (dotted (name :: outer)) name directories m₂
          (Nat.le_trans hn₁ searched.length))
      rw [outcome_bind]
      rcases hmade : (makeModule tree request (dotted (name :: outer)) name
        directories).outcome m₂ with ⟨e | index, m₃⟩
      all_goals rw [hmade] at made
      · exact made
      -- The module is bound in its package, which had directories and still has.
      refine made.trans (Memory.spares_modify (fun x hi hx => ?_) fun _ => id)
      obtain ⟨first, rest, rfl⟩ := List.exists_cons_of_ne_nil (show outer ≠ [] by simpa using hne)
      obtain ⟨i, y, hlookup, hy, hdirectories⟩ := exists_package_of_placesOf_some hplaces
      obtain rfl : package = i :=
        Option.some.inj ((lookup_of_requestParts_ok grows houter).symm.trans hlookup)
      obtain ⟨y', hy', kept⟩ := made.kept package y hi hy
      obtain rfl : y' = x := Option.some.inj (hy'.symm.trans hx)
      refine ⟨rfl, rfl, rfl, rfl, fun _ => rfl, fun other => ?_, fun hnone => ?_⟩
      · by_cases heq : other = name
        · subst heq
          exact .inr ⟨index, lookup_assign_self _ _ _⟩
        · exact .inl (lookup_assign_of_ne heq _ _)
      · rw [← kept.package, hnone] at hdirectories
        cases hdirectories

theorem spares_requestWithin (tree : FileTree) (n depth : Nat) (name : String) :
    Spares n (requestWithin tree depth name) := by
  have F := spares_framing n
  induction depth generalizing name with
  | zero => exact F.throw _
  | succ depth ih =>
      unfold requestWithin
      refine F.bind (fun m => F.ask m _) fun _ => F.bind F.get fun m => ?_
      split
      · exact F.pure _
      · exact .ite (F.throw_bind _ _) (spares_requestParts (grows_requestWithin tree depth) ih _)

theorem spares_request (tree : FileTree) (n : Nat) (name : String) :
    Spares n (Script.request tree name) :=
  spares_requestWithin tree n _ name

theorem spares_requestAbsolute (tree : FileTree) (n : Nat) (name : String) :
    Spares n (requestAbsolute tree name) :=
  Keeps.ite ((spares_framing n).throw _) (spares_request tree n name)

end Requests

/-! ### What lasts while a file is carried out -/

/-- A property of modules that does not depend on names and that other files leave. -/
structure Module.Lasting (P : Module → Prop) : Prop where
  kept : ∀ {x x' : Module}, x.Kept x' → P x → P x'
  names : ∀ {x : Module} (names : List (String × Object)), P x → P { x with names }

theorem Module.lasting_open : Module.Lasting fun x => x.complete = false where
  kept h hx := h.complete.trans hx
  names _ := id

def Memory.Lasts (P : Module → Prop) (index : Nat) (m m' : Memory) : Prop :=
  (∃ x, m.module? index = some x ∧ P x) → ∃ x, m'.module? index = some x ∧ P x

theorem Memory.lasts_modify {P : Module → Prop} {f : Module → Module} (hf : ∀ x, P x → P (f x))
    (index : Nat) (m : Memory) : m.Lasts P index (m.modify index f) := by
  rintro ⟨x, hx, hP⟩
  refine ⟨f x, ?_, hf x hP⟩
  rw [Memory.module?_modify, if_pos rfl, hx]
  rfl

section Lasting

open Exec

variable {P : Module → Prop}

theorem lasts_itemFraming (hP : Module.Lasting P) (index : Nat) :
    Memory.ItemFraming (Memory.Lasts P index) index where
  refl _ := id
  trans h h' := h' ∘ h
  ask _ _ := id
  count _ := id
  edit _ _ := id
  names m _ := m.lasts_modify (fun _ => hP.names _) index

theorem lasts_request (hP : Module.Lasting P) (tree : FileTree) (index : Nat) (name : String) :
    (request tree name).Keeps (Memory.Lasts P index) := by
  rintro m ⟨x, hx, hPx⟩
  -- The request keeps the module at the index together with all before it.
  have hlt : index < m.modules.length := (List.getElem?_eq_some_iff.mp hx).1
  have spared := spares_request tree (index + 1) name m hlt
  obtain ⟨x', hx', kept⟩ := spared.kept index x (Nat.lt_succ_self index) hx
  exact ⟨x', hx', hP.kept kept hPx⟩

theorem lasts_runItems (hP : Module.Lasting P) {tree : FileTree} {ctx : Context}
    (hctx : ctx.request = request tree) (items : List Item) :
    (runItems ctx .ofModule items).Keeps (Memory.Lasts P ctx.index) := by
  refine (lasts_itemFraming hP ctx.index).runItems (fun name => ?_) .ofModule items
  rw [hctx]
  exact lasts_request hP tree ctx.index name

/-- The last thing that a file does is to make its module complete, so nothing that
it raises comes after that. -/
theorem open_of_runFile_error {tree : FileTree} {ctx : Context}
    (hctx : ctx.request = request tree) {items : List Item} {m m' : Memory} {e : Raised}
    (h : (runFile ctx items).outcome m = (.error e, m')) (hopen : m.IsOpen ctx.index) :
    m'.IsOpen ctx.index := by
  rcases outcome_bind_eq_error.mp h with hitems | ⟨scope, m₁, -, h⟩
  · have ran := lasts_runItems Module.lasting_open hctx items m
    rw [hitems] at ran
    exact ran hopen
  · cases h

theorem open_of_runAt_error {tree : FileTree} {index : Nat} {moduleName : String}
    {path : Path} {m m' : Memory} {e : Raised}
    (h : (runAt tree (request tree) index moduleName path).outcome m = (.error e, m'))
    (hopen : m.IsOpen index) : m'.IsOpen index := by
  rcases outcome_bind_eq_error.mp h with hread | ⟨items, m₁, hread, h⟩
  · obtain rfl : m = m' := congrArg Prod.snd hread
    exact hopen
  · obtain rfl : m = m₁ := congrArg Prod.snd hread
    exact open_of_runFile_error rfl h hopen

end Lasting

/-! ### Command files -/

section CommandFiles

open Exec

variable {tree : FileTree} {name : String} {file : Path} {m m' : Memory}

theorem spares_started (n : Nat) (m : Memory) (name : String) (file : Path) :
    m.Spares n (· = name) (m.started name file) :=
  have entered := m.spares_enter n (.ofCommand name file)
  ⟨entered.length, entered.kept, entered.complete, entered.finished⟩

theorem module?_started (m : Memory) (name : String) (file : Path) :
    (m.started name file).module? m.modules.length = some (.ofCommand name file) :=
  m.module?_enter_self (.ofCommand name file)

theorem lookup_started (m : Memory) (name : String) (file : Path) :
    (m.started name file).loaded.lookup name = some m.modules.length :=
  m.lookup_enter_self (.ofCommand name file)

/-- Carrying out a command file spares all modules that were there, and only its
own name can stand for a module that is not complete. -/
theorem spares_carryOut (tree : FileTree) (name : String) (file : Path) {n : Nat}
    (hn : n ≤ m.modules.length) :
    m.Spares n (· = name) ((carryOut tree name file).outcome m).2 := by
  have started := spares_started n m name file
  have ran := spares_runAt tree hn (spares_request tree n) name file (m.started name file)
    (Nat.le_trans hn started.length)
  rw [outcome_carryOut]
  rcases hrun : (runAt tree (request tree) m.modules.length name file).outcome
    (m.started name file) with ⟨e | _, m'⟩
  all_goals
    rw [hrun] at ran
    have kept := started.trans (ran.mono fun _ => False.elim)
    have back : m.Spares n (· = name) { m' with searchPath := pathLeft file m m'.searchPath } :=
      ⟨kept.length, kept.kept, kept.complete, kept.finished⟩
  · dsimp only
    split
    · exact back.forget.mono fun _ => False.elim
    · exact back
  · exact back

/-- A command file that is carried out to its end has a complete module, which is
found again under its name. -/
theorem carryOut_ok {index : Nat} (h : (carryOut tree name file).outcome m = (.ok index, m')) :
    m'.loaded.lookup name = some index ∧ m'.IsComplete index := by
  have grown := grows_runAt (grows_request tree) m.modules.length name file (m.started name file)
  rw [outcome_carryOut] at h
  rcases hrun : (runAt tree (request tree) m.modules.length name file).outcome
    (m.started name file) with ⟨e | _, m₁⟩
  all_goals
    rw [hrun] at h grown
    cases h
  have complete : m₁.IsComplete m.modules.length :=
    isComplete_of_runAt_ok (grows_request tree) (module?_started m name file) hrun
  exact ⟨grown.loaded name _ (lookup_started m name file), complete⟩

/-- The name of a command file that raises something is given up exactly for an
ordinary error; otherwise it stands for a module that is not complete. -/
theorem carryOut_error {e : Raised} (h : (carryOut tree name file).outcome m = (.error e, m')) :
    (e.isOrdinary = true → m'.loaded.lookup name = none) ∧
      (e.isOrdinary = false → ∃ index, m'.loaded.lookup name = some index ∧ m'.IsOpen index) := by
  have grown := grows_runAt (grows_request tree) m.modules.length name file (m.started name file)
  rw [outcome_carryOut] at h
  rcases hrun : (runAt tree (request tree) m.modules.length name file).outcome
    (m.started name file) with ⟨e' | _, m₁⟩
  all_goals
    rw [hrun] at h grown
    cases h
  refine ⟨fun ordinary => ?_, fun unusual => ?_⟩
  · rw [if_pos ordinary, Memory.lookup_forget, if_pos rfl]
  · have hopen : m₁.IsOpen m.modules.length :=
      open_of_runAt_error hrun ⟨_, module?_started m name file, rfl⟩
    rw [if_neg (by simp [unusual])]
    exact ⟨_, grown.loaded name _ (lookup_started m name file), hopen⟩

end CommandFiles

end CommandManual.Script
