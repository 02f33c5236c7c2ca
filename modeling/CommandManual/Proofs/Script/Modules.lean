import CommandManual.Command.Load
import CommandManual.Proofs.Data.Keys
import CommandManual.Proofs.Script.Items
import CommandManual.Proofs.Text.Lines

/-!
What carrying out command files does to the modules. Modules are only added: a
module that was made stays where it is and is not taken for another file, and a
name that stands for a module goes on to stand for it. As long as no file changes
the search path, a new name without dots stands for what the directories of the
search path hold under it. `Grows` says so of two memories, and the rules below give
it for everything that a command file can do.
-/

namespace CommandManual.Script

/-! ### Memories that grow -/

structure Module.Develops (x x' : Module) : Prop where
  name : x'.name = x.name
  file : x'.file = x.file
  complete : x.complete = true → x'.complete = true

theorem Module.Develops.refl (x : Module) : x.Develops x := ⟨rfl, rfl, id⟩

theorem Module.Develops.trans {x x' x'' : Module} (h : x.Develops x') (h' : x'.Develops x'') :
    x.Develops x'' :=
  ⟨h'.name.trans h.name, h'.file.trans h.file, h'.complete ∘ h.complete⟩

/-- The second memory is the first one at a later time; `made` relates new names
to the files of the modules that they stand for, unless files have changed the
search path. -/
structure Memory.Grows (made : String → Option String → Prop) (m m' : Memory) : Prop where
  edits : m.edits <+: m'.edits
  searchPath : m'.edits = m.edits → m'.searchPath = m.searchPath
  modules : ∀ i x, m.module? i = some x → ∃ x', m'.module? i = some x' ∧ x.Develops x'
  loaded : ∀ name i, m.loaded.lookup name = some i → m'.loaded.lookup name = some i
  new : ∀ name i, m'.loaded.lookup name = some i → m.loaded.lookup name = some i ∨
    ∃ x, m'.module? i = some x ∧ (m'.edits = m.edits → made name x.file)

namespace Memory

variable {made : String → Option String → Prop} {m m' m'' : Memory}

theorem Grows.refl (made : String → Option String → Prop) (m : Memory) : m.Grows made m :=
  ⟨List.prefix_rfl, fun _ => rfl, fun _ x h => ⟨x, h, .refl x⟩, fun _ _ => id, fun _ _ => .inl⟩

/-- Files that leave the search path alone do so all the time. -/
theorem Grows.unedited (h : m.Grows made m') {more : String → Option String → Prop}
    (h' : m'.Grows more m'') (same : m''.edits = m.edits) :
    m'.edits = m.edits ∧ m''.edits = m'.edits := by
  have back : m'.edits = m.edits :=
    List.IsPrefix.eq_of_length_le (same ▸ h'.edits) h.edits.length_le
  exact ⟨back, same.trans back.symm⟩

/-- What comes later may be related in another way, if it is the same as long as the
search path is left alone. -/
theorem Grows.append {more : String → Option String → Prop} (h : m.Grows made m')
    (h' : m'.Grows more m'')
    (himp : m'.edits = m.edits → ∀ name file, more name file → made name file) :
    m.Grows made m'' where
  edits := h.edits.trans h'.edits
  searchPath same := by
    obtain ⟨first, later⟩ := h.unedited h' same
    exact (h'.searchPath later).trans (h.searchPath first)
  modules i x hx := by
    obtain ⟨x', hx', develops⟩ := h.modules i x hx
    obtain ⟨x'', hx'', develops'⟩ := h'.modules i x' hx'
    exact ⟨x'', hx'', develops.trans develops'⟩
  loaded name i hi := h'.loaded name i (h.loaded name i hi)
  new name i hi := by
    rcases h'.new name i hi with hi | new
    · rcases h.new name i hi with hi | ⟨x, hx, hmade⟩
      · exact .inl hi
      · obtain ⟨x', hx', develops⟩ := h'.modules i x hx
        exact .inr ⟨x', hx', fun same => develops.file ▸ hmade (h.unedited h' same).1⟩
    · obtain ⟨x, hx, hmore⟩ := new
      refine .inr ⟨x, hx, fun same => ?_⟩
      obtain ⟨first, later⟩ := h.unedited h' same
      exact himp first name x.file (hmore later)

theorem Grows.trans (h : m.Grows made m') (h' : m'.Grows made m'') : m.Grows made m'' :=
  h.append h' fun _ _ _ => id

theorem Grows.mono {more : String → Option String → Prop} (h : m.Grows made m')
    (himp : ∀ name file, made name file → more name file) : m.Grows more m' where
  edits := h.edits
  searchPath := h.searchPath
  modules := h.modules
  loaded := h.loaded
  new name i hi := by
    rcases h.new name i hi with hi | ⟨x, hx, hmade⟩
    · exact .inl hi
    · exact .inr ⟨x, hx, fun same => himp name x.file (hmade same)⟩

/-- Growth under another search path, for which there is another one afterwards. -/
theorem Grows.putBack {before after : List String}
    (h : Grows made { m with searchPath := before } m')
    (back : m'.edits = m.edits → after = m.searchPath) :
    m.Grows made { m' with searchPath := after } :=
  ⟨h.edits, back, h.modules, h.loaded, h.new⟩

theorem module?_modify (m : Memory) (index i : Nat) (f : Module → Module) :
    (m.modify index f).module? i =
      if i = index then (m.module? index).map f else m.module? i := by
  unfold modify module?
  split
  · rename_i x hx
    by_cases hi : i = index
    · subst hi
      obtain ⟨hlt, rfl⟩ := List.getElem?_eq_some_iff.mp hx
      simp [hlt]
    · simp [List.getElem?_set_ne (Ne.symm hi), hi]
  · rename_i hx
    by_cases hi : i = index
    · subst hi
      simp [hx]
    · simp [hi]

@[simp] theorem modify_loaded (m : Memory) (index : Nat) (f : Module → Module) :
    (m.modify index f).loaded = m.loaded := by
  unfold modify
  split <;> rfl

@[simp] theorem modify_searchPath (m : Memory) (index : Nat) (f : Module → Module) :
    (m.modify index f).searchPath = m.searchPath := by
  unfold modify
  split <;> rfl

@[simp] theorem modify_edits (m : Memory) (index : Nat) (f : Module → Module) :
    (m.modify index f).edits = m.edits := by
  unfold modify
  split <;> rfl

theorem grows_modify (made : String → Option String → Prop) (m : Memory) (index : Nat)
    {f : Module → Module} (h : ∀ x : Module, x.Develops (f x)) :
    m.Grows made (m.modify index f) where
  edits := m.modify_edits index f ▸ List.prefix_rfl
  searchPath _ := m.modify_searchPath index f
  modules i x hx := by
    rw [module?_modify]
    split
    · rename_i hi
      subst hi
      exact ⟨f x, by simp [hx], h x⟩
    · exact ⟨x, hx, .refl x⟩
  loaded name i hi := by
    rw [modify_loaded]
    exact hi
  new name i hi := by
    rw [modify_loaded] at hi
    exact .inl hi

/-! ### New modules -/

theorem module?_enter_of_some {i : Nat} {x y : Module} (h : m.module? i = some x) :
    (m.enter y).2.module? i = some x := by
  have hlt : i < m.modules.length := (List.getElem?_eq_some_iff.mp h).1
  simpa [enter, module?, List.getElem?_append_left hlt] using h

theorem module?_enter_self (m : Memory) (x : Module) :
    (m.enter x).2.module? (m.enter x).1 = some x := by
  simp [enter, module?]

theorem lookup_enter_self (m : Memory) (x : Module) :
    (m.enter x).2.loaded.lookup x.name = some (m.enter x).1 := by
  simp [enter]

theorem lookup_enter_of_ne (m : Memory) {x : Module} {name : String} (h : name ≠ x.name) :
    (m.enter x).2.loaded.lookup name = m.loaded.lookup name := by
  simp [enter, lookup_assign_of_ne h]

theorem grows_enter {x : Module} (absent : m.loaded.lookup x.name = none)
    (hmade : made x.name x.file) : m.Grows made (m.enter x).2 where
  edits := List.prefix_rfl
  searchPath _ := rfl
  modules i y hy := ⟨y, module?_enter_of_some hy, .refl y⟩
  loaded name i hi := by
    have hne : name ≠ x.name := by
      rintro rfl
      rw [absent] at hi
      cases hi
    rw [lookup_enter_of_ne m hne]
    exact hi
  new name i hi := by
    by_cases hne : name = x.name
    · subst hne
      rw [lookup_enter_self] at hi
      cases hi
      exact .inr ⟨x, m.module?_enter_self x, fun _ => hmade⟩
    · rw [lookup_enter_of_ne m hne] at hi
      exact .inl hi

theorem lookup_forget (m : Memory) (name other : String) :
    (m.forget name).loaded.lookup other =
      if other = name then none else m.loaded.lookup other := by
  rw [forget, lookup_filter_keys (· != name)]
  by_cases h : other = name <;> simp [h]

/-- What is not new stays when a new name is forgotten. -/
theorem Grows.forget {name : String} (h : m.Grows made m')
    (absent : m.loaded.lookup name = none) : m.Grows made (m'.forget name) where
  edits := h.edits
  searchPath := h.searchPath
  modules := h.modules
  loaded other i hi := by
    have hne : other ≠ name := by
      rintro rfl
      rw [absent] at hi
      cases hi
    rw [lookup_forget, if_neg hne]
    exact h.loaded other i hi
  new other i hi := by
    rw [lookup_forget] at hi
    split at hi
    · cases hi
    · exact h.new other i hi

end Memory

/-! ### Steps that let memories grow -/

def IsPlain (name : String) : Prop := '.' ∉ name.toList

instance (name : String) : Decidable (IsPlain name) :=
  inferInstanceAs (Decidable ('.' ∉ name.toList))

def fileFound : Option (Path × Option (List Path)) ⊕ List Path → Option (Option String)
  | .inl none => none
  | .inl (some (file, _)) => some (some file.toString)
  | .inr _ => some none

/-- The file of a module is what a search path holds, if its name has no dots and the
program itself offers no such module. -/
def FoundOn (tree : FileTree) (searchPath : List String) (name : String)
    (file : Option String) : Prop :=
  IsPlain name → Module.offered? name = none →
    fileFound (findModule tree name (searchPath.map Path.ofString)) = some file

def Exec.Grows {α : Type} (tree : FileTree) (x : Exec α) : Prop :=
  ∀ m : Memory, m.Grows (FoundOn tree m.searchPath) (x.outcome m).2

theorem grows_itemFraming (tree : FileTree) (index : Nat) :
    Memory.ItemFraming (fun m m' => m.Grows (FoundOn tree m.searchPath) m') index where
  refl m := .refl _ m
  trans h h' := h.append h' fun same _ _ found => h.searchPath same ▸ found
  ask _ _ :=
    ⟨List.prefix_rfl, fun _ => rfl, fun _ x h => ⟨x, h, .refl x⟩, fun _ _ => id, fun _ _ => .inl⟩
  -- Counting a new class concerns no module, and a changed search path is left open.
  count _ :=
    ⟨List.prefix_rfl, fun _ => rfl, fun _ x h => ⟨x, h, .refl x⟩, fun _ _ => id, fun _ _ => .inl⟩
  edit m e :=
    ⟨List.prefix_append _ _, fun same => by simp [Memory.edit] at same,
      fun _ x h => ⟨x, h, .refl x⟩, fun _ _ => id, fun _ _ => .inl⟩
  names m _ := m.grows_modify _ _ fun _ => ⟨rfl, rfl, id⟩

theorem grows_framing (tree : FileTree) :
    Memory.Framing fun m m' => m.Grows (FoundOn tree m.searchPath) m' :=
  (grows_itemFraming tree 0).toFraming

/-! ### Requests -/

section Requests

open Exec

variable {tree : FileTree} {request : String → Exec Nat}

theorem grows_runFile {ctx : Context} (hrequest : ∀ name, Grows tree (ctx.request name))
    (items : List Item) : Grows tree (runFile ctx items) := by
  have F := grows_itemFraming tree ctx.index
  refine F.bind (F.runItems hrequest .ofModule items) fun _ m => ?_
  exact m.grows_modify _ ctx.index fun x => ⟨rfl, rfl, fun _ => rfl⟩

theorem grows_runAt (hrequest : ∀ name, Grows tree (request name)) (index : Nat)
    (moduleName : String) (path : Path) :
    Grows tree (runAt tree request index moduleName path) :=
  (grows_framing tree).bind ((grows_framing tree).liftExcept _) fun items =>
    grows_runFile hrequest items

theorem dotted_singleton (name : String) : dotted [name] = name := by
  simp [dotted]

theorem not_isPlain_dotted (name : String) {outer : List String} (h : outer ≠ []) :
    ¬ IsPlain (dotted (name :: outer)) := by
  obtain ⟨first, rest, hparts⟩ : ∃ first rest, outer.reverse = first :: rest :=
    List.exists_cons_of_ne_nil (by simpa using h)
  rw [IsPlain, dotted, List.reverse_cons, hparts, List.cons_append,
    String.intercalate_cons_of_ne_nil (by simp)]
  simp

/-- A module is entered before its file is carried out, and forgotten if that fails. -/
theorem outcome_makeModule (tree : FileTree) (request : String → Exec Nat) (full name : String)
    (directories : List Path) (m : Memory) :
    (makeModule tree request full name directories).outcome m =
      match Module.offered? full, findModule tree name directories with
      | some x, _ => (.ok m.modules.length, (m.enter x).2)
      | none, .inl none => (.error (.ofImport (.noModule full)), m)
      | none, .inr portions => (.ok m.modules.length, (m.enter (.ofDirectories full portions)).2)
      | none, .inl (some (file, inside)) =>
        match (runAt tree request m.modules.length full file).outcome
          (m.enter (.ofFile full file inside)).2 with
        | (.ok (), m') => (.ok m.modules.length, m')
        | (.error e, m') => (.error e, m'.forget full) := by
  unfold makeModule
  rcases Module.offered? full with _ | x
  rcases findModule tree name directories with (_ | ⟨file, inside⟩) | portions
  · rfl
  · dsimp only
    rw [outcome_bind, outcome_get]
    dsimp only
    rw [outcome_bind, outcome_set]
    dsimp only
    rw [outcome_bind, outcome_tryCatch,
      show (m.enter (.ofFile full file inside)).1 = m.modules.length from rfl]
    rcases (runAt tree request m.modules.length full file).outcome
      (m.enter (.ofFile full file inside)).2 with ⟨e | _, m'⟩
    · rfl
    · rfl
  · rfl
  · rfl

theorem name_of_offered? {name : String} {x : Module} (h : Module.offered? name = some x) :
    x.name = name := by
  obtain ⟨o, -, rfl⟩ := Option.map_eq_some_iff.mp h
  rfl

/-- Making a module that is not there yet. A module without dots in its name is
made of what the search path holds. -/
theorem grows_makeModule (hrequest : ∀ name, Grows tree (request name)) {full name : String}
    {directories : List Path} {m : Memory} (absent : m.loaded.lookup full = none)
    (searched : IsPlain full → full = name ∧ directories = m.searchPath.map Path.ofString) :
    m.Grows (FoundOn tree m.searchPath)
      ((makeModule tree request full name directories).outcome m).2 := by
  have entered {x : Module} (hname : x.name = full)
      (hfile : Module.offered? full = none →
        fileFound (findModule tree name directories) = some x.file) :
      m.Grows (FoundOn tree m.searchPath) (m.enter x).2 := by
    refine Memory.grows_enter (hname ▸ absent) fun plain unoffered => ?_
    obtain ⟨rfl, rfl⟩ := searched (hname ▸ plain)
    rw [hname] at unoffered ⊢
    exact hfile unoffered
  rw [outcome_makeModule]
  rcases offered : Module.offered? full with _ | x
  swap
  · exact entered (name_of_offered? offered) fun unoffered => by simp [offered] at unoffered
  rcases hfound : findModule tree name directories with (_ | ⟨file, inside⟩) | portions
  all_goals rw [hfound] at entered
  · exact .refl _ m
  · have start := entered (x := .ofFile full file inside) rfl fun _ => rfl
    have ran := grows_runAt hrequest m.modules.length full file
      (m.enter (.ofFile full file inside)).2
    dsimp only
    rcases hrun : (runAt tree request m.modules.length full file).outcome
      (m.enter (.ofFile full file inside)).2 with ⟨e | _, m'⟩
    all_goals rw [hrun] at ran
    · exact (start.trans ran).forget absent
    · exact start.trans ran
  · exact entered (x := .ofDirectories full portions) rfl fun _ => rfl

theorem grows_placesOf (tree : FileTree) (parts : List String) :
    Grows tree (placesOf tree parts) := by
  have F := grows_framing tree
  induction parts with
  | nil => exact F.bind F.get fun _ => F.pure _
  | cons name outer ih =>
      unfold placesOf
      refine F.bind F.get fun m => ?_
      split
      · exact F.pure _
      · split
        · exact F.pure _
        · dsimp only
          refine .ite (F.pure _) (.ite (F.throw_bind _ _) (F.bind ih fun places => ?_))
          split
          · refine F.bind (fun m => ?_) fun _ => F.pure _
            exact m.grows_modify _ _ fun x => ⟨rfl, rfl, id⟩
          · exact F.pure _

/-- Looking for the directories of a package lets no module be found. -/
theorem loaded_placesOf (tree : FileTree) (parts : List String) (m : Memory) :
    ((placesOf tree parts).outcome m).2.loaded = m.loaded := by
  induction parts generalizing m with
  | nil => rfl
  | cons name outer ih =>
      unfold placesOf
      rw [outcome_bind, outcome_get]
      dsimp only
      split
      · rfl
      · split
        · rfl
        · split
          · rfl
          · split
            · rfl
            · have inner := ih m
              rw [outcome_bind]
              rcases hplaces : (placesOf tree outer).outcome m with ⟨e | places, m'⟩
              all_goals rw [hplaces] at inner
              · exact inner
              · dsimp only
                split
                · rw [outcome_bind, outcome_modify]
                  exact (m'.modify_loaded _ _).trans inner
                · exact inner

theorem grows_requestParts (hrequest : ∀ name, Grows tree (request name)) (parts : List String) :
    Grows tree (requestParts tree request parts) := by
  have F := grows_framing tree
  induction parts with
  | nil => exact F.throw _
  | cons name outer ih =>
      intro m
      unfold requestParts
      dsimp only
      rw [outcome_bind, outcome_get]
      dsimp only
      split
      · exact .refl _ m
      rename_i absent
      have new := Option.eq_none_iff_forall_ne_some.mpr absent
      split
      · rename_i hnil
        obtain rfl : outer = [] := by simpa using hnil
        exact grows_makeModule hrequest new fun _ => ⟨dotted_singleton name, rfl⟩
      rename_i hne
      have nested : ¬ IsPlain (dotted (name :: outer)) :=
        not_isPlain_dotted name (by simpa using hne)
      refine F.bind ih (fun package m' => ?_) m
      rw [outcome_bind, outcome_get]
      dsimp only
      split
      · exact .refl _ m'
      rename_i absent'
      -- The packages around it were made meanwhile, and the module itself was not.
      have new' := Option.eq_none_iff_forall_ne_some.mpr absent'
      have searched := grows_placesOf tree outer m'
      rw [← loaded_placesOf tree outer m'] at new'
      rw [outcome_bind]
      rcases hplaces : (placesOf tree outer).outcome m' with ⟨e | places, m₁⟩
      all_goals rw [hplaces] at searched new'
      · exact searched
      dsimp only
      split
      · exact searched
      · rename_i directories
        have made : m₁.Grows (FoundOn tree m₁.searchPath)
            ((makeModule tree request (dotted (name :: outer)) name directories).outcome m₁).2 :=
          grows_makeModule hrequest new' fun plain => absurd plain nested
        rw [outcome_bind]
        rcases hmade : (makeModule tree request (dotted (name :: outer)) name
          directories).outcome m₁ with ⟨e | index, m₂⟩
        all_goals
          rw [hmade] at made
          have made := F.trans searched made
        · exact made
        · exact made.trans (m₂.grows_modify _ _ fun x => ⟨rfl, rfl, id⟩)

theorem grows_requestWithin (tree : FileTree) (depth : Nat) (name : String) :
    Grows tree (requestWithin tree depth name) := by
  have F := grows_framing tree
  induction depth generalizing name with
  | zero => exact F.throw _
  | succ depth ih =>
      unfold requestWithin
      refine F.bind (fun m => F.ask m _) fun _ => F.bind F.get fun m => ?_
      split
      · exact F.pure _
      · exact .ite (F.throw_bind _ _) (grows_requestParts ih _)

theorem grows_request (tree : FileTree) (name : String) : Grows tree (Script.request tree name) :=
  grows_requestWithin tree _ name

theorem grows_requestAbsolute (tree : FileTree) (name : String) :
    Grows tree (requestAbsolute tree name) :=
  Keeps.ite ((grows_framing tree).throw _) (grows_request tree name)

end Requests

/-! ### Requests that are answered -/

section Answers

open Exec

variable {tree : FileTree} {request : String → Exec Nat}

theorem lookup_of_makeModule_ok (hrequest : ∀ name, Grows tree (request name))
    {full name : String} {directories : List Path} {m m' : Memory} {index : Nat}
    (h : (makeModule tree request full name directories).outcome m = (.ok index, m')) :
    m'.loaded.lookup full = some index := by
  rw [outcome_makeModule] at h
  rcases offered : Module.offered? full with _ | x
  swap
  · rw [offered] at h
    cases h
    rw [← name_of_offered? offered]
    exact m.lookup_enter_self x
  rcases hfound : findModule tree name directories with (_ | ⟨file, inside⟩) | portions
  all_goals
    rw [offered, hfound] at h
    dsimp only at h
  · cases h
  · have ran := grows_runAt hrequest m.modules.length full file
      (m.enter (.ofFile full file inside)).2
    rcases hrun : (runAt tree request m.modules.length full file).outcome
      (m.enter (.ofFile full file inside)).2 with ⟨e | _, m₁⟩
    all_goals
      rw [hrun] at h ran
      cases h
    exact ran.loaded full _ (m.lookup_enter_self (.ofFile full file inside))
  · cases h
    exact m.lookup_enter_self (.ofDirectories full portions)

/-- What a request gives stands under the name that was asked for. -/
theorem lookup_of_requestParts_ok (hrequest : ∀ name, Grows tree (request name))
    {parts : List String} {m m' : Memory} {index : Nat}
    (h : (requestParts tree request parts).outcome m = (.ok index, m')) :
    m'.loaded.lookup (dotted parts) = some index := by
  cases parts with
  | nil => cases h
  | cons name outer =>
      unfold requestParts at h
      dsimp only at h
      rw [outcome_bind, outcome_get] at h
      dsimp only at h
      split at h
      · rename_i found
        cases h
        exact found
      split at h
      · obtain ⟨places, m₁, -, h⟩ := outcome_bind_eq_ok.mp h
        exact lookup_of_makeModule_ok hrequest h
      obtain ⟨package, m₁, -, h⟩ := outcome_bind_eq_ok.mp h
      rw [outcome_bind, outcome_get] at h
      dsimp only at h
      split at h
      · rename_i found
        cases h
        exact found
      obtain ⟨places, m₂, -, h⟩ := outcome_bind_eq_ok.mp h
      split at h
      · cases h
      obtain ⟨made, m₃, hmade, h⟩ := outcome_bind_eq_ok.mp h
      cases h
      exact (congrArg (List.lookup _) (m₃.modify_loaded _ _)).trans
        (lookup_of_makeModule_ok hrequest hmade)

theorem lookup_of_request_ok {name : String} (plain : IsPlain name) {m m' : Memory} {index : Nat}
    (h : (Script.request tree name).outcome m = (.ok index, m')) :
    m'.loaded.lookup name = some index := by
  have parts : Text.splitWhere (· == '.') name.toList = [name.toList] := by
    refine Text.splitWhere_eq_singleton fun c hc => beq_false_of_ne ?_
    rintro rfl
    exact plain hc
  unfold Script.request requestDepth requestWithin at h
  rw [outcome_bind, outcome_modify] at h
  dsimp only at h
  rw [outcome_bind, outcome_get] at h
  dsimp only at h
  split at h
  · rename_i found
    cases h
    exact found
  · split at h
    · cases h
    · have known := lookup_of_requestParts_ok (grows_requestWithin tree _) h
      simpa [parts, dotted_singleton] using known

/-! ### Imports that are carried out -/

def Exec.StaysOutside (x : Exec Scope) : Prop :=
  ∀ m scope m', x.outcome m = (.ok scope, m') → scope = .ofModule

theorem staysOutside_pure : StaysOutside (pure .ofModule) := by
  rintro m scope m' ⟨⟩
  rfl

theorem staysOutside_throw (e : Raised) : StaysOutside (throw e) := by
  rintro m scope m' ⟨⟩

theorem Exec.StaysOutside.bind {α : Type} {x : Exec α} {f : α → Exec Scope}
    (hf : ∀ a, StaysOutside (f a)) : StaysOutside (x >>= f) := by
  intro m scope m' h
  obtain ⟨a, m₁, -, h⟩ := outcome_bind_eq_ok.mp h
  exact hf a m₁ scope m' h

theorem Exec.StaysOutside.andThen {x : Exec Scope} {f : Scope → Exec Scope} (hx : StaysOutside x)
    (hf : StaysOutside (f .ofModule)) : StaysOutside (x >>= f) := by
  intro m scope m' h
  obtain ⟨s, m₁, hs, h⟩ := outcome_bind_eq_ok.mp h
  obtain rfl := hx m s m₁ hs
  exact hf m₁ scope m' h

theorem staysOutside_bindName (ctx : Context) (name : String) (o : Object) :
    StaysOutside (bindName ctx .ofModule name o) :=
  .bind fun _ => staysOutside_pure

theorem staysOutside_bindImported (ctx : Context) (index : Nat) (names : List String) :
    StaysOutside (bindImported ctx index .ofModule names) := by
  induction names with
  | nil => exact staysOutside_pure
  | cons name rest ih =>
      unfold bindImported
      exact .bind fun o => .andThen (staysOutside_bindName ctx _ o) ih

theorem staysOutside_bindOffered (ctx : Context) (index : Nat) (names : List String) :
    StaysOutside (bindOffered ctx index .ofModule names) := by
  induction names with
  | nil => exact staysOutside_pure
  | cons name rest ih =>
      unfold bindOffered
      exact .bind fun m => .bind fun o => .andThen (staysOutside_bindName ctx _ o) ih

theorem staysOutside_runItem (ctx : Context) (item : Item) :
    StaysOutside (runItem ctx .ofModule item) := by
  cases item with
  | define form name doc => exact staysOutside_bindName _ _ _
  | classBlock name bases doc members =>
      unfold runItem
      refine .bind fun bases => .bind fun kind => .bind fun start => .bind fun body => ?_
      exact .bind fun m => .bind fun made => .bind fun _ => staysOutside_bindName _ _ _
  | lambda name => exact staysOutside_bindName _ _ _
  | callable name => exact staysOutside_bindName _ _ _
  | constant name v => exact staysOutside_bindName _ _ _
  | «alias» name target =>
      unfold runItem
      exact .bind fun _ => staysOutside_bindName _ _ _
  | delete name =>
      unfold runItem deleteIn
      refine .bind fun names => ?_
      dsimp only
      split
      · exact .bind fun _ => .bind fun _ => staysOutside_pure
      · exact .bind fun _ => staysOutside_pure
  | useModule name names =>
      unfold runItem useModule
      refine .bind fun full => .bind fun index => ?_
      unfold bindWanted
      split
      · exact .bind fun _ => staysOutside_bindName _ _ _
      · split
        · exact .bind fun m => .bind fun _ => staysOutside_bindOffered _ _ _
        · exact .bind fun _ => staysOutside_bindImported _ _ _
  | throw kind message =>
      unfold runItem
      refine .bind fun o => ?_
      split
      · exact .bind fun _ => staysOutside_throw _
      · exact staysOutside_throw _
  | malformed => exact staysOutside_throw _

/-- An import that is carried out leaves a module under the name that it gives. -/
theorem exists_lookup_of_useModule_ok {ctx : Context} (hctx : ctx.request = Script.request tree)
    {name : String} (plain : IsPlain name) {names : List String} {m m' : Memory} {scope : Scope}
    (h : (useModule ctx .ofModule name names).outcome m = (.ok scope, m')) :
    ∃ i, m'.loaded.lookup name = some i := by
  have hrequest : ∀ name, Grows tree (ctx.request name) := by
    rw [hctx]
    exact grows_request tree
  have undotted : (name.toList.takeWhile (· == '.')).length = 0 := by
    rcases hname : name.toList with _ | ⟨c, rest⟩
    · rfl
    · have hc : (c == '.') = false := by
        refine beq_false_of_ne ?_
        rintro rfl
        exact plain (by simp [hname])
      simp [hc]
  have named : (fullName ctx name).outcome m = (.ok name, m) := by
    unfold fullName
    dsimp only
    rw [if_pos undotted]
    rfl
  obtain ⟨full, m₁, hfull, later⟩ := outcome_bind_eq_ok.mp h
  cases named.symm.trans hfull
  obtain ⟨index, m₂, hindex, hbind⟩ := outcome_bind_eq_ok.mp later
  rw [hctx] at hindex
  have bound := (grows_itemFraming tree _).bindWanted hrequest .ofModule name index names m₂
  rw [hbind] at bound
  exact ⟨index, bound.loaded name index (lookup_of_request_ok plain hindex)⟩

theorem exists_lookup_of_runItems_ok {ctx : Context} (hctx : ctx.request = Script.request tree)
    {name : String} (plain : IsPlain name) {names : List String} {items : List Item}
    (hmem : .useModule name names ∈ items) {m m' : Memory} {scope : Scope}
    (h : (runItems ctx .ofModule items).outcome m = (.ok scope, m')) :
    ∃ i, m'.loaded.lookup name = some i := by
  have hrequest : ∀ name, Grows tree (ctx.request name) := by
    rw [hctx]
    exact grows_request tree
  induction items generalizing m with
  | nil => cases hmem
  | cons item rest ih =>
      unfold runItems at h
      obtain ⟨s, m₁, hitem, hrest⟩ := outcome_bind_eq_ok.mp h
      cases staysOutside_runItem ctx item m s m₁ hitem
      rcases List.mem_cons.mp hmem with rfl | hmem
      · unfold runItem at hitem
        obtain ⟨i, hi⟩ := exists_lookup_of_useModule_ok hctx plain hitem
        -- The items after the import leave its name as it is.
        have later := (grows_itemFraming tree _).runItems hrequest .ofModule rest m₁
        rw [hrest] at later
        exact ⟨i, later.loaded name i hi⟩
      · exact ih hmem hrest

end Answers

/-! ### Command files -/

section CommandFiles

open Exec

/-- The search path while a command file is carried out: its own directory is
searched first. -/
def searchedFrom (file : Path) (m : Memory) : List String :=
  (toAdd? file.parent.toString m).toList ++ m.searchPath

def Memory.started (m : Memory) (name : String) (file : Path) : Memory :=
  { (m.enter (.ofCommand name file)).2 with searchPath := searchedFrom file m }

/-- What is left of a search path once a command file was carried out: the entry that was
put in front for the file is taken out again, where it stands first. -/
def pathLeft (file : Path) (m : Memory) (path : List String) : List String :=
  (toAdd? file.parent.toString m).elim path path.erase

@[simp] theorem pathLeft_searchedFrom (file : Path) (m : Memory) :
    pathLeft file m (searchedFrom file m) = m.searchPath := by
  unfold pathLeft searchedFrom
  cases toAdd? file.parent.toString m <;> simp

/-- Carrying out a command file is running it in its module; afterwards the search path
is what the file has left of it, and an ordinary error lets the module be forgotten. -/
theorem outcome_carryOut (tree : FileTree) (name : String) (file : Path) (m : Memory) :
    (carryOut tree name file).outcome m =
      match (runAt tree (request tree) m.modules.length name file).outcome
        (m.started name file) with
      | (.ok (), m') =>
        (.ok m.modules.length, { m' with searchPath := pathLeft file m m'.searchPath })
      | (.error e, m') =>
        let kept := { m' with searchPath := pathLeft file m m'.searchPath }
        (.error e, if e.isOrdinary then kept.forget name else kept) := by
  have added (x : Module) :
      toAdd? file.parent.toString (m.enter x).2 = toAdd? file.parent.toString m := rfl
  have start : (toAdd? file.parent.toString m).elim (m.enter (.ofCommand name file)).2
      (m.enter (.ofCommand name file)).2.search = m.started name file := by
    unfold Memory.started searchedFrom
    rcases toAdd? file.parent.toString m with _ | directory
    · rfl
    · rfl
  unfold carryOut
  rw [outcome_bind, outcome_get]
  dsimp only
  rw [outcome_bind, outcome_set, added, start]
  dsimp only
  rw [outcome_bind, outcome_tryCatch, outcome_map,
    show (m.enter (.ofCommand name file)).1 = m.modules.length from rfl]
  unfold pathLeft
  generalize toAdd? file.parent.toString m = directory
  rcases (runAt tree (request tree) m.modules.length name file).outcome
    (m.started name file) with ⟨e | _, m'⟩
  · cases directory <;> cases ordinary : e.isOrdinary <;> simp [ordinary, Except.map] <;> rfl
  · cases directory <;> rfl

/-- What a command file leaves: its own module, and what was found on the search
path that has its directory first. -/
theorem grows_carryOut (tree : FileTree) {name : String} (file : Path) {m : Memory}
    (absent : m.loaded.lookup name = none) :
    m.Grows (fun n found => n = name ∨ FoundOn tree (searchedFrom file m) n found)
      ((carryOut tree name file).outcome m).2 := by
  have entered : m.Grows (fun n found => n = name ∨ FoundOn tree (searchedFrom file m) n found)
      (m.enter (.ofCommand name file)).2 :=
    Memory.grows_enter absent (.inl rfl)
  have ran := grows_runAt (grows_request tree) m.modules.length name file (m.started name file)
  rw [outcome_carryOut]
  rcases hrun : (runAt tree (request tree) m.modules.length name file).outcome
    (m.started name file) with ⟨e | _, m'⟩
  all_goals
    rw [hrun] at ran
    have back (same : m'.edits = m.edits) : pathLeft file m m'.searchPath = m.searchPath := by
      rw [ran.searchPath same]
      exact pathLeft_searchedFrom file m
    have ran := Memory.Grows.putBack (m := (m.enter (.ofCommand name file)).2) ran back
    have kept := entered.trans (ran.mono fun _ _ => .inr)
  · dsimp only
    split
    · exact kept.forget absent
    · exact kept
  · exact kept

/-- A command file that is carried out to its end has the modules that it imports. -/
theorem exists_lookup_of_carryOut_ok {tree : FileTree} {moduleName name : String}
    (plain : IsPlain name) {file : Path} {items : List Item} {names : List String}
    (read : itemsAt tree moduleName file = .ok items) (hmem : .useModule name names ∈ items)
    {m m' : Memory} {index : Nat}
    (h : (carryOut tree moduleName file).outcome m = (.ok index, m')) :
    ∃ i, m'.loaded.lookup name = some i := by
  rw [outcome_carryOut] at h
  rcases hrun : (runAt tree (request tree) m.modules.length moduleName file).outcome
    (m.started moduleName file) with ⟨e | _, m₁⟩
  all_goals
    rw [hrun] at h
    cases h
  obtain ⟨items', m₂, hread, hrun⟩ := outcome_bind_eq_ok.mp hrun
  obtain ⟨rfl, rfl⟩ : items' = items ∧ m₂ = m.started moduleName file := by
    have hitems : (itemsAt tree moduleName file, m.started moduleName file) = (.ok items', m₂) :=
      hread
    rw [read] at hitems
    cases hitems
    exact ⟨rfl, rfl⟩
  obtain ⟨scope, m₃, hitems, hrun⟩ := outcome_bind_eq_ok.mp hrun
  cases hrun
  obtain ⟨i, hi⟩ := exists_lookup_of_runItems_ok rfl plain hmem hitems
  exact ⟨i, by simpa using hi⟩

end CommandFiles

end CommandManual.Script
