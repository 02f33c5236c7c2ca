import CommandManual.Proofs.Command.Load
import CommandManual.Proofs.Manual.Command
import CommandManual.Proofs.Renumber.Imports

/-!
Commands on top of a past. A command whose file is carried out after those of others has
the page, or the fault, that it has alone, unless its file asks for a module by a name
that the others have taken: `renderCommand_meets`.
-/

namespace CommandManual

open Script

variable {α β : Type} {past : Memory} {r : Renumbering} {w w' : Workspace}

def Fault.renumber (r : Renumbering) : Fault → Fault
  | .raised e => .raised (e.renumber r)
  | .signalled kind e => .signalled kind (e.renumber r)
  | f => f

def Script.Renumbering.ending (r : Renumbering) (f : α → β) : Except Fault α → Except Fault β
  | .ok a => .ok (f a)
  | .error e => .error (e.renumber r)

namespace Script.Renumbering

theorem ending_eq_ok_iff {x : Except Fault α} {a : α} : r.ending id x = .ok a ↔ x = .ok a := by
  cases x <;> simp [ending]

theorem ending_eq_classNotFound_iff {x : Except Fault α} {className : String}
    {reason : Option String} :
    r.ending id x = .error (.classNotFound className reason) ↔
      x = .error (.classNotFound className reason) := by
  rcases x with fault | a
  · cases fault <;> simp [ending, Fault.renumber]
  · simp [ending]

end Script.Renumbering

theorem unloadable_renumber (path : Path) (className : String) (e : Raised) :
    Action.unloadable path className (e.renumber r) =
      (Action.unloadable path className e).renumber r := by
  unfold Action.unloadable
  rw [Raised.isOrdinary_renumber, Raised.formatted_renumber]
  split
  · rcases e.formatted with e' | detail <;> rfl
  · rfl

structure Workspace.Atop (past : Memory) (r : Renumbering) (w w' : Workspace) : Prop where
  tree : w'.tree = w.tree
  memory : past.Atop r w.memory w'.memory

namespace Action

theorem outcome_findFile (h : w'.tree = w.tree) (path : Path) (className : String) :
    (findFile path className).outcome w' = (((findFile path className).outcome w).1, w') := by
  unfold findFile
  rw [outcome_bind, outcome_get, outcome_bind, outcome_get]
  dsimp only
  rw [h]
  rcases w.tree.isFile path with e | _ | _
  · rfl
  · rfl
  · rcases w.tree.locate .follow path with e | place <;> rfl

/-- Steps with the same end go on to the same end, if what follows them does. -/
theorem ending_bind {γ δ : Type} {f : α → β} {g : γ → δ} {x : Action α} {y : Action β}
    {k : α → Action γ} {k' : β → Action δ}
    (hx : (y.outcome w').1 = r.ending f (x.outcome w).1)
    (hk : ∀ a, ((k' (f a)).outcome (y.outcome w').2).1 =
      r.ending g ((k a).outcome (x.outcome w).2).1) :
    ((y >>= k').outcome w').1 = r.ending g ((x >>= k).outcome w).1 := by
  rw [outcome_bind, outcome_bind]
  rcases hrun : x.outcome w with ⟨fault | a, w₁⟩
  all_goals
    rcases hrun' : y.outcome w' with ⟨result, w₁'⟩
    rw [hrun, hrun'] at hx hk
    cases hx
  · rfl
  · exact hk a

/-- What a command comes to, and what it leaves, unless it asks for what a past has taken. -/
def Meets (past : Memory) (r : Renumbering) (f : α → β) (x : Action α) (y : Action β)
    (w w' : Workspace) : Prop :=
  past.Unasked (x.outcome w).2.memory →
    (y.outcome w').1 = r.ending f (x.outcome w).1 ∧
      past.Atop r (x.outcome w).2.memory (y.outcome w').2.memory

theorem loadNew_meets (whole : past.Whole) (h : w.Atop past r w') {file : Path}
    (free : past.Free (moduleName file)) (path : Path) (className : String) :
    Meets past r (· + r.modules) (loadNew path className file) (loadNew path className file)
      w w' := by
  unfold Meets loadNew
  rw [outcome_bind, outcome_get, outcome_bind, outcome_get]
  dsimp only
  rw [h.tree]
  split
  · exact fun _ => ⟨rfl, h.memory⟩
  · exact fun _ => ⟨rfl, h.memory⟩
  · have ran := (carryOut_follows w.tree whole free file).meets h.memory
    unfold Exec.Meets at ran
    rw [outcome_bind, outcome_ofExec, outcome_bind, outcome_ofExec, ← Exec.outcome,
      ← Exec.outcome]
    rcases hrun : (carryOut w.tree (moduleName file) file).outcome w.memory with ⟨e | index, m⟩
    all_goals
      rcases hrun' : (carryOut w.tree (moduleName file) file).outcome w'.memory with ⟨result, m'⟩
      rw [hrun, hrun'] at ran
      dsimp only at ran ⊢
      intro unasked
    · obtain ⟨rfl, still⟩ := ran unasked
      exact ⟨congrArg Except.error (unloadable_renumber path className e), still⟩
    · rw [outcome_bind, outcome_note] at unasked
      obtain ⟨rfl, still⟩ := ran unasked
      exact ⟨rfl, still⟩

theorem loadFile_meets (whole : past.Whole) (h : w.Atop past r w') {path file : Path}
    {className : String} (located : (findFile path className).outcome w = (.ok file, w))
    (free : past.Free (moduleName file)) :
    Meets past r (· + r.modules) (loadFile path className) (loadFile path className) w w' := by
  unfold Meets loadFile
  rw [outcome_bind, located, outcome_bind, outcome_findFile h.tree, located]
  dsimp only
  rw [outcome_bind, outcome_get, outcome_bind, outcome_get]
  dsimp only
  rw [h.memory.free _ free]
  cases w.memory.loaded.lookup (moduleName file) with
  | some index => exact fun _ => ⟨rfl, h.memory⟩
  | none => exact loadNew_meets whole h free path className

theorem resolveClass_meets (whole : past.Whole) (h : past.Atop r w.memory w'.memory)
    (index : Nat) (className : String) :
    Meets past r (Class.renumber r) (resolveClass index className)
      (resolveClass (index + r.modules) className) w w' := by
  unfold Meets resolveClass
  rw [outcome_bind, outcome_get, outcome_bind, outcome_get]
  dsimp only
  have found := h.attributePath_eq whole (.module index)
    ((Text.splitWhere (· == '.') className.toList).map String.ofList)
  simp only [Object.renumber] at found
  rw [found]
  rcases w.memory.attributePath (.module index) _ with e | o
  · dsimp only [Renumbering.outcome_error]
    rw [Raised.isMissingAttribute_renumber]
    intro _
    split <;> exact ⟨rfl, h⟩
  · intro _
    cases o <;> exact ⟨rfl, h⟩

/-- What is wrong with the docblock of a function has no number. -/
theorem renumber_of_collectDocs {className : String} {methods : List (String × Function)}
    {records : List Log.Record} {f : Fault}
    (h : (StateT.run (ExceptT.run (collectDocs className methods)) records).1 = .error f) :
    f.renumber r = f := by
  induction methods generalizing records with
  | nil => cases h
  | cons method rest ih =>
      obtain ⟨name, function⟩ := method
      unfold collectDocs at h
      rw [Traced.run_bind, Traced.run_ofExcept] at h
      rcases hdoc : function.methodDoc? name with e | _ | doc
      all_goals
        rw [hdoc] at h
        dsimp only at h
      · unfold Function.methodDoc? at hdoc
        split at hdoc <;> cases hdoc
        cases h
        rfl
      · rw [Traced.run_bind, Traced.run_note] at h
        exact ih h
      · rw [Traced.run_bind] at h
        rcases hrest : StateT.run (ExceptT.run (collectDocs className rest)) records
          with ⟨e | docs, records'⟩
        all_goals rw [hrest] at h
        · exact ih ((congrArg Prod.fst hrest).trans h)
        · cases h

/-- The documentation of a class does not depend on the numbers. -/
theorem docsFrom_renumber (d : Descriptor) (c : Script.Class) (w w' : Workspace) :
    ((docsFrom d (.ofClass d (.cls (c.renumber r)))).outcome w').1 =
      r.ending id ((docsFrom d (.ofClass d (.cls c))).outcome w).1 := by
  have same (m m' : Memory) : (Provider.ofClass d (.cls (c.renumber r))).methodDocs m' =
      (Provider.ofClass d (.cls c)).methodDocs m := by
    have docs : (c.renumber r).methodDocs = c.methodDocs := by
      rw [Class.methodDocs, Class.methodDocs, Class.name_renumber, Class.publicMethods_renumber]
    exact congrArg (· >>= fun docs => pure (DocsAnswer.docs docs)) docs
  unfold docsFrom
  rw [outcome_bind, outcome_get, outcome_bind, outcome_get]
  dsimp only
  rw [same w.memory, outcome_bind, outcome_ofTraced, outcome_bind, outcome_ofTraced]
  have made : ((Provider.ofClass d (.cls c)).methodDocs w.memory).outcome.1 =
      c.methodDocs.outcome.1.map DocsAnswer.docs := by
    show (Traced.outcome (c.methodDocs >>= fun docs => pure (DocsAnswer.docs docs))).1 = _
    unfold Traced.outcome
    rw [Traced.run_bind]
    rcases StateT.run (ExceptT.run c.methodDocs) [] with ⟨e | docs, records⟩ <;> rfl
  rw [made]
  rcases hdocs : c.methodDocs.outcome.1 with f | docs
  · exact congrArg Except.error (renumber_of_collectDocs hdocs).symm
  · dsimp only [Except.map]
    rw [outcome_bind, outcome_ofExcept, outcome_bind, outcome_ofExcept]
    cases docs <;> rfl

/-! ### Pages -/

theorem memory_framing : Workspace.Framing fun w w' => w'.memory = w.memory where
  refl _ := rfl
  trans h h' := h'.trans h
  deliver _ _ := rfl

section Rendering

variable {headingLead : String} {d : Descriptor} {path file : Path}

/-- The page of a command with a file is made of a class in it. -/
theorem renderCommand_of_sourcePath (hpath : d.sourcePath = some path) :
    renderCommand headingLead d = (do
      let index ← loadFile path d.className
      let c ← resolveClass index d.className
      let docs ← docsFrom d (.ofClass d (.cls c))
      return Page.ofDocs headingLead d.commandName docs) := by
  unfold renderCommand loadProvider
  rw [hpath]
  simp only [bind_assoc, pure_bind]

/-- Rendering a command changes the memory by loading its file. -/
theorem memory_renderCommand (hpath : d.sourcePath = some path) (w : Workspace) :
    ((renderCommand headingLead d).outcome w).2.memory =
      ((loadFile path d.className).outcome w).2.memory := by
  have later (index : Nat) : (do
      let c ← resolveClass index d.className
      let docs ← docsFrom d (.ofClass d (.cls c))
      return Page.ofDocs headingLead d.commandName docs : Action Page).Keeps
        fun w w' => w'.memory = w.memory :=
    memory_framing.bind (memory_framing.resolveClass index d.className) fun c =>
      memory_framing.bind (memory_framing.docsFrom d _) fun docs => memory_framing.pure _
  rw [renderCommand_of_sourcePath hpath, outcome_bind]
  rcases (loadFile path d.className).outcome w with ⟨fault | index, w'⟩
  · rfl
  · exact later index w'

/-- The page of a command does not depend on what was loaded before, as long as the command
does not ask for a name that stands for something. -/
theorem renderCommand_meets (whole : past.Whole) (h : w.Atop past r w')
    (hpath : d.sourcePath = some path)
    (located : (findFile path d.className).outcome w = (.ok file, w))
    (free : past.Free (moduleName file))
    (unasked : past.Unasked ((renderCommand headingLead d).outcome w).2.memory) :
    ((renderCommand headingLead d).outcome w').1 =
      r.ending id ((renderCommand headingLead d).outcome w).1 := by
  have loaded := loadFile_meets whole h located free
  unfold Meets at loaded
  rw [memory_renderCommand hpath] at unasked
  obtain ⟨loads, still⟩ := loaded unasked
  rw [renderCommand_of_sourcePath hpath]
  refine ending_bind loads fun index => ?_
  -- From here on nothing is loaded any more, so the names that were asked for are final.
  have kept := memory_framing.resolveClass index d.className
    ((loadFile path d.className).outcome w).2
  have resolved := resolveClass_meets whole still index d.className
  unfold Meets at resolved
  obtain ⟨resolves, -⟩ := resolved (kept ▸ unasked)
  refine ending_bind resolves fun c => ?_
  exact ending_bind (docsFrom_renumber d c _ _) fun docs => rfl

end Rendering

end Action

end CommandManual
