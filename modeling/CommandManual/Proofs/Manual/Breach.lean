import CommandManual.Manual.Generate
import CommandManual.Proofs.Command.Load

/-!
What ends a whole run while one command is worked on. `Breach` lists what can be
wrong with a command for that to happen, from its provider over its documentation
to the path of its page and the words of its warning, and `breach_iff` takes the list
back to the step that documents a command.
-/

namespace CommandManual

open CommandManual.Action CommandManual.Script

/-! ### Documentation and pages -/

inductive DocsBreach (memory : Memory) : Provider → Prop
  /-- A public method of the class has something other than a text as its docblock. -/
  | method {d : Descriptor} {c : Script.Class} {m : String × Function} {kind : String}
      (isMethod : m ∈ c.publicMethods) (doc : m.2.doc = .other kind) :
      DocsBreach memory (.ofClass d (.cls c))
  /-- What is given as the class is none. -/
  | noClass {d : Descriptor} {o : Object} (isOther : ∀ c, o ≠ .cls c) :
      DocsBreach memory (.ofClass d o)
  /-- An object that should answer raises something. -/
  | asked {o : Object} {e : Raised}
      (raised : (memory.attribute o "method_docs" >>= fun member => call member []) =
        .error e) :
      DocsBreach memory (.object o)
  /-- The answer of an object is none that can be looked at. -/
  | answered {o answer : Object} {e : Raised}
      (given : (memory.attribute o "method_docs" >>= fun member => call member []) =
        .ok answer)
      (raised : truth answer = .error e ∨ goThrough answer = .error e) :
      DocsBreach memory (.object o)

theorem Script.collectDocs_cons_run (className name : String) (f : Function)
    (rest : List (String × Function)) (records : List Log.Record) :
    StateT.run (ExceptT.run (collectDocs className ((name, f) :: rest))) records =
      match f.methodDoc? name with
      | .error fault => (.error fault, records)
      | .ok none =>
        StateT.run (ExceptT.run (collectDocs className rest)) (records ++
          [.named extractorLogger .debug
            ("Skipping undocumented method " ++ className ++ "." ++ name)
            [("cls", .str className), ("name", .str name)]])
      | .ok (some doc) =>
        let later := StateT.run (ExceptT.run (collectDocs className rest)) records
        (later.1.map (doc :: ·), later.2) := by
  rw [collectDocs]
  rcases f.methodDoc? name with fault | _ | doc
  · rfl
  · rfl
  · show StateT.run (ExceptT.run (collectDocs className rest >>= fun docs =>
      pure (doc :: docs))) records = _
    rw [Traced.run_bind]
    rcases StateT.run (ExceptT.run (collectDocs className rest)) records
      with ⟨_ | docs, records'⟩ <;> rfl

theorem Script.Function.methodDoc?_breach_iff (f : Function) (name : String) :
    (∃ fault, f.methodDoc? name = .error fault ∧ fault.endsOneCommand = false) ↔
      ∃ kind, f.doc = .other kind := by
  unfold methodDoc?
  rcases f.doc with _ | t | kind <;> simp [Fault.endsOneCommand]

theorem Script.collectDocs_breach_iff (className : String)
    (methods : List (String × Function)) (records : List Log.Record) :
    (∃ fault, (StateT.run (ExceptT.run (collectDocs className methods)) records).1 =
        .error fault ∧ fault.endsOneCommand = false) ↔
      ∃ m ∈ methods, ∃ kind, m.2.doc = .other kind := by
  induction methods generalizing records with
  | nil => simp [collectDocs]
  | cons m rest ih =>
      obtain ⟨name, f⟩ := m
      simp only [List.mem_cons, exists_eq_or_imp]
      rw [← f.methodDoc?_breach_iff name, ← ih records, collectDocs_cons_run]
      rcases hdoc : f.methodDoc? name with fault | _ | doc
      · have ends : fault.endsOneCommand = false := by
          unfold Function.methodDoc? at hdoc
          split at hdoc <;> cases hdoc
          rfl
        simp [ends]
      · simp [ih]
      · rcases StateT.run (ExceptT.run (collectDocs className rest)) records
          with ⟨_ | docs, records'⟩ <;> simp [Except.map]

namespace Action

/-- Looking at an answer only fails for an object. -/
theorem answer_escapes_iff {answer : DocsAnswer} {w : Workspace} {logger message : String}
    {level : Log.Level} {values : List (String × Value)} :
    (do
      if ← ofExcept answer.isEmpty then note logger level message values
      ofExcept answer.list : Action (List MethodDoc)).Escapes w ↔
      ∃ o e, answer = .object o ∧ (truth o = .error e ∨ goThrough o = .error e) := by
  cases answer with
  | docs known =>
      cases known <;> simp [escapes_bind, DocsAnswer.isEmpty, DocsAnswer.list]
  | object o =>
      rcases htruth : truth o with e | _ | _ <;> rcases hlist : goThrough o with e' | _ <;>
        simp [escapes_bind, DocsAnswer.isEmpty, DocsAnswer.list, htruth, hlist, Except.map,
          Fault.endsOneCommand]

theorem methodDocs_ofClass_fst (memory : Memory) (d : Descriptor) (c : Script.Class) :
    ((Provider.ofClass d (.cls c)).methodDocs memory).outcome.1 =
      c.methodDocs.outcome.1.map .docs := by
  show (StateT.run (ExceptT.run (c.methodDocs >>= fun docs => pure (DocsAnswer.docs docs)))
    []).1 = _
  rw [Traced.run_bind, Traced.outcome]
  rcases StateT.run (ExceptT.run c.methodDocs) [] with ⟨_ | docs, records⟩ <;> rfl

theorem methodDocs_ofOther_fst (memory : Memory) (d : Descriptor) {o : Object}
    (h : ∀ c, o ≠ .cls c) :
    ∃ fault, ((Provider.ofClass d o).methodDocs memory).outcome.1 = .error fault ∧
      fault.endsOneCommand = false := by
  have noClass : ∃ fault, memory.classFor o = .error fault ∧
      fault.endsOneCommand = false := by
    unfold Memory.classFor
    split
    · exact absurd rfl (h _)
    · split <;> exact ⟨_, rfl, rfl⟩
  obtain ⟨fault, hfault, ends⟩ := noClass
  refine ⟨fault, ?_, ends⟩
  rw [Provider.methodDocs, hfault]
  rfl

theorem docsBreach_ofClass_iff {memory : Memory} {d : Descriptor} {c : Script.Class} :
    DocsBreach memory (.ofClass d (.cls c)) ↔
      ∃ m ∈ c.publicMethods, ∃ kind, m.2.doc = .other kind := by
  constructor
  · intro breach
    cases breach with
    | method isMethod doc => exact ⟨_, isMethod, _, doc⟩
    | noClass isOther => exact absurd rfl (isOther c)
  · rintro ⟨m, isMethod, kind, doc⟩
    exact .method isMethod doc

theorem docsFrom_escapes_iff {d : Descriptor} {provider : Provider} {w : Workspace} :
    (docsFrom d provider).Escapes w ↔ DocsBreach w.memory provider := by
  unfold docsFrom
  rw [escapes_get_bind, escapes_bind, escapes_ofTraced]
  simp only [answer_escapes_iff, outcome_ofTraced]
  cases provider with
  | ofClass d' o =>
      by_cases hclass : ∃ c, o = .cls c
      · obtain ⟨c, rfl⟩ := hclass
        have methods := collectDocs_breach_iff c.name c.publicMethods []
        rw [methodDocs_ofClass_fst, docsBreach_ofClass_iff, ← methods]
        show _ ↔ ∃ fault, c.methodDocs.outcome.1 = .error fault ∧ fault.endsOneCommand = false
        rcases c.methodDocs.outcome.1 with fault | docs <;> simp [Except.map]
      · have noClass : ∀ c, o ≠ .cls c := not_exists.mp hclass
        obtain ⟨fault, hfault, ends⟩ := methodDocs_ofOther_fst w.memory d' noClass
        exact ⟨fun _ => .noClass noClass, fun _ => .inl ⟨fault, hfault, ends⟩⟩
  | fixed d' docs =>
      constructor
      · rintro (⟨_, ⟨⟩, _⟩ | ⟨_, _, h, _, _, rfl, _⟩)
        cases h
      · intro breach
        cases breach
  | object o =>
      rcases hanswer : (w.memory.attribute o "method_docs" >>= fun member => call member [])
        with e | answer
      all_goals simp only [Provider.methodDocs, hanswer, Traced.outcome_ofExcept]
      · exact ⟨fun _ => .asked hanswer, fun _ => .inl ⟨_, rfl, rfl⟩⟩
      · constructor
        · rintro (⟨_, ⟨⟩, _⟩ | ⟨_, _, ⟨⟩, _, e, ⟨⟩, raised⟩)
          exact .answered hanswer raised
        · intro breach
          cases breach with
          | asked raised => cases hanswer.symm.trans raised
          | answered given raised =>
              cases hanswer.symm.trans given
              exact .inr ⟨_, _, rfl, _, _, rfl, raised⟩

theorem renderCommand_escapes_iff {headingLead : String} {d : Descriptor} {w : Workspace} :
    (renderCommand headingLead d).Escapes w ↔
      ProviderBreach d w ∨ ∃ provider w', (loadProvider d).outcome w = (.ok provider, w') ∧
        DocsBreach w'.memory provider := by
  unfold renderCommand
  rw [escapes_bind, loadProvider_escapes_iff]
  simp only [bind_pure_comp, escapes_map, docsFrom_escapes_iff]

theorem writePage_escapes_iff {destination : String} {page : Page} {w : Workspace} :
    (writePage destination page).Escapes w ↔
      FileTree.hasNull (outputPath destination page.fileName) = true := by
  unfold writePage
  rw [escapes_get_bind, ← @FileTree.write_eq_nullCharacter_iff w.tree _ (.text page.content)]
  rcases w.tree.write (outputPath destination page.fileName) (.text page.content)
    with (_ | _) | tree
  · simp [Fault.endsOneCommand]
  · simp [Fault.endsOneCommand]
  · simp [escapes_bind_of_ok (outcome_set _ _)]

end Action

/-! ### Commands -/

inductive Breach (job : Job) (d : Descriptor) (w : Workspace) : Prop
  | provider (breach : ProviderBreach d w)
  | docs {provider : Provider} {w' : Workspace}
      (loaded : (loadProvider d).outcome w = (.ok provider, w'))
      (breach : DocsBreach w'.memory provider)
  /-- The path of the page has a null character in it. -/
  | page {page : Page} {w' : Workspace}
      (rendered : (renderCommand job.headingLead d).outcome w = (.ok page, w'))
      (null : FileTree.hasNull (outputPath job.destination page.fileName) = true)
  /-- An error that only ends the work on this command has no words for itself. -/
  | unworded {kind : ProblemKind} {r e : Raised} (signals : Signals d w kind r)
      (caught : (Fault.signalled kind r).endsOneCommand = true) (wordless : r.text = .error e)

theorem Action.breach_iff {job : Job} {d : Descriptor} {w : Workspace} :
    Breach job d w ↔ (documentCommand job d).Escapes w ∨
      ∃ kind r e, Signals d w kind r ∧ (Fault.signalled kind r).endsOneCommand = true ∧
        r.text = .error e := by
  unfold documentCommand
  rw [escapes_bind, renderCommand_escapes_iff]
  simp only [writePage_escapes_iff]
  constructor
  · intro breach
    cases breach with
    | provider breach => exact .inl (.inl (.inl breach))
    | docs loaded breach => exact .inl (.inl (.inr ⟨_, _, loaded, breach⟩))
    | page rendered null => exact .inl (.inr ⟨_, _, rendered, null⟩)
    | unworded signals caught wordless => exact .inr ⟨_, _, _, signals, caught, wordless⟩
  · rintro (((breach | ⟨_, _, loaded, breach⟩) | ⟨_, _, rendered, null⟩) |
      ⟨_, _, _, signals, caught, wordless⟩)
    · exact .provider breach
    · exact .docs loaded breach
    · exact .page rendered null
    · exact .unworded signals caught wordless

end CommandManual
