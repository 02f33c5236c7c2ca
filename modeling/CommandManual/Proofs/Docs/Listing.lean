import CommandManual.Proofs.Except
import CommandManual.Proofs.Manual.Breach
import CommandManual.Proofs.Script.Methods
import CommandManual.Proofs.Text.Blanks
import Mathlib.Data.List.ReduceOption

/-!
The methods of a class in the order in which they are documented. Every member has a
position: its class has a place in the lookup order, and it has a place in its class. The
public methods come in the order of their positions, each from the first position that
holds a method of its name, and the documentation of a class has an entry for each of them
whose docblock is not blank.
-/

namespace CommandManual.Script

/-! ### Positions -/

structure Position where
  /-- The place of the class in the lookup order. -/
  classIndex : Nat
  /-- The place of the member in the class. -/
  memberIndex : Nat
deriving DecidableEq

/-- Whether one position comes before another, the places of the classes counting first. -/
def Position.Precedes (p q : Position) : Prop :=
  p.classIndex < q.classIndex ∨ p.classIndex = q.classIndex ∧ p.memberIndex < q.memberIndex

def Class.memberAt? (c : Class) (p : Position) : Option (String × Object) :=
  c.lineage[p.classIndex]?.bind fun k => k.own[p.memberIndex]?

/-- The members of classes with their positions, when the first class has the given place. -/
def placedMembers : (place : Nat) → List Class → List (Position × String × Object)
  | _, [] => []
  | place, k :: rest =>
    k.own.zipIdx.map (fun m => (⟨place, m.2⟩, m.1)) ++ placedMembers (place + 1) rest

theorem map_snd_placedMembers (place : Nat) (lineage : List Class) :
    (placedMembers place lineage).map Prod.snd = lineage.flatMap Class.own := by
  induction lineage generalizing place with
  | nil => rfl
  | cons k rest ih =>
      have own : (k.own.zipIdx.map fun m => ((⟨place, m.2⟩ : Position), m.1)).map Prod.snd =
          k.own := by
        rw [List.map_map]
        exact List.zipIdx_map_fst 0 k.own
      rw [placedMembers, List.map_append, own, ih, List.flatMap_cons]

theorem mem_placedMembers_iff {place : Nat} {lineage : List Class} {p : Position}
    {m : String × Object} :
    (p, m) ∈ placedMembers place lineage ↔
      ∃ n k, p.classIndex = place + n ∧ lineage[n]? = some k ∧
        k.own[p.memberIndex]? = some m := by
  induction lineage generalizing place with
  | nil => simp [placedMembers]
  | cons first rest ih =>
      rw [placedMembers, List.mem_append, ih]
      constructor
      · rintro (here | ⟨n, k, index, found, member⟩)
        · obtain ⟨⟨m', j⟩, hmem, same⟩ := List.mem_map.mp here
          obtain ⟨rfl, rfl⟩ := Prod.mk.inj same
          exact ⟨0, first, rfl, rfl, List.mk_mem_zipIdx_iff_getElem?.mp hmem⟩
        · exact ⟨n + 1, k, by omega, found, member⟩
      · rintro ⟨n, k, index, found, member⟩
        cases n with
        | zero =>
            cases found
            refine .inl (List.mem_map.mpr ⟨(m, p.memberIndex), ?_, ?_⟩)
            · exact List.mk_mem_zipIdx_iff_getElem?.mpr member
            · rw [show place = p.classIndex from index.symm]
        | succ n => exact .inr ⟨n, k, by omega, found, member⟩

theorem mem_placedMembers_lineage_iff {c : Class} {p : Position} {m : String × Object} :
    (p, m) ∈ placedMembers 0 c.lineage ↔ c.memberAt? p = some m := by
  rw [mem_placedMembers_iff, Class.memberAt?, Option.bind_eq_some_iff]
  simp

theorem pairwise_placedMembers (place : Nat) (lineage : List Class) :
    (placedMembers place lineage).Pairwise fun x y => x.1.Precedes y.1 := by
  induction lineage generalizing place with
  | nil => exact .nil
  | cons k rest ih =>
      rw [placedMembers, List.pairwise_append]
      refine ⟨?_, ih (place + 1), ?_⟩
      · have ordered : k.own.zipIdx.Pairwise fun x y => x.2 < y.2 := by
          rw [← List.pairwise_map (R := (· < ·)), List.zipIdx_map_snd]
          exact List.pairwise_lt_range'
        exact List.pairwise_map.mpr (ordered.imp fun lt => .inr ⟨rfl, lt⟩)
      · rintro x hx ⟨q, m⟩ hq
        obtain ⟨y, -, rfl⟩ := List.mem_map.mp hx
        obtain ⟨n, _, index, -⟩ := mem_placedMembers_iff.mp hq
        exact .inl (by dsimp only; omega)

/-! ### Methods and where they come from -/

/-- A method that is collected, and the member that it is taken from: the first one of its
name, among all that are gone through, that is a method. -/
structure Taken (seen : List String) (placed : List (Position × String × Object))
    (x : Position × String × Object) (m : String × Function) : Prop where
  name : x.2.1 = m.1
  method : x.2.2.asMethod? = some m.2
  isPublic : isPublic m.1 = true
  new : m.1 ∉ seen
  first : ∃ before after, placed = before ++ x :: after ∧
    ∀ y ∈ before, y.2.1 = m.1 → y.2.2.asMethod? = none

theorem Taken.cons {seen seen' : List String} {placed : List (Position × String × Object)}
    {x y : Position × String × Object} {m : String × Function} (h : Taken seen' placed x m)
    (names : ∀ name, name ∈ seen → name ∈ seen') (other : y.2.1 = m.1 → y.2.2.asMethod? = none) :
    Taken seen (y :: placed) x m := by
  obtain ⟨before, after, rfl, first⟩ := h.first
  refine ⟨h.name, h.method, h.isPublic, fun old => h.new (names _ old), y :: before, after, rfl, ?_⟩
  exact List.forall_mem_cons.mpr ⟨other, first⟩

theorem exists_taken (seen : List String) (placed : List (Position × String × Object)) :
    ∃ taken, taken.Sublist placed ∧
      List.Forall₂ (Taken seen placed) taken (collectMethods seen (placed.map Prod.snd)) := by
  induction placed generalizing seen with
  | nil => exact ⟨[], .slnil, .nil⟩
  | cons x rest ih =>
      obtain ⟨p, name, o⟩ := x
      rw [List.map_cons, collectMethods]
      split
      · -- A name that is private or was seen is not the name of a method that is collected.
        rename_i skipped
        obtain ⟨taken, sub, each⟩ := ih seen
        refine ⟨taken, sub.cons _, each.imp fun y m h => h.cons (fun _ => id) ?_⟩
        rintro rfl
        simp [h.isPublic, h.new] at skipped
      · rename_i collected
        simp only [Bool.or_eq_true, Bool.not_eq_true', List.contains_eq_mem,
          decide_eq_true_eq, not_or, Bool.not_eq_false] at collected
        split
        · rename_i f method
          obtain ⟨taken, sub, each⟩ := ih (name :: seen)
          refine ⟨(p, name, o) :: taken, sub.cons_cons _, .cons ?_ (each.imp fun y m h => ?_)⟩
          · exact ⟨rfl, method, collected.1, collected.2, [], rest.map id, by simp, by simp⟩
          · refine h.cons (fun _ => List.mem_cons_of_mem name) ?_
            rintro rfl
            exact absurd List.mem_cons_self h.new
        · rename_i noMethod
          obtain ⟨taken, sub, each⟩ := ih seen
          exact ⟨taken, sub.cons _, each.imp fun y m h => h.cons (fun _ => id) fun _ => noMethod⟩

theorem nodup_names_collectMethods (seen : List String) (members : List (String × Object)) :
    ((collectMethods seen members).map Prod.fst).Nodup := by
  induction members generalizing seen with
  | nil => exact .nil
  | cons m rest ih =>
      rw [collectMethods]
      split
      · exact ih seen
      · split
        · refine List.nodup_cons.mpr ⟨?_, ih _⟩
          intro again
          obtain ⟨⟨_, g⟩, hmem, rfl⟩ := List.mem_map.mp again
          exact (mem_collectMethods_iff.mp hmem).2.1 List.mem_cons_self
        · exact ih seen

/-- A method of a class and the position that it is taken from, which is the first one with
a method of its name. -/
structure Class.Gives (c : Class) (p : Position) (m : String × Function) : Prop where
  method : ∃ o, c.memberAt? p = some (m.1, o) ∧ o.asMethod? = some m.2
  first : ∀ q o, q.Precedes p → c.memberAt? q = some (m.1, o) → o.asMethod? = none

theorem Position.Precedes.asymm {p q : Position} (h : p.Precedes q) : ¬ q.Precedes p := by
  unfold Precedes at *
  omega

theorem Position.Precedes.irrefl (p : Position) : ¬ p.Precedes p := fun h => h.asymm h

theorem Taken.gives {c : Class} {x : Position × String × Object} {m : String × Function}
    (h : Taken [] (placedMembers 0 c.lineage) x m) : c.Gives x.1 m := by
  obtain ⟨p, name, o⟩ := x
  obtain rfl : name = m.1 := h.name
  obtain ⟨before, after, split, first⟩ := h.first
  have ordered := pairwise_placedMembers 0 c.lineage
  rw [split] at ordered
  constructor
  · refine ⟨o, mem_placedMembers_lineage_iff.mp ?_, h.method⟩
    rw [split]
    simp
  · intro q o' precedes found
    have placed := mem_placedMembers_lineage_iff.mpr found
    rw [split, List.mem_append, List.mem_cons] at placed
    rcases placed with earlier | same | later
    · exact first _ earlier rfl
    · obtain ⟨rfl, -⟩ := Prod.mk.inj same
      exact absurd precedes (Position.Precedes.irrefl q)
    · have after_p := (List.pairwise_cons.mp (List.pairwise_append.mp ordered).2.1).1 _ later
      exact absurd precedes after_p.asymm

/-- Public methods come in the order of the positions that they are taken from. -/
theorem exists_positions (c : Class) :
    ∃ positions : List Position, positions.Pairwise Position.Precedes ∧
      List.Forall₂ c.Gives positions c.publicMethods := by
  obtain ⟨taken, sub, each⟩ := exists_taken [] (placedMembers 0 c.lineage)
  rw [map_snd_placedMembers] at each
  refine ⟨taken.map Prod.fst, ?_, ?_⟩
  · exact List.pairwise_map.mpr ((pairwise_placedMembers 0 c.lineage).sublist sub)
  · exact List.forall₂_map_left_iff.mpr (each.imp fun _ _ => Taken.gives)

/-! ### Documentation -/

def Function.isDocumented (f : Function) : Bool :=
  match f.doc with
  | .text t => !t.all Text.isBlank
  | _ => false

def Documents (m : String × Function) (doc : MethodDoc) : Prop :=
  ∃ t, m.2.doc = .text t ∧ MethodDoc.ofDocblock? m.1.toList t = some doc

theorem ofDocblock?_eq_none_iff {name t : Text} :
    MethodDoc.ofDocblock? name t = none ↔ t.all Text.isBlank = true := by
  rw [← Text.all_isBlank_dedent, MethodDoc.ofDocblock?]
  cases (Text.dedent t).all Text.isBlank <;> simp

theorem methodDoc?_eq_ok_none_iff {f : Function} {name : String} :
    f.methodDoc? name = .ok none ↔ f.isDocumented = false ∧ ∀ kind, f.doc ≠ .other kind := by
  unfold Function.methodDoc? Function.isDocumented
  cases f.doc with
  | absent => simp
  | text t => simp [ofDocblock?_eq_none_iff]
  | other kind => simp

theorem documents_of_methodDoc? {f : Function} {name : String} {doc : MethodDoc}
    (h : f.methodDoc? name = .ok (some doc)) :
    f.isDocumented = true ∧ Documents (name, f) doc := by
  unfold Function.methodDoc? at h
  unfold Function.isDocumented Documents
  cases written : f.doc with
  | absent =>
      rw [written] at h
      cases h
  | other kind =>
      rw [written] at h
      cases h
  | text t =>
      rw [written] at h
      have found : MethodDoc.ofDocblock? name.toList t = some doc := Except.ok.inj h
      refine ⟨?_, t, rfl, found⟩
      cases blank : t.all Text.isBlank with
      | false => simpa using blank
      | true => cases found.symm.trans (ofDocblock?_eq_none_iff.mpr blank)

theorem exists_methodDoc?_iff {f : Function} {name : String} :
    (∃ doc, f.methodDoc? name = .ok doc) ↔ ∀ kind, f.doc ≠ .other kind := by
  unfold Function.methodDoc?
  cases f.doc <;> simp

def docOf (m : String × Function) : Except Fault (Option MethodDoc) := m.2.methodDoc? m.1

theorem run_collectDocs_fst (className : String) (methods : List (String × Function))
    (records : List Log.Record) :
    (StateT.run (ExceptT.run (collectDocs className methods)) records).1 =
      (methods.mapM docOf).map List.reduceOption := by
  induction methods generalizing records with
  | nil => rfl
  | cons m rest ih =>
      obtain ⟨name, f⟩ := m
      rw [collectDocs_cons_run, List.mapM_cons, docOf]
      rcases f.methodDoc? name with fault | _ | doc
      · rfl
      · rw [except_ok_bind, ih]
        rcases rest.mapM docOf with fault | docs <;> rfl
      · rw [except_ok_bind]
        dsimp only
        rw [ih]
        rcases rest.mapM docOf with fault | docs <;> rfl

theorem documents_reduceOption {methods : List (String × Function)}
    {found : List (Option MethodDoc)}
    (h : List.Forall₂ (fun m doc => docOf m = .ok doc) methods found) :
    List.Forall₂ Documents (methods.filter fun m => m.2.isDocumented) found.reduceOption := by
  induction h with
  | nil => exact .nil
  | @cons m doc methods found hdoc _ ih =>
      cases doc with
      | none =>
          have silent := (methodDoc?_eq_ok_none_iff.mp hdoc).1
          rw [List.filter_cons_of_neg (by simp [silent]), List.reduceOption_cons_of_none]
          exact ih
      | some doc =>
          obtain ⟨written, documents⟩ := documents_of_methodDoc? hdoc
          rw [List.filter_cons_of_pos (by simpa using written), List.reduceOption_cons_of_some]
          exact .cons documents ih

/-- The methods of a class are listed completely, once, and in order. No name occurs twice
or starts with an underscore. The methods come in the order of the positions along the
lookup order that they are taken from, and a public name under which attribute lookup finds
a method is there with that method. The documentation of the class exists unless some
docblock is no text, and then it is that of the listed methods whose docblocks are not
blank, in the same order. -/
theorem public_methods_listed {c : Class} (built : c.Built) :
    (c.publicMethods.map Prod.fst).Nodup ∧
    (∀ m ∈ c.publicMethods, m.1.toList.head? ≠ some '_') ∧
    (∃ positions : List Position, positions.Pairwise Position.Precedes ∧
      List.Forall₂ c.Gives positions c.publicMethods) ∧
    (∀ name o f, name.toList.head? ≠ some '_' → c.attribute? name = some o →
      o.asMethod? = some f → (name, f) ∈ c.publicMethods) ∧
    ((∃ docs, c.methodDocs.result = .ok docs) ↔
      ∀ m ∈ c.publicMethods, ∀ kind, m.2.doc ≠ .other kind) ∧
    ∀ docs, c.methodDocs.result = .ok docs →
      List.Forall₂ Documents (c.publicMethods.filter fun m => m.2.isDocumented) docs := by
  have publicName (name : String) : isPublic name = true ↔ name.toList.head? ≠ some '_' :=
    bne_iff_ne
  have result : c.methodDocs.result =
      (c.publicMethods.mapM docOf).map List.reduceOption :=
    run_collectDocs_fst c.name c.publicMethods []
  refine ⟨nodup_names_collectMethods _ _, ?_, exists_positions c, ?_, ?_, ?_⟩
  · intro m hmem
    exact (publicName m.1).mp (mem_collectMethods_iff.mp hmem).1
  · intro name o f named found method
    refine built.mem_publicMethods_iff.mpr ⟨(publicName name).mpr named, ?_⟩
    exact findSome?_method?_of_findSome?_member? found method
  · have returns : (∃ docs, c.methodDocs.result = .ok docs) ↔
        ∃ found, (c.publicMethods.mapM docOf) = .ok found := by
      rw [result]
      cases c.publicMethods.mapM docOf <;> simp [Except.map]
    rw [returns, exists_mapM_eq_ok_iff]
    exact forall₂_congr fun m _ => exists_methodDoc?_iff
  · intro docs given
    rw [result] at given
    cases found : c.publicMethods.mapM docOf with
    | error fault =>
        rw [found] at given
        cases given
    | ok each =>
        rw [found] at given
        cases given
        exact documents_reduceOption (mapM_eq_ok_iff.mp found)

def diamond : Except Raised Class := do
  let base ← newClass firstFreeId "Base" []
    [("run", .function { doc := .text "Base runs.".toList }),
      ("help", .staticMethod { doc := .text " \n".toList })]
  let left ← newClass (firstFreeId + 1) "Left" [base]
    [("run", .classMethod { doc := .text "Left runs.".toList })]
  let right ← newClass (firstFreeId + 2) "Right" [base]
    [("run", .function { doc := .text "Right runs.".toList }),
      ("extra", .function { doc := .text "More.".toList })]
  newClass (firstFreeId + 3) "Bottom" [left, right] [("own", .function { doc := .absent })]

theorem built_diamond {c : Class} (made : diamond = .ok c) : c.Built := by
  obtain ⟨base, hbase, made⟩ := except_bind_eq_ok.mp made
  obtain ⟨left, hleft, made⟩ := except_bind_eq_ok.mp made
  obtain ⟨right, hright, made⟩ := except_bind_eq_ok.mp made
  have builtBase : base.Built := .derived (Nat.le_refl _) (by simp) (by decide) hbase
  have builtLeft : left.Built :=
    .derived (Nat.le_add_right _ _) (by simpa using builtBase) (by decide) hleft
  have builtRight : right.Built :=
    .derived (Nat.le_add_right _ _) (by simpa using builtBase) (by decide) hright
  exact .derived (Nat.le_add_right _ _) (by simpa using ⟨builtLeft, builtRight⟩) (by decide) made

theorem diamond_listed :
    ∃ c, diamond = .ok c ∧ c.publicMethods.map Prod.fst = ["own", "run", "extra", "help"] ∧
      (∃ positions : List Position, positions.Pairwise Position.Precedes ∧
        List.Forall₂ c.Gives positions c.publicMethods) ∧
      ∃ docs, c.methodDocs.result = .ok docs ∧
        List.Forall₂ Documents (c.publicMethods.filter fun m => m.2.isDocumented) docs := by
  have listed : diamond.toOption.map (fun c => c.publicMethods) =
      some [("own", { doc := .absent }), ("run", { doc := .text "Left runs.".toList }),
        ("extra", { doc := .text "More.".toList }), ("help", { doc := .text " \n".toList })] := by
    decide +kernel
  rcases made : diamond with e | c
  all_goals rw [made] at listed
  · cases listed
  have methods : c.publicMethods = _ := Option.some.inj listed
  obtain ⟨-, -, ordered, -, returns, documents⟩ := public_methods_listed (built_diamond made)
  obtain ⟨docs, given⟩ := returns.mpr (by simp [methods])
  exact ⟨c, rfl, by rw [methods]; rfl, ordered, docs, given, documents docs given⟩

end CommandManual.Script
