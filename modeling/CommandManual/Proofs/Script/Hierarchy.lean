import CommandManual.Proofs.Data.Keys
import CommandManual.Proofs.Except
import CommandManual.Script.NewClass
import Mathlib.Data.List.Nodup

/-!
The classes that there are. A class is known, or the program offers it, or it is made
from the finished body of a class block and from bases that are there already. Such a
body holds each name once, as do the methods that known classes bring along, so the
members of a class that are listed and those that are looked up are the same as far as
methods go: `Built.listsMethods`.
-/

namespace CommandManual.Script

/-! ### Members in order and members by name -/

def methodAmong (name : String) (members : List (String × Object)) : Option Function :=
  members.findSome? fun m => if m.1 = name then m.2.asMethod? else none

theorem methodAmong_cons (name : String) (m : String × Object)
    (rest : List (String × Object)) :
    methodAmong name (m :: rest) =
      (if m.1 = name then m.2.asMethod? else none).or (methodAmong name rest) := by
  rw [methodAmong, List.findSome?_cons, methodAmong]
  rcases (if m.1 = name then m.2.asMethod? else none) with _ | f <;> rfl

theorem methodAmong_append (name : String) (members more : List (String × Object)) :
    methodAmong name (members ++ more) =
      (methodAmong name members).or (methodAmong name more) :=
  List.findSome?_append

theorem methodAmong_eq_none_of_not_mem {name : String} {members : List (String × Object)}
    (h : name ∉ members.map Prod.fst) : methodAmong name members = none := by
  refine List.findSome?_eq_none_iff.mpr fun m hm => if_neg ?_
  rintro rfl
  exact h (List.mem_map_of_mem hm)

/-- Where each name stands once, the first method under a name is what the name
stands for, if that is a method. -/
theorem methodAmong_eq_of_nodup {name : String} {members : List (String × Object)}
    (h : (members.map Prod.fst).Nodup) :
    methodAmong name members = (members.lookup name).bind Object.asMethod? := by
  induction members with
  | nil => rfl
  | cons m rest ih =>
      obtain ⟨key, o⟩ := m
      obtain ⟨hkey, hrest⟩ := List.nodup_cons.mp h
      rw [methodAmong_cons]
      by_cases hname : key = name
      · subst hname
        rw [if_pos rfl, methodAmong_eq_none_of_not_mem hkey, Option.or_none,
          List.lookup_cons_self]
        rfl
      · rw [if_neg hname, Option.none_or, ih hrest, List.lookup_cons,
          beq_false_of_ne (Ne.symm hname)]

theorem methodAmong_eq_none {name : String} {members : List (String × Object)}
    (h : ∀ m ∈ members, m.2.asMethod? = none) : methodAmong name members = none := by
  refine List.findSome?_eq_none_iff.mpr fun m hm => ?_
  split
  · exact h m hm
  · rfl

def Class.method? (c : Class) (name : String) : Option Function :=
  (c.member? name).bind Object.asMethod?

/-- The members that a class lists have the methods that are found in it by name. -/
def Class.ListsMethods (c : Class) : Prop :=
  ∀ name, methodAmong name c.own = c.method? name

theorem Class.member?_of_isKnown_eq_false {c : Class} (h : c.isKnown = false)
    (name : String) : c.member? name = c.own.lookup name := by
  rw [Class.member?, h]
  cases c.own.lookup name <;> rfl

/-! ### Known classes -/

theorem asMethod?_tableObject {className kind : String} {letter : Char}
    (h : ['f', 's', 'k'].contains letter = false) :
    (tableObject className letter kind).asMethod? = none := by
  unfold tableObject
  split
  case h_1 | h_2 | h_3 => cases h
  case h_7 | h_8 =>
    unfold Object.ofKind
    split <;> rfl
  all_goals rfl

theorem mem_tableMembers_iff {className : String} {chosen : Char → Bool}
    {m : String × Object} :
    m ∈ tableMembers className chosen ↔
      ∃ line ∈ (knownTable.lookup className).getD [], chosen line.1 = true ∧
        m ∈ lineMembers className line := by
  simp only [tableMembers, List.mem_flatMap, List.mem_filter, and_assoc]

/-- A known class brings along all its methods. -/
theorem mem_ownMethods_of_asMethod? {className : String} {m : String × Object} {f : Function}
    (hm : m ∈ tableMembers className (· != 'i')) (hf : m.2.asMethod? = some f) :
    m ∈ ownMethods className := by
  obtain ⟨line, hline, -, hmem⟩ := mem_tableMembers_iff.mp hm
  refine mem_tableMembers_iff.mpr ⟨line, hline, ?_, hmem⟩
  by_contra hletter
  obtain ⟨w, -, rfl⟩ := List.mem_map.mp hmem
  rw [asMethod?_tableObject (Bool.eq_false_iff.mpr hletter)] at hf
  cases hf

theorem nodup_ownMethods (className : String) :
    ((ownMethods className).map Prod.fst).Nodup := by
  have table : ∀ entry ∈ knownTable, (((entry.2.filter fun line =>
      ['f', 's', 'k'].contains line.1).flatMap (lineMembers entry.1)).map Prod.fst).Nodup := by
    decide +kernel
  unfold ownMethods tableMembers
  rcases hlines : knownTable.lookup className with _ | lines
  · exact List.nodup_nil
  · exact table (className, lines) (mem_of_lookup hlines)

theorem listsMethods_of_ownMethods {c : Class} (h : c.own = ownMethods c.name) :
    c.ListsMethods := by
  intro name
  rw [methodAmong_eq_of_nodup (by rw [h]; exact nodup_ownMethods c.name), Class.method?,
    Class.member?]
  rcases hown : c.own.lookup name with _ | o
  · show none = (if c.isKnown then knownMember? c.name name else none).bind Object.asMethod?
    split
    · rcases hmember : knownMember? c.name name with _ | o
      · rfl
      · rcases hmethod : o.asMethod? with _ | f
        · exact hmethod.symm
        · -- The method would be listed, so looking it up could not have failed.
          have hlisted := mem_ownMethods_of_asMethod? (mem_of_lookup hmember) hmethod
          rw [← h] at hlisted
          have hne := List.lookup_eq_none_iff.mp hown _ hlisted
          simp at hne
    · rfl
  · rfl

theorem own_object : Class.object.own = ownMethods Class.object.name := rfl

theorem own_of_mem_buildKnown {next : Nat} {known : List (String × Class)}
    {rest : List (String × String)}
    (h : ∀ p ∈ known, ∀ k ∈ p.2.lineage, k.own = ownMethods k.name) :
    ∀ p ∈ buildKnown next known rest, ∀ k ∈ p.2.lineage, k.own = ownMethods k.name := by
  induction rest generalizing next known with
  | nil => exact h
  | cons entry rest ih =>
      obtain ⟨name, parent⟩ := entry
      -- A parent stands in the table already, or counts as `object`.
      have lineageOf (parent : String) :
          ∀ k ∈ ((known.lookup parent).map Class.lineage).getD [Class.object],
            k.own = ownMethods k.name := by
        rcases hlookup : known.lookup parent with _ | c
        · intro k hk
          rw [List.mem_singleton.mp hk]
          exact own_object
        · exact h (parent, c) (mem_of_lookup hlookup)
      unfold buildKnown
      refine ih ?_
      intro p hp k hk
      rcases List.mem_append.mp hp with hp | hp
      · exact h p hp k hk
      · rw [List.mem_singleton.mp hp] at hk
        rcases List.mem_cons.mp hk with rfl | hk
        · rfl
        · dsimp only [Class.ancestors] at hk
          split at hk
          · exact lineageOf parent k hk
          · rcases List.mem_append.mp hk with hk | hk
            · exact lineageOf parent k (List.mem_of_mem_filter hk)
            · exact lineageOf _ k hk

theorem listsMethods_of_mem_knownByName {name : String} {c : Class}
    (listed : (name, c) ∈ knownByName) : ∀ k ∈ c.lineage, k.ListsMethods := by
  intro k hk
  refine listsMethods_of_ownMethods (own_of_mem_buildKnown ?_ _ listed k hk)
  intro p hp
  cases hp

theorem listsMethods_object : Class.object.ListsMethods := listsMethods_of_ownMethods own_object

theorem listsMethods_knownClass (name : String) :
    ∀ k ∈ (knownClass name).lineage, k.ListsMethods := by
  intro k hk
  unfold knownClass at hk
  split at hk
  · rw [List.mem_singleton.mp hk]
    exact listsMethods_object
  · rcases hlookup : knownByName.lookup name with _ | c
    · rw [hlookup] at hk
      rcases List.mem_cons.mp hk with rfl | hk
      · -- A class without members has no methods either way.
        intro key
        rfl
      · rw [List.mem_singleton.mp hk]
        exact listsMethods_object
    · rw [hlookup] at hk
      exact listsMethods_of_mem_knownByName (mem_of_lookup hlookup) k hk

/-! ### Classes of problems -/

theorem listsMethods_of_nodup {c : Class} (unknown : c.isKnown = false)
    (h : (c.own.map Prod.fst).Nodup) : c.ListsMethods := by
  intro name
  rw [Class.method?, Class.member?_of_isKnown_eq_false unknown, methodAmong_eq_of_nodup h]

theorem listsMethods_problemClass (kind : ProblemKind) :
    ∀ k ∈ (problemClass kind).lineage, k.ListsMethods := by
  have general : ∀ k ∈ generalProblemClass.lineage, k.ListsMethods := by
    intro k hk
    rcases List.mem_cons.mp hk with rfl | hk
    · exact listsMethods_of_nodup (by decide) (by decide)
    · exact listsMethods_knownClass "Exception" k hk
  have named (id : Nat) (unknown : firstFreeId ≤ id) (name : String) (f : Function) :
      ∀ k ∈ (Class.mk id name (problemMembers ++ [("__init__", .function f)])
        generalProblemClass.lineage).lineage, k.ListsMethods := by
    intro k hk
    rcases List.mem_cons.mp hk with rfl | hk
    · exact listsMethods_of_nodup (decide_eq_false (Nat.not_lt.mpr unknown)) (by
        show ["__module__", "__doc__", "__init__"].Nodup
        decide)
    · exact general k hk
  cases kind with
  | general => exact general
  | configuration => exact named _ (Nat.le_add_right _ _) _ _
  | classNotFound => exact named _ (Nat.le_add_right _ _) _ _
  | fileWrite => exact named _ (Nat.le_add_right _ _) _ _

/-! ### New classes -/

/-- What slots, or their absence, add to the members are no methods. -/
theorem asMethod?_of_mem_slotMembers {base : Class} {slots : Option (List String)}
    {m : String × Object} (hm : m ∈ slotMembers base slots) : m.2.asMethod? = none := by
  simp only [slotMembers, List.mem_append, List.mem_map] at hm
  rcases hm with (⟨n, -, rfl⟩ | hm) | hm
  · rfl
  · split at hm
    · rw [List.mem_singleton.mp hm]
      rfl
    · cases hm
  · split at hm
    · rw [List.mem_singleton.mp hm]
      rfl
    · cases hm

theorem settled_fst (m : String × Object) : (settled m).1 = m.1 := by
  unfold settled
  split <;> rfl

/-- Members that are added to a body whose names stand once, and are no methods,
change nothing about its methods. -/
theorem methodAmong_addMissing {own more : List (String × Object)} {name : String}
    (hown : (own.map Prod.fst).Nodup) (hmore : ∀ m ∈ more, m.2.asMethod? = none) :
    methodAmong name (addMissing own more) =
      ((addMissing own more).lookup name).bind Object.asMethod? := by
  obtain ⟨added, hadd, hadded⟩ : ∃ added, addMissing own more = own ++ added ∧
      ∀ m ∈ added, m.2.asMethod? = none :=
    ⟨_, rfl, fun m hm => hmore m (List.mem_of_mem_filter hm)⟩
  rw [hadd, methodAmong_append, methodAmong_eq_none hadded, Option.or_none,
    methodAmong_eq_of_nodup hown, List.lookup_append]
  rcases own.lookup name with _ | o
  · rw [Option.none_or]
    rcases hlookup : added.lookup name with _ | o
    · rfl
    · exact (hadded _ (mem_of_lookup hlookup)).symm
  · rfl

theorem methodAmong_membersOf {own more : List (String × Object)} {name : String}
    (hown : (own.map Prod.fst).Nodup) (hmore : ∀ m ∈ more, m.2.asMethod? = none) :
    methodAmong name (membersOf own more) =
      ((membersOf own more).lookup name).bind Object.asMethod? := by
  refine methodAmong_addMissing ?_ ?_
  · have hkeys : Prod.fst ∘ settled = Prod.fst := funext settled_fst
    rw [List.map_map, hkeys]
    exact hown.sublist (List.filter_sublist.map Prod.fst)
  · intro m hm
    rcases List.mem_append.mp hm with hm | hm
    · rcases List.mem_append.mp hm with hm | hm
      · exact hmore m hm
      · rw [List.mem_singleton.mp hm]
        rfl
    · split at hm
      · rw [List.mem_singleton.mp hm]
        rfl
      · cases hm

/-- What a finished body makes when nothing goes wrong. -/
theorem newClass_eq_ok {id : Nat} {name : String} {bases : List Class}
    {own : List (String × Object)} {c : Class} (h : newClass id name bases own = .ok c) :
    ∃ base slots ancestors, lookupOrder bases = .ok ancestors ∧
      c = .mk id name (membersOf own (slotMembers base slots)) ancestors := by
  unfold newClass at h
  obtain ⟨base, -, h⟩ := except_bind_eq_ok.mp h
  obtain ⟨slots, -, h⟩ := except_bind_eq_ok.mp h
  obtain ⟨_, -, h⟩ := except_bind_eq_ok.mp h
  obtain ⟨ancestors, horder, h⟩ := except_bind_eq_ok.mp h
  obtain ⟨_, -, h⟩ := except_bind_eq_ok.mp h
  cases h
  refine ⟨base, slots, ancestors, ?_, rfl⟩
  rcases hlookup : lookupOrder bases with e | order
  · rw [hlookup] at horder
    cases horder
  · rw [hlookup] at horder
    cases horder
    rfl

/-! ### Lookup order -/

theorem mem_of_nextClass? {lists : List (List Class)} {c : Class}
    (h : nextClass? lists = some c) : ∃ l ∈ lists, c ∈ l := by
  obtain ⟨l, hl, hhead⟩ := List.mem_filterMap.mp (List.mem_of_find?_eq_some h)
  exact ⟨l, hl, List.mem_of_mem_head? hhead⟩

theorem mem_of_mem_dropHead {c k : Class} {l : List Class} (h : k ∈ dropHead c l) : k ∈ l := by
  unfold dropHead at h
  split at h
  · cases h
  · split at h
    · exact List.mem_cons_of_mem _ h
    · exact h

/-- Merging lookup orders brings in no class from elsewhere. -/
theorem mem_of_mem_mergeOrders {fuel : Nat} {lists : List (List Class)} {order : List Class}
    (h : mergeOrders fuel lists = .ok order) : ∀ k ∈ order, ∃ l ∈ lists, k ∈ l := by
  induction fuel generalizing lists order with
  | zero =>
      cases h
      intro k hk
      cases hk
  | succ fuel ih =>
      unfold mergeOrders at h
      split at h
      · rename_i c hnext
        obtain ⟨rest, hrest, h⟩ := except_bind_eq_ok.mp h
        cases h
        intro k hk
        rcases List.mem_cons.mp hk with rfl | hk
        · exact mem_of_nextClass? hnext
        · obtain ⟨_, hdropped, hk⟩ := ih hrest k hk
          obtain ⟨l, hl, rfl⟩ := List.mem_map.mp hdropped
          exact ⟨l, hl, mem_of_mem_dropHead hk⟩
      · dsimp only at h
        split at h
        · cases h
          intro k hk
          cases hk
        · cases h

theorem mem_of_mem_lookupOrder {bases order : List Class} (h : lookupOrder bases = .ok order) :
    ∀ k ∈ order, k = Class.object ∨ ∃ base ∈ bases, k ∈ base.lineage := by
  intro k hk
  have roots {base : Class} (hbase : base ∈ if bases.isEmpty then [Class.object] else bases)
      (hk : k ∈ base.lineage) : k = Class.object ∨ ∃ base ∈ bases, k ∈ base.lineage := by
    split at hbase
    · rw [List.mem_singleton.mp hbase] at hk
      exact .inl (List.mem_singleton.mp hk)
    · exact .inr ⟨base, hbase, hk⟩
  unfold lookupOrder at h
  dsimp only at h
  split at h
  · cases h
  split at h
  · rename_i order' hmerge
    cases h
    obtain ⟨l, hl, hmem⟩ := mem_of_mem_mergeOrders hmerge k hk
    rcases List.mem_append.mp hl with hl | hl
    · obtain ⟨base, hbase, rfl⟩ := List.mem_map.mp hl
      exact roots hbase hmem
    · rw [List.mem_singleton.mp hl] at hmem
      exact roots hmem List.mem_cons_self
  · cases h

/-! ### Class hierarchies -/

/-- The classes that there are: the known ones, those of the program's own problems, and
those that are made from bases that are there and a finished body, in which each name
stands once. -/
inductive Class.Built : Class → Prop
  | object : Built Class.object
  | known {name : String} {c : Class} (listed : (name, c) ∈ knownByName) : Built c
  | problem (kind : ProblemKind) : Built (problemClass kind)
  | derived {id : Nat} {name : String} {bases : List Class} {own : List (String × Object)}
      {c : Class} (fresh : firstFreeId ≤ id) (built : ∀ base ∈ bases, Built base)
      (body : (own.map Prod.fst).Nodup) (made : newClass id name bases own = .ok c) : Built c

theorem listsMethods_of_newClass {id : Nat} {name : String} {bases : List Class}
    {own : List (String × Object)} {c : Class} (fresh : firstFreeId ≤ id)
    (body : (own.map Prod.fst).Nodup) (made : newClass id name bases own = .ok c) :
    c.ListsMethods := by
  obtain ⟨base, slots, ancestors, -, rfl⟩ := newClass_eq_ok made
  have unknown : (Class.mk id name (membersOf own (slotMembers base slots)) ancestors).isKnown =
      false := decide_eq_false (Nat.not_lt.mpr fresh)
  intro key
  rw [Class.method?, Class.member?_of_isKnown_eq_false unknown]
  exact methodAmong_membersOf body fun _ => asMethod?_of_mem_slotMembers

/-- Every class in the lookup order of a class lists its methods. -/
theorem Class.Built.listsMethods {c : Class} (built : c.Built) :
    ∀ k ∈ c.lineage, k.ListsMethods := by
  induction built with
  | object =>
      intro k hk
      rw [List.mem_singleton.mp hk]
      exact listsMethods_object
  | known listed => exact listsMethods_of_mem_knownByName listed
  | problem kind => exact listsMethods_problemClass kind
  | derived fresh built body made ih =>
      intro k hk
      have itself := listsMethods_of_newClass fresh body made
      obtain ⟨base, slots, ancestors, horder, rfl⟩ := newClass_eq_ok made
      rcases List.mem_cons.mp hk with rfl | hk
      · exact itself
      · rcases mem_of_mem_lookupOrder horder k hk with rfl | ⟨base, hbase, hk⟩
        · exact listsMethods_object
        · exact ih base hbase k hk

end CommandManual.Script
