import CommandManual.Proofs.Except
import CommandManual.Proofs.Renumber.Objects

/-!
Calls of objects under other numbers, and the text of what they raise.
-/

namespace CommandManual.Script

variable {α β : Type} (r : Renumbering)

def Raised.renumber : Raised → Raised
  | thrown c message => thrown (c.renumber r) message
  | e => e

def Renumbering.outcome (f : α → β) : Except Raised α → Except Raised β
  | .ok a => .ok (f a)
  | .error e => .error (e.renumber r)

namespace Renumbering

@[simp] theorem outcome_ok (f : α → β) (a : α) : r.outcome f (.ok a) = .ok (f a) := rfl

@[simp] theorem outcome_error (f : α → β) (e : Raised) :
    r.outcome f (.error e) = .error (e.renumber r) := rfl

theorem outcome_bind {γ δ : Type} {f : α → β} {g : γ → δ} {x : Except Raised α}
    {k : α → Except Raised γ} {k' : β → Except Raised δ} (h : ∀ a, k' (f a) = r.outcome g (k a)) :
    r.outcome f x >>= k' = r.outcome g (x >>= k) := by
  cases x with
  | error e => rfl
  | ok a => exact h a

end Renumbering

/-! ### Known classes -/

namespace Class

variable (c : Class)

theorem problemId_lt (kind : ProblemKind) : problemId kind < firstOwnId := by
  cases kind <;> exact Nat.add_lt_add_left (by decide) _

@[simp] theorem holder?_renumber (name : String) :
    (c.renumber r).holder? name = (c.holder? name).map (Class.renumber r) := by
  simp [holder?, List.find?_map, Function.comp_def]

@[simp] theorem problemInit?_renumber : (c.renumber r).problemInit? = c.problemInit? := by
  have same (k : Class) (kind : ProblemKind) :
      ((k.renumber r).id == problemId kind) = (k.id == problemId kind) := by
    rw [id_renumber, ← r.classId_of_lt (problemId_lt kind), r.classId_beq,
      r.classId_of_lt (problemId_lt kind)]
  unfold problemInit?
  rw [holder?_renumber, Option.bind_map]
  simp only [Function.comp_def, same]

end Class

@[simp] theorem holderName_renumber (c : Class) (name : String) :
    holderName (c.renumber r) name = holderName c name := by
  unfold holderName
  rw [Class.holder?_renumber]
  cases c.holder? name <;> simp

@[simp] theorem textOf?_renumber (o : Object) : textOf? (o.renumber r) = textOf? o := by
  cases o <;> rfl

@[simp] theorem valueOf?_renumber (o : Object) : valueOf? (o.renumber r) = valueOf? o := by
  cases o <;> rfl

/-- Known classes look at the number of arguments and at the first one. -/
theorem head?_renumber (args : List Object) :
    (args.map (Object.renumber r)).head?.bind textOf? = args.head?.bind textOf? ∧
      (args.map (Object.renumber r)).head?.map Object.kindName =
        args.head?.map Object.kindName := by
  cases args with
  | nil => exact ⟨rfl, rfl⟩
  | cons o rest => simp

theorem refusedByNew?_renumber (className : String) (args : List Object) :
    refusedByNew? className (args.map (Object.renumber r)) = refusedByNew? className args := by
  obtain ⟨texts, kinds⟩ := head?_renumber r args
  unfold refusedByNew?
  rw [texts, kinds, List.length_map]

theorem refusedByInit?_renumber (className : String) (args : List Object) :
    refusedByInit? className (args.map (Object.renumber r)) = refusedByInit? className args := by
  obtain ⟨texts, -⟩ := head?_renumber r args
  unfold refusedByInit?
  rw [texts, List.length_map]

/-! ### Making and calling -/

/-- Calls of objects under other numbers give what they give, under other numbers. -/
def Caller.Blind (call : Caller) : Prop :=
  ∀ o args, call (o.renumber r) (args.map (Object.renumber r)) =
    r.outcome (Object.renumber r) (call o args)

theorem setUp_renumber {call : Caller} (blind : call.Blind r) (c : Class) (args : List Object) :
    setUp call (c.renumber r) (args.map (Object.renumber r)) =
      r.outcome (Object.renumber r) (setUp call c args) := by
  unfold setUp
  dsimp only
  rw [Class.declared?_renumber, Class.problemInit?_renumber, List.length_map,
    holderName_renumber, refusedByInit?_renumber]
  cases c.declared? "__init__" with
  | none =>
      cases refusedByInit? (holderName c "__init__") args <;> rfl
  | some init =>
      cases c.problemInit? with
      | some kind =>
          dsimp only [Option.map_some]
          split <;> rfl
      | none =>
          have told := blind ((Object.bound? c (.objectOf c) init).getD init) args
          have onSelf := Object.getD_bound?_renumber r (.objectOf c) c init
          rw [Object.renumber] at onSelf
          dsimp only [Option.map_some]
          rw [onSelf, told]
          refine r.outcome_bind fun o => ?_
          cases o with
          | value v => cases v <;> rfl
          | _ => simp [Object.renumber, Raised.renumber, Object.kindName, Object.className]

theorem construct_renumber {call : Caller} (blind : call.Blind r) (c : Class)
    (args : List Object) :
    construct call (c.renumber r) (args.map (Object.renumber r)) =
      r.outcome (Object.renumber r) (construct call c args) := by
  unfold construct
  rw [Class.declared?_renumber]
  cases c.declared? "__new__" with
  | some make =>
      dsimp only [Option.map_some]
      rw [Object.onClass_renumber]
      have told : call ((make.onClass c).renumber r)
          (.cls (c.renumber r) :: args.map (Object.renumber r)) = _ :=
        blind (make.onClass c) (.cls c :: args)
      rw [told]
      refine r.outcome_bind fun made => ?_
      cases made with
      | objectOf k =>
          -- An object of the class or of one below it is set up, any other is given back.
          simp only [Object.renumber, Class.id_renumber, Class.inherits_renumber]
          split
          · exact setUp_renumber r blind k args
          · rfl
      | _ => rfl
  | none =>
      dsimp only [Option.map_none]
      rw [holderName_renumber, holderName_renumber, Class.isKnown_renumber, Class.name_renumber,
        List.length_map, List.isEmpty_map, refusedByNew?_renumber]
      split
      · cases args with
        | nil => rfl
        | cons o rest => simp [Object.renumber]
      · split
        · rfl
        · cases refusedByNew? (holderName c "__new__") args with
          | some refusal => rfl
          | none => exact setUp_renumber r blind c args

theorem callWithin_renumber (depth : Nat) : (callWithin depth).Blind r := by
  induction depth with
  | zero => exact fun _ _ => rfl
  | succ depth ih =>
      intro o args
      have result (f : Function) : f.result.renumber r = f.result := by
        unfold Function.result
        split <;> rfl
      have other (o : Object) :
          (if ((o.renumber r).classOf.attribute? "__call__").isSome then .ok (.value .null)
            else .error (.misuse (.notCallable (o.renumber r).kindName)) : Except Raised Object) =
          r.outcome (Object.renumber r)
            (if (o.classOf.attribute? "__call__").isSome then .ok (.value .null)
              else .error (.misuse (.notCallable o.kindName))) := by
        rw [classOf_renumber, Class.attribute?_renumber, Option.isSome_map,
          Object.kindName_renumber]
        split <;> rfl
      cases o with
      | function f => exact congrArg Except.ok (result f).symm
      | staticMethod f => exact congrArg Except.ok (result f).symm
      | boundMethod f self => exact congrArg Except.ok (result f).symm
      | callable => rfl
      | cls c => exact construct_renumber r ih c args
      | objectOf c =>
          have called := Object.bind_bound?_renumber r (.objectOf c) (c.declared? "__call__") c
          rw [← Class.declared?_renumber] at called
          simp only [Object.renumber] at called ⊢
          unfold callWithin
          dsimp only
          rw [called]
          cases (c.declared? "__call__").bind (Object.bound? c (.objectOf c)) with
          | none => simp [Raised.renumber, Object.kindName, Object.className]
          | some call => exact ih call args
      | pathMethod name => rfl
      | other kind =>
          by_cases quits : kind = "Quitter"
          · subst quits
            show Except.error (Raised.thrown _ _) = Except.error (Raised.thrown _ _)
            rw [renumber_knownClass]
            cases args with
            | nil => rfl
            | cons o rest =>
                exact congrArg (fun v => Except.error (Raised.thrown (knownClass "SystemExit") v))
                  (valueOf?_renumber r o)
          -- Every other kind is called like a value, and its name has no number.
          · have given (args : List Object) : callWithin (depth + 1) (.other kind) args =
                if ((Object.other kind).classOf.attribute? "__call__").isSome then
                  .ok (.value .null)
                else .error (.misuse (.notCallable (Object.other kind).kindName)) := by
              unfold callWithin
              split
              case h_8 heq => exact absurd (Object.other.inj heq) quits
              all_goals first | rfl | contradiction
            rw [Object.renumber, given, given]
            exact other (.other kind)
      | classMethod f => exact other (.classMethod f)
      | property f => exact other (.property f)
      | value v => exact other (.value v)
      | module index => exact other (.module index)
      | computed kind gives => exact other (.computed kind gives)
      | searchPath => exact other .searchPath

theorem call_renumber (o : Object) (args : List Object) :
    call (o.renumber r) (args.map (Object.renumber r)) =
      r.outcome (Object.renumber r) (call o args) :=
  callWithin_renumber r callDepth o args

theorem askDeclared_renumber (c : Class) (name : String) (args : List Object) :
    askDeclared (c.renumber r) name (args.map (Object.renumber r)) =
      (askDeclared c name args).map (r.outcome (Object.renumber r)) := by
  unfold askDeclared
  rw [Class.declared?_renumber]
  cases c.declared? name with
  | none => rfl
  | some member =>
      have onSelf := Object.getD_bound?_renumber r (.objectOf c) c member
      exact congrArg some ((congrArg (call · _) onSelf).trans (call_renumber r _ args))

/-! ### What is raised -/

theorem raisedBy_renumber (o : Object) (message : Option Value) :
    raisedBy (o.renumber r) message = (raisedBy o message).renumber r := by
  have args : message.toList.map Object.value =
      (message.toList.map Object.value).map (Object.renumber r) := by
    rw [List.map_map]
    rfl
  unfold raisedBy
  rw [args, call_renumber, ← args]
  rcases call o (message.toList.map Object.value) with e | made
  · rfl
  · cases made with
    | objectOf c =>
        simp only [Renumbering.outcome_ok, Object.renumber, Class.isError_renumber]
        split <;> rfl
    | _ => rfl

theorem knownText_renumber (c : Class) (message : Option Value) :
    knownText (c.renumber r) message = knownText c message := by
  have kept : keptMessage (c.renumber r) message = keptMessage c message := by
    simp only [keptMessage, Class.problemInit?_renumber, Class.isError_renumber,
      Class.declared?_renumber, Option.isSome_map]
  simp only [knownText, kept, holderName_renumber, Class.declared?_renumber, Option.isSome_map]

theorem textOrFault_renumber (fault : String → ObjectFault) (o : Object) :
    textOrFault fault (o.renumber r) = r.outcome id (textOrFault fault o) := by
  unfold textOrFault
  rw [textOf?_renumber, Object.kindName_renumber]
  cases textOf? o <;> rfl

namespace Raised

variable (e : Raised)

@[simp] theorem isOrdinary_renumber : (e.renumber r).isOrdinary = e.isOrdinary := by
  cases e <;> simp [renumber, isOrdinary]

@[simp] theorem isMissingAttribute_renumber :
    (e.renumber r).isMissingAttribute = e.isMissingAttribute := by
  cases e <;> simp [renumber, isMissingAttribute]

theorem text_renumber : (e.renumber r).text = r.outcome id e.text := by
  cases e with
  | thrown c message =>
      have asked : askDeclared (c.renumber r) "__str__" [] = _ :=
        askDeclared_renumber r c "__str__" []
      simp only [renumber, text]
      rw [asked]
      cases askDeclared c "__str__" [] with
      | none => exact congrArg Except.ok (knownText_renumber r c message)
      | some answer => exact r.outcome_bind fun o => textOrFault_renumber r _ o
  | _ => rfl

theorem formatted_renumber : (e.renumber r).formatted = r.outcome id e.formatted := by
  cases e with
  | thrown c message =>
      have asked : askDeclared (c.renumber r) "__format__" [.value (.str "")] = _ :=
        askDeclared_renumber r c "__format__" [.value (.str "")]
      simp only [renumber, formatted]
      rw [asked]
      cases askDeclared c "__format__" [.value (.str "")] with
      | none => exact text_renumber r (.thrown c message)
      | some answer => exact r.outcome_bind fun o => textOrFault_renumber r _ o
  | _ => rfl

end Raised

end CommandManual.Script
