import Mathlib.Logic.Relation
import ModuleSpec.Proofs.Lowering.Depth
import ModuleSpec.Proofs.Schema.Occurrence

/-!
# What a lowering turns to

While an annotation is being lowered, the lowering turns to the annotations at
the positions beneath what it found: the element of an array, the types of the
properties of an object, of the parameters of a function and of its result.  It
turns to a later one only when those before it have been lowered, and with every
fault let through a fault of one of them keeps it from the others.

`Frame.TurnsTo` is the relation between an annotation being lowered and one that
the lowering turns to from it.  A chain of it is what is in progress at one time.

**Results.**  From what is no array, no object and no function, lowering turns to
nothing and ends at once (`immediate_lowerStep`).  A step terminates exactly when all lowerings that it
turns to do (`terminates_lowerStep_iff_forall`).  So does a lowering
(`Frame.terminates_iff`), and what it turns to takes less depth
(`Frame.TurnsTo.terminates_within`).
-/

namespace ModuleSpec

/-! ## Positions -/

namespace Ty

/-- The element of an array, however the array is written. -/
def element? : Ty → Option Ty
  | array t _ => some t
  | operator word (array t _) _ => if word == "readonly" then some t else none
  | reference name (some [t]) _ =>
      if name = "Array" ∨ name = "ReadonlyArray" then some t else none
  | _ => none

/-- The annotation is no array, no object and no function. -/
def Bare : Ty → Prop
  | object .. => False
  | function .. => False
  | t => t.element? = none

theorem bare_cases
    (t : Ty) :
    (∃ u, t.element? = some u) ∨ (∃ members span, t = .object members span) ∨
      (∃ params result span, t = .function params result span) ∨ t.Bare := by
  cases helement : t.element? with
  | some u =>
      exact .inl ⟨u, rfl⟩
  | none =>
      cases t with
      | object members span => exact .inr (.inl ⟨members, span, rfl⟩)
      | function params result span => exact .inr (.inr (.inl ⟨params, result, span, rfl⟩))
      | _ => exact .inr (.inr (.inr helement))

/-- The second annotation stands where the lowering of the first descends to. -/
inductive DescendsTo : Ty → Ty → Prop
  | element
      {t u : Ty}
      (hu : t.element? = some u) :
      DescendsTo t u
  | property
      {members : List Member}
      {name : String}
      {u : Ty}
      {optional : Bool}
      {inner : Span}
      (outer : Span)
      (hm : .property name (some u) optional inner ∈ members) :
      DescendsTo (.object members outer) u
  | param
      {params : List Param}
      {p : Param}
      {u : Ty}
      (result : Option Ty)
      (span : Span)
      (hp : p ∈ params)
      (hu : p.type = some u) :
      DescendsTo (.function params result span) u
  | result
      (params : List Param)
      (u : Ty)
      (span : Span) :
      DescendsTo (.function params (some u) span) u

theorem beneath_of_element?
    {t u : Ty}
    (h : t.element? = some u) :
    u.Beneath t := by
  unfold element? at h
  split at h
  · cases h
    exact .element _ _
  · rw [Option.ite_none_right_eq_some] at h
    obtain ⟨-, h⟩ := h
    cases h
    exact .operand _ _ _ _
  · rw [Option.ite_none_right_eq_some] at h
    obtain ⟨-, h⟩ := h
    cases h
    exact .typeArg _ _ _
  · cases h

theorem DescendsTo.beneath
    {t u : Ty}
    (h : t.DescendsTo u) :
    u.Beneath t := by
  cases h with
  | element hu => exact beneath_of_element? hu
  | property outer hm => exact .property outer hm
  | param result span hp hu => exact .param result span hp hu
  | result params u span => exact .result params _ span

end Ty

/-! ## Parts of a step that are run in order -/

/-- The properties of an object that have no fault which is accepted. -/
def lowerMembers
    (lower : Lower)
    (scope : Scope)
    (members : List Member) :
    Lowering (List Shape) :=
  Lowering.collect (fun m => scope.capture.guard (lowerObjectMember lower scope m)) members

/-- The parameters of a function that have no fault which is accepted. -/
def lowerParams
    (lower : Lower)
    (scope : Scope)
    (params : List Param) :
    Lowering (List Shape) :=
  Lowering.collect (fun p => scope.capture.guard (lowerParam lower scope p)) params

/-! ## Termination of what a lowering is put together from -/

namespace Lowering

section Rules

variable {α β : Type}

@[simp]
theorem terminates_pure
    (a : α) :
    (pure a : Lowering α).Terminates :=
  nofun

@[simp]
theorem terminates_raise
    (f : Fault) :
    (raise f : Lowering α).Terminates :=
  nofun

@[simp]
theorem terminates_emptyUnion :
    (halt .emptyUnion : Lowering α).Terminates :=
  nofun

@[simp]
theorem terminates_emit
    (e : Event) :
    (emit e).Terminates :=
  nofun

/-- A sequence terminates when the first does, and the second on its value. -/
theorem terminates_bind_iff
    {x : Lowering α}
    {f : α → Lowering β} :
    (x >>= f).Terminates ↔
      x.Terminates ∧ ∀ a, x.outcome = .ok a → (f a).Terminates := by
  obtain ⟨(_ | _ | _) | a, events⟩ := x <;>
    simp [Terminates, bind_error, bind_ok]

@[simp]
theorem terminates_attempt
    {x : Lowering α} :
    x.attempt.Terminates ↔ x.Terminates := by
  obtain ⟨(_ | _ | _) | a, events⟩ := x <;>
    simp [Terminates, attempt]

@[simp]
theorem terminates_record
    (c : Capture)
    (f : Fault) :
    (c.record f).Terminates := by
  unfold Capture.record
  split
  · exact terminates_emit _
  · exact terminates_raise f

@[simp]
theorem terminates_guard
    (c : Capture)
    {x : Lowering α} :
    (c.guard x).Terminates ↔ x.Terminates := by
  unfold Capture.guard
  rw [terminates_bind_iff, terminates_attempt]
  refine and_iff_left fun r hr => ?_
  cases r with
  | ok a =>
      exact terminates_pure _
  | error f =>
      exact terminates_bind_iff.2 ⟨terminates_record c f, fun _ _ => terminates_pure _⟩

theorem outcome_bind_eq_ok_iff
    {x : Lowering α}
    {f : α → Lowering β}
    {b : β} :
    (x >>= f).outcome = .ok b ↔
      ∃ a, x.outcome = .ok a ∧ (f a).outcome = .ok b := by
  obtain ⟨h | a, events⟩ := x <;>
    simp [bind_error, bind_ok]

theorem outcome_collect_cons_iff
    {f : α → Lowering (Option β)}
    {a : α}
    {as : List α}
    {bs : List β} :
    (collect f (a :: as)).outcome = .ok bs ↔
      ∃ o cs, (f a).outcome = .ok o ∧ (collect f as).outcome = .ok cs ∧ bs = o.toList ++ cs := by
  simp only [collect, outcome_bind_eq_ok_iff]
  constructor
  · rintro ⟨o, ho, cs, hcs, hbs⟩
    exact ⟨o, cs, ho, hcs, (Except.ok.inj hbs).symm⟩
  · rintro ⟨o, cs, ho, hcs, rfl⟩
    exact ⟨o, ho, cs, hcs, rfl⟩

theorem terminates_collect_cons_iff
    {f : α → Lowering (Option β)}
    {a : α}
    {as : List α} :
    (collect f (a :: as)).Terminates ↔
      (f a).Terminates ∧ ∀ o, (f a).outcome = .ok o → (collect f as).Terminates := by
  simp only [collect, terminates_bind_iff, terminates_pure, implies_true, and_true]

/-- A list is lowered to an end when each entry is that the lowering comes to. -/
theorem terminates_collect_iff
    {f : α → Lowering (Option β)}
    {as : List α} :
    (collect f as).Terminates ↔
      ∀ before a after bs, as = before ++ a :: after →
        (collect f before).outcome = .ok bs → (f a).Terminates := by
  induction as with
  | nil =>
      simp [collect]
  | cons c as ih =>
      rw [terminates_collect_cons_iff, ih]
      constructor
      · rintro ⟨hc, has⟩ before a after bs heq hbefore
        cases before with
        | nil =>
            cases heq
            exact hc
        | cons d before =>
            cases heq
            obtain ⟨o, cs, ho, hcs, -⟩ := outcome_collect_cons_iff.1 hbefore
            exact has o ho before a after cs rfl hcs
      · intro h
        refine ⟨h [] c as [] rfl rfl, ?_⟩
        rintro o ho before a after cs rfl hcs
        exact h (c :: before) a after _ rfl (outcome_collect_cons_iff.2 ⟨o, cs, ho, hcs, rfl⟩)

/-- What stands first in a list that is lowered to an end is lowered to an end. -/
theorem terminates_collect_of_append
    {f : α → Lowering (Option β)}
    {as bs : List α}
    (h : (collect f (as ++ bs)).Terminates) :
    (collect f as).Terminates := by
  rw [terminates_collect_iff] at h ⊢
  rintro before a after cs rfl hbefore
  exact h before a (after ++ bs) cs (by simp) hbefore

end Rules

end Lowering

/-! ## Frames -/

/-- An annotation that is lowered in a scope. -/
structure Frame where
  scope : Scope
  type : Ty

namespace Frame

/-- What the annotation stands for. -/
def found (a : Frame) : Resolved :=
  a.scope.types.resolve a.type

/-- The last name followed to find what the annotation stands for. -/
def name? (a : Frame) : Option String :=
  a.found.alias?

/-- The lowering of the annotation. -/
def run (a : Frame) : Lowering (Nullable SchemaType) :=
  lower a.scope a.type

/--
From the first frame, lowering turns to the second.  What stands before it is
lowered by the given way to lower, and has to give a value first.
-/
inductive TurnsTo (lower : Lower) : Frame → Frame → Prop
  | element
      {a : Frame}
      {u : Ty}
      (hu : a.found.type.element? = some u) :
      TurnsTo lower a ⟨a.scope.passing, u⟩
  | property
      {a : Frame}
      {before after : List Member}
      {name : String}
      {u : Ty}
      {optional : Bool}
      {inner outer : Span}
      {shapes : List Shape}
      (htype : a.found.type =
        .object (before ++ .property name (some u) optional inner :: after) outer)
      (hbefore : (lowerMembers lower a.scope before).outcome = .ok shapes) :
      TurnsTo lower a ⟨a.scope, u⟩
  | param
      {a : Frame}
      {before after : List Param}
      {p : Param}
      {u : Ty}
      {result : Option Ty}
      {span : Span}
      {shapes : List Shape}
      (htype : a.found.type = .function (before ++ p :: after) result span)
      (hu : p.type = some u)
      (hbefore : (lowerParams lower a.scope before).outcome = .ok shapes) :
      TurnsTo lower a ⟨a.scope, u⟩
  | result
      {a : Frame}
      {params : List Param}
      {u : Ty}
      {span : Span}
      {shapes : List Shape}
      (htype : a.found.type = .function params (some u) span)
      (hparams : (lowerParams lower a.scope params).outcome = .ok shapes) :
      TurnsTo lower a ⟨a.scope, u⟩

section TurnsTo

variable {f : Lower} {a b : Frame}

/-- What lowering turns to stands where it descends to. -/
theorem TurnsTo.descendsTo
    (h : TurnsTo f a b) :
    a.found.type.DescendsTo b.type := by
  cases h with
  | element hu =>
      exact .element hu
  | property htype hbefore =>
      rw [htype]
      exact .property _ (List.mem_append_right _ List.mem_cons_self)
  | param htype hu hbefore =>
      rw [htype]
      exact .param _ _ (List.mem_append_right _ List.mem_cons_self) hu
  | result htype hparams =>
      rw [htype]
      exact .result _ _ _

/-- It is lowered in the same scope, or with every fault let through. -/
theorem TurnsTo.scope_eq
    (h : TurnsTo f a b) :
    b.scope = a.scope ∨ b.scope = a.scope.passing := by
  cases h with
  | element hu => exact .inr rfl
  | property htype hbefore => exact .inl rfl
  | param htype hu hbefore => exact .inl rfl
  | result htype hparams => exact .inl rfl

theorem TurnsTo.types_eq
    (h : TurnsTo f a b) :
    b.scope.types = a.scope.types := by
  rcases h.scope_eq with h | h <;>
    rw [h]
  rfl

end TurnsTo

end Frame

/-! ## Termination of a step -/

section Step

variable {f : Lower} {s : Scope}

theorem lowerReference_array
    {node : Node}
    {name : String}
    {element : Ty}
    (nullable : Bool)
    (hname : name = "Array" ∨ name = "ReadonlyArray") :
    lowerReference f s node name (some [element]) nullable =
      lowerArray f s name element nullable := by
  have hpromise : name ≠ "Promise" := by
    rcases hname with rfl | rfl <;> decide
  unfold lowerReference
  rw [if_neg hpromise, if_pos hname]
  rfl

/-- However an array is written, a step lowers it as an array. -/
theorem lowerStep_of_element?
    {t element : Ty}
    (h : (s.types.resolve t).type.element? = some element) :
    ∃ array, ∀ f, lowerStep f s t =
      lowerArray f s array element (s.types.resolve t).nullable := by
  unfold Ty.element? at h
  split at h
  · rename_i heq
    cases h
    exact ⟨"Array", fun f => by simp only [lowerStep, heq]⟩
  · rename_i heq
    rw [Option.ite_none_right_eq_some] at h
    obtain ⟨hword, h⟩ := h
    cases h
    exact ⟨"ReadonlyArray", fun f => by simp only [lowerStep, heq, hword]⟩
  · rename_i name t span heq
    rw [Option.ite_none_right_eq_some] at h
    obtain ⟨hname, h⟩ := h
    cases h
    exact ⟨name, fun f => by simp only [lowerStep, heq, lowerReference_array _ hname]⟩
  · cases h

theorem terminates_lowerArray_iff
    {array : String}
    {element : Ty}
    {nullable : Bool} :
    (lowerArray f s array element nullable).Terminates ↔
      (f s.passing element).Terminates := by
  unfold lowerArray
  rw [Lowering.terminates_bind_iff, Lowering.terminates_attempt]
  refine and_iff_left fun r _ => ?_
  cases r with
  | error e =>
      exact Lowering.terminates_pure _
  | ok found =>
      cases hword : found.value.unstorable? with
      | some word =>
          simp [hword]
      | none =>
          simp [hword]

theorem terminates_lowerObjectMember_iff
    {m : Member} :
    (lowerObjectMember f s m).Terminates ↔
      ∀ name u optional span, m = .property name (some u) optional span →
        (f s u).Terminates := by
  obtain ⟨name, _ | u, optional, span⟩ | ⟨name, params, result, optional, span⟩ |
    ⟨kind, name, span⟩ := m
  · simp [lowerObjectMember]
  · simp only [lowerObjectMember, Lowering.terminates_bind_iff]
    constructor
    · rintro ⟨hu, -⟩ name u optional span heq
      cases heq
      exact hu
    · intro h
      refine ⟨h name u optional span rfl, fun found _ => ?_⟩
      cases found.value.unstorable? <;>
        simp
  · simp [lowerObjectMember]
  · simp [lowerObjectMember]

theorem terminates_lowerParam_iff
    {p : Param} :
    (lowerParam f s p).Terminates ↔ ∀ u, p.type = some u → (f s u).Terminates := by
  unfold lowerParam
  cases p.type with
  | none =>
      simp
  | some u =>
      simp only [Lowering.terminates_bind_iff, Option.some.injEq, forall_eq']
      refine and_iff_left fun found _ => ?_
      cases found.value.unpassable? <;>
        simp

theorem terminates_lowerResult_iff
    {signature : Signature} :
    (lowerResult f s signature).Terminates ↔
      ∀ u, signature.result = some u → (f s u).Terminates := by
  unfold lowerResult
  cases signature.result with
  | none =>
      simp
  | some u =>
      simp only [Lowering.terminates_bind_iff, Option.some.injEq, forall_eq']
      refine and_iff_left fun found _ => ?_
      split_ifs <;> simp

theorem terminates_lowerSignature_iff
    {signature : Signature} :
    (lowerSignature f s signature).Terminates ↔
      (lowerParams f s signature.params).Terminates ∧
        ∀ shapes, (lowerParams f s signature.params).outcome = .ok shapes →
          ∀ u, signature.result = some u → (f s u).Terminates := by
  unfold lowerSignature lowerParams
  simp only [Lowering.terminates_bind_iff, Lowering.terminates_pure, implies_true, and_true,
    terminates_lowerResult_iff]

theorem terminates_lowerObject_iff
    {members : List Member}
    {alias? : Option String}
    {nullable : Bool} :
    (lowerObject f s members alias? nullable).Terminates ↔
      (lowerMembers f s members).Terminates := by
  unfold lowerObject lowerMembers
  rw [Lowering.terminates_bind_iff]
  refine and_iff_left fun properties _ => ?_
  cases alias? <;>
    simp

/-! ### What is no array, no object and no function -/

/-- The lowering ends at once: with a value that never holds annotations, or without any. -/
inductive Lowering.Immediate (nullable : Bool) : Lowering (Nullable SchemaType) → Prop
  | value
      {a : SchemaType}
      (h : a.Atomic) :
      Immediate nullable (pure ⟨nullable, a⟩)
  | fault
      (e : Fault) :
      Immediate nullable (.raise e)
  | emptyUnion : Immediate nullable (.halt .emptyUnion)

namespace Lowering.Immediate

variable {nullable : Bool} {x : Lowering (Nullable SchemaType)}

theorem terminates
    (h : x.Immediate nullable) :
    x.Terminates := by
  cases h with
  | value => exact terminates_pure _
  | fault e => exact terminates_raise e
  | emptyUnion => exact terminates_emptyUnion

theorem events_eq_nil
    (h : x.Immediate nullable) :
    x.events = [] := by
  cases h <;> rfl

theorem of_ok
    (h : x.Immediate nullable)
    {v : Nullable SchemaType}
    (hv : x.outcome = .ok v) :
    v.nullable = nullable ∧ v.value.Atomic := by
  cases h with
  | value hatomic =>
      cases hv
      exact ⟨rfl, hatomic⟩
  | fault e => cases hv
  | emptyUnion => cases hv

end Lowering.Immediate

section Immediate

variable {nullable : Bool}

theorem onlyTypeArg_cases
    (s : Scope)
    (node : Node)
    (name : String)
    (typeArgs : Option (List Ty)) :
    (∃ t, typeArgs = some [t] ∧ onlyTypeArg s node name typeArgs = pure t) ∨
      ∃ e, onlyTypeArg s node name typeArgs = .raise e := by
  obtain _ | _ | ⟨t, _ | ⟨t', ts⟩⟩ := typeArgs
  · exact .inr ⟨_, rfl⟩
  · exact .inr ⟨_, rfl⟩
  · exact .inl ⟨t, rfl, rfl⟩
  · exact .inr ⟨_, rfl⟩

theorem enumKind_cases
    (s : Scope)
    (node : Node)
    (decl : Enum) :
    (∃ kind, enumKind s node decl = pure kind) ∨ ∃ e, enumKind s node decl = .raise e := by
  unfold enumKind
  split
  · exact .inr ⟨_, rfl⟩
  · split
    · exact .inl ⟨_, rfl⟩
    · exact .inl ⟨_, rfl⟩
    · exact .inl ⟨_, rfl⟩
    · exact .inr ⟨_, rfl⟩

/-- A reference that is no array is lowered without turning to anything. -/
theorem immediate_lowerReference
    {node : Node}
    {name : String}
    {typeArgs : Option (List Ty)}
    {span : Span}
    (h : (Ty.reference name typeArgs span).Bare) :
    (lowerReference f s node name typeArgs nullable).Immediate nullable := by
  unfold lowerReference
  split_ifs with hpromise harray
  · rcases onlyTypeArg_cases s node name typeArgs with ⟨t, -, harg⟩ | ⟨e, harg⟩
    · rw [harg, pure_bind]
      exact .value trivial
    · rw [harg]
      exact .fault e
  · rcases onlyTypeArg_cases s node name typeArgs with ⟨t, rfl, -⟩ | ⟨e, harg⟩
    · simp [Ty.Bare, Ty.element?, harray] at h
    · rw [harg]
      exact .fault e
  · split
    · rename_i a ha
      exact .value (SchemaType.atomic_of_named? ha)
    · split
      · rename_i decl _ _
        rcases enumKind_cases s node decl with ⟨kind, hkind⟩ | ⟨e, hkind⟩
        · rw [hkind, pure_bind]
          exact .value trivial
        · rw [hkind]
          exact .fault e
      · exact .fault _

theorem immediate_lowerUnion
    (node : Node)
    (members : List Ty) :
    (lowerUnion s node members nullable).Immediate nullable := by
  unfold lowerUnion
  split_ifs
  · split
    · exact .emptyUnion
    · exact .value trivial
    · exact .fault _
  · exact .fault _

/-- A step to what is no array, no object and no function turns to nothing. -/
theorem immediate_lowerStep
    {t : Ty}
    (h : (s.types.resolve t).type.Bare) :
    (lowerStep f s t).Immediate (s.types.resolve t).nullable := by
  cases htype : (s.types.resolve t).type with
  | array element span =>
      rw [htype] at h
      cases h
  | object members span =>
      rw [htype] at h
      exact h.elim
  | function params result span =>
      rw [htype] at h
      exact h.elim
  | operator word operand span =>
      simp only [lowerStep, htype]
      split
      · rename_i hword
        rw [htype] at h
        simp only [Ty.Bare, Ty.element?, hword, reduceCtorEq, if_true] at h
      · exact .fault _
  | reference name typeArgs span =>
      rw [htype] at h
      simp only [lowerStep, htype]
      exact immediate_lowerReference h
  | keyword word span =>
      simp only [lowerStep, htype]
      split
      · rename_i a ha
        exact .value (SchemaType.atomic_of_keyword? ha)
      · split_ifs
        · exact .value trivial
        · exact .fault _
  | union members span =>
      simp only [lowerStep, htype]
      exact immediate_lowerUnion _ members
  | literal value span =>
      simp only [lowerStep, htype]
      exact .fault _
  | other kind span =>
      simp only [lowerStep, htype]
      exact .fault _

end Immediate

theorem Frame.not_turnsTo
    {a b : Frame}
    (h : a.found.type.Bare) :
    ¬ TurnsTo f a b := by
  intro hturn
  cases hturn with
  | element hu =>
      unfold Ty.Bare at h
      split at h
      · exact h
      · exact h
      · rw [h] at hu
        cases hu
  | property htype hbefore =>
      rw [htype] at h
      exact h
  | param htype hu hbefore =>
      rw [htype] at h
      exact h
  | result htype hparams =>
      rw [htype] at h
      exact h

section Parts

variable {t : Ty}

theorem terminates_lowerStep_element
    {element : Ty}
    (h : (s.types.resolve t).type.element? = some element) :
    (lowerStep f s t).Terminates ↔
      ∀ b, Frame.TurnsTo f ⟨s, t⟩ b → (f b.scope b.type).Terminates := by
  obtain ⟨array, hstep⟩ := lowerStep_of_element? h
  rw [hstep, terminates_lowerArray_iff]
  constructor
  · intro hend b hb
    cases hb with
    | element hu =>
        obtain rfl := Option.some.inj (h.symm.trans hu)
        exact hend
    | property htype hbefore =>
        have htype : (s.types.resolve t).type = _ := htype
        simp [htype, Ty.element?] at h
    | param htype hu hbefore =>
        have htype : (s.types.resolve t).type = _ := htype
        simp [htype, Ty.element?] at h
    | result htype hparams =>
        have htype : (s.types.resolve t).type = _ := htype
        simp [htype, Ty.element?] at h
  · intro hall
    exact hall ⟨s.passing, element⟩ (.element h)

/-- A step to an object terminates when its members are lowered to an end. -/
theorem terminates_lowerMembers_iff
    {members : List Member}
    {span : Span}
    (h : (s.types.resolve t).type = .object members span) :
    (lowerStep f s t).Terminates ↔ (lowerMembers f s members).Terminates := by
  rw [lowerStep_of_object h, terminates_lowerObject_iff]

theorem terminates_lowerStep_object
    {members : List Member}
    {span : Span}
    (h : (s.types.resolve t).type = .object members span) :
    (lowerStep f s t).Terminates ↔
      ∀ b, Frame.TurnsTo f ⟨s, t⟩ b → (f b.scope b.type).Terminates := by
  rw [terminates_lowerMembers_iff h, lowerMembers, Lowering.terminates_collect_iff]
  simp only [Lowering.terminates_guard, terminates_lowerObjectMember_iff]
  constructor
  · intro hend b hb
    cases hb with
    | element hu =>
        have hu : (s.types.resolve t).type.element? = _ := hu
        simp [h, Ty.element?] at hu
    | property htype hbefore =>
        cases h.symm.trans htype
        exact hend _ _ _ _ rfl hbefore _ _ _ _ rfl
    | param htype hu hbefore => cases h.symm.trans htype
    | result htype hparams => cases h.symm.trans htype
  · rintro hall before m after shapes rfl hbefore name u optional inner rfl
    exact hall ⟨s, u⟩ (.property h hbefore)

/-- A step to a function terminates when its parameters and its result do. -/
theorem terminates_lowerParams_iff
    {params : List Param}
    {result : Option Ty}
    {span : Span}
    (h : (s.types.resolve t).type = .function params result span) :
    (lowerStep f s t).Terminates ↔
      (lowerParams f s params).Terminates ∧
        ∀ shapes, (lowerParams f s params).outcome = .ok shapes →
          ∀ u, result = some u → (f s u).Terminates := by
  rw [lowerStep_of_function h, bind_pure_comp, Lowering.terminates_map, terminates_lowerSignature_iff]

theorem terminates_lowerStep_function
    {params : List Param}
    {result : Option Ty}
    {span : Span}
    (h : (s.types.resolve t).type = .function params result span) :
    (lowerStep f s t).Terminates ↔
      ∀ b, Frame.TurnsTo f ⟨s, t⟩ b → (f b.scope b.type).Terminates := by
  rw [terminates_lowerParams_iff h, lowerParams, Lowering.terminates_collect_iff]
  simp only [Lowering.terminates_guard, terminates_lowerParam_iff]
  constructor
  · rintro ⟨hparams, hresult⟩ b hb
    cases hb with
    | element hu =>
        have hu : (s.types.resolve t).type.element? = _ := hu
        simp [h, Ty.element?] at hu
    | property htype hbefore => cases h.symm.trans htype
    | param htype hu hbefore =>
        cases h.symm.trans htype
        exact hparams _ _ _ _ rfl hbefore _ hu
    | result htype hbefore =>
        cases h.symm.trans htype
        exact hresult _ hbefore _ rfl
  · intro hall
    constructor
    · rintro before p after shapes rfl hbefore u hu
      exact hall ⟨s, u⟩ (.param h hu hbefore)
    · rintro shapes hparams u rfl
      exact hall ⟨s, u⟩ (.result h hparams)

end Parts

/-- A step terminates when all lowerings that it turns to do. -/
theorem terminates_lowerStep_iff_forall
    {t : Ty} :
    (lowerStep f s t).Terminates ↔
      ∀ b, Frame.TurnsTo f ⟨s, t⟩ b → (f b.scope b.type).Terminates := by
  rcases (s.types.resolve t).type.bare_cases with
    ⟨u, hu⟩ | ⟨members, span, htype⟩ | ⟨params, result, span, htype⟩ | hbare
  · exact terminates_lowerStep_element hu
  · exact terminates_lowerStep_object htype
  · exact terminates_lowerStep_function htype
  · exact iff_of_true (immediate_lowerStep hbare).terminates fun b hb =>
      absurd hb (Frame.not_turnsTo (a := ⟨s, t⟩) hbare)

end Step

/-! ## Termination of a lowering -/

open Lowering (Below below)

/-- The bound of what stands beneath an annotation is no larger than that of the annotation. -/
theorem depthBound_le_of_beneath
    (env : Environment)
    {t u : Ty}
    (h : u.Beneath t) :
    depthBound env u ≤ depthBound env t := by
  have hsize := h.size_lt
  unfold depthBound
  omega

/-- A lowering terminates when one step over all lowerings does. -/
theorem terminates_lower_of_lowerStep
    {s : Scope}
    {t : Ty}
    (h : (lowerStep lower s t).Terminates) :
    (lower s t).Terminates := by
  let depth := depthBound s.types (s.types.resolve t).type
  have hbelow : Below (lowerStep lower s t) (lowerWithin (depth + 1) s t) := by
    refine lowerStep_below s t fun u hu => ⟨?_, ?_⟩
    · exact lowerWithin_below (depthBound_le_of_beneath s.types hu) s u
    · exact lowerWithin_below (depthBound_le_of_beneath s.types hu) s.passing u
  refine (terminates_lower_iff s t).2 ⟨depth + 1, ?_⟩
  rwa [hbelow h]

namespace Frame

section Turns

variable {a b : Frame}

/-- A lowering terminates when all lowerings that it turns to do. -/
theorem terminates_iff :
    a.run.Terminates ↔ ∀ b, TurnsTo lower a b → b.run.Terminates := by
  have hstep : a.run.Terminates ↔ (lowerStep lower a.scope a.type).Terminates := by
    constructor
    · intro h
      have heq : a.run = lowerStep lower a.scope a.type := lower_eq_lowerStep h
      rwa [← heq]
    · exact terminates_lower_of_lowerStep
  rw [hstep, terminates_lowerStep_iff_forall]
  rfl

/-- A way to lower that agrees as far as it terminates turns to the same. -/
theorem TurnsTo.of_below
    {f g : Lower}
    (hfg : ∀ s t, Below (f s t) (g s t))
    (hend : (lowerStep f a.scope a.type).Terminates)
    (h : TurnsTo g a b) :
    TurnsTo f a b := by
  have hstep := companions_below a.scope
  have hmembers : ∀ ms, Below (lowerMembers f a.scope ms) (lowerMembers g a.scope ms) :=
    fun ms => Companions.collect (R := below) ms fun m _ =>
      hstep.guard (hstep.lowerObjectMember m fun _ u _ _ _ => hfg a.scope u)
  have hparams : ∀ ps, Below (lowerParams f a.scope ps) (lowerParams g a.scope ps) :=
    fun ps => Companions.collect (R := below) ps fun p _ =>
      hstep.guard (hstep.lowerParam p fun u _ => hfg a.scope u)
  cases h with
  | element hu => exact .element hu
  | property htype hbefore =>
      have hall := (terminates_lowerMembers_iff htype).1 hend
      rw [hmembers _ (Lowering.terminates_collect_of_append hall)] at hbefore
      exact .property htype hbefore
  | param htype hu hbefore =>
      have hall := ((terminates_lowerParams_iff htype).1 hend).1
      rw [hparams _ (Lowering.terminates_collect_of_append hall)] at hbefore
      exact .param htype hu hbefore
  | result htype hbefore =>
      rw [hparams _ ((terminates_lowerParams_iff htype).1 hend).1] at hbefore
      exact .result htype hbefore

/-- What a lowering turns to takes less depth. -/
theorem TurnsTo.terminates_within
    {depth : Nat}
    (h : TurnsTo lower a b)
    (hend : (lowerWithin (depth + 1) a.scope a.type).Terminates) :
    (lowerWithin depth b.scope b.type).Terminates := by
  have hbelow : ∀ s t, Below (lowerWithin depth s t) (lower s t) :=
    fun s t hst => lower_eq_lowerWithin hst
  exact terminates_lowerStep_iff_forall.1 hend b (h.of_below hbelow hend)

end Turns

end Frame

end ModuleSpec
