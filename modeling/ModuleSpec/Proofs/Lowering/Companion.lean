import ModuleSpec.Proofs.Lowering.Descent
import ModuleSpec.Lowering
import Mathlib.Tactic.SplitIfs

/-!
# Two lowerings of one annotation

An annotation can be lowered twice: to different depths, under different
captures, or for different modules.  A relation between the two lowerings that
is respected by the ways in which lowerings are put together
(`LoweringRelation`) and by what a step does in either scope (`Companions`)
holds of the whole if it holds of the lowerings beneath.

The lowerings of array elements, where every fault goes through, can be related
in another way than the rest.

**Results.**  `Companions.lowerStep` and `Companions.lowerSignature` carry the
relations from the lowerings beneath to a step and to a signature.
-/

namespace ModuleSpec

/-- A relation between lowerings with values of one type. -/
structure LoweringRelation where
  rel : ∀ {α : Type}, Lowering α → Lowering α → Prop
  pure : ∀ {α : Type} (a : α), rel (Pure.pure a) (Pure.pure a)
  bind : ∀ {α β : Type} {x y : Lowering α} {f g : α → Lowering β},
    rel x y → (∀ a, rel (f a) (g a)) → rel (x >>= f) (y >>= g)

/--
What a step does in either scope respects the first relation, given that the
lowerings of array elements are in the second.
-/
structure Companions
    (R P : LoweringRelation)
    (s s' : Scope) : Prop where
  nativeOnly : s'.nativeOnly = s.nativeOnly
  raise : ∀ {α : Type} (n : Node) (cause : Cause), cause.kind.fatal = false →
    R.rel (.raise (s.fault n cause) : Lowering α) (.raise (s'.fault n cause))
  emptyUnion : ∀ {α : Type}, R.rel (.halt .emptyUnion : Lowering α) (.halt .emptyUnion)
  register : ∀ a, R.rel (.emit (.registered a)) (.emit (.registered a))
  guard : ∀ {α : Type} {x y : Lowering α},
    R.rel x y → R.rel (s.capture.guard x) (s'.capture.guard y)
  element : ∀ {α β : Type} {x y : Lowering α} {f g : Except Fault α → Lowering β},
    P.rel x y → (∀ a, R.rel (f (.ok a)) (g (.ok a))) →
      (∀ e e', R.rel (f (.error e)) (g (.error e'))) →
      R.rel (x.attempt >>= f) (y.attempt >>= g)
  sink : ∀ n array word,
    R.rel (s.sink.record (s.fault n (.arrayElement array word)))
      (s'.sink.record (s'.fault n (.arrayElement array word)))

/-- Both scopes find the same when they resolve the annotation. -/
structure Scope.SameFound
    (s s' : Scope)
    (t : Ty) : Prop where
  resolve : s'.types.resolve t = s.types.resolve t
  enum : ∀ name typeArgs span, (s.types.resolve t).type = .reference name typeArgs span →
    s'.types.find? name = s.types.find? name

theorem Scope.sameFound_of_types
    (s s' : Scope)
    (h : s'.types = s.types)
    (t : Ty) :
    s.SameFound s' t :=
  ⟨by rw [h], fun _ _ _ _ => by rw [h]⟩

namespace Companions

variable {R P : LoweringRelation} {s s' : Scope} {f g : Lower}

theorem collect
    {α β : Type}
    {F G : α → Lowering (Option β)}
    (as : List α)
    (h : ∀ a, a ∈ as → R.rel (F a) (G a)) :
    R.rel (Lowering.collect F as) (Lowering.collect G as) := by
  induction as with
  | nil =>
      exact R.pure []
  | cons a as ih =>
      refine R.bind (h a List.mem_cons_self) fun b => ?_
      refine R.bind (ih fun c hc => h c (List.mem_cons_of_mem a hc)) fun bs => ?_
      exact R.pure _

theorem lowerArray
    (h : Companions R P s s')
    (array : String)
    (nullable : Bool)
    {element : Ty}
    (hx : P.rel (f s.passing element) (g s'.passing element)) :
    R.rel (ModuleSpec.lowerArray f s array element nullable)
      (ModuleSpec.lowerArray g s' array element nullable) := by
  refine h.element hx ?_ ?_
  · intro found
    cases hword : found.value.unstorable? with
    | some word =>
        simp only [hword]
        exact R.bind (h.sink _ array word) fun _ => R.pure _
    | none =>
        simp only [hword]
        exact R.pure _
  · intro e e'
    exact R.pure _

theorem onlyTypeArg
    (h : Companions R P s s')
    (node : Node)
    (name : String)
    (typeArgs : Option (List Ty)) :
    R.rel (ModuleSpec.onlyTypeArg s node name typeArgs)
      (ModuleSpec.onlyTypeArg s' node name typeArgs) := by
  unfold ModuleSpec.onlyTypeArg
  split
  · exact h.raise _ _ rfl
  · exact R.pure _
  · exact h.raise _ _ rfl

theorem enumKind
    (h : Companions R P s s')
    (node : Node)
    (decl : Enum) :
    R.rel (ModuleSpec.enumKind s node decl) (ModuleSpec.enumKind s' node decl) := by
  unfold ModuleSpec.enumKind
  split
  · exact h.raise _ _ rfl
  · split
    · exact R.pure _
    · exact R.pure _
    · exact R.pure _
    · exact h.raise _ _ rfl

theorem lowerReference
    (h : Companions R P s s')
    (node : Node)
    (name : String)
    (typeArgs : Option (List Ty))
    (nullable : Bool)
    (henum : s'.types.find? name = s.types.find? name)
    (hsub : ∀ t, typeArgs = some [t] → P.rel (f s.passing t) (g s'.passing t)) :
    R.rel (ModuleSpec.lowerReference f s node name typeArgs nullable)
      (ModuleSpec.lowerReference g s' node name typeArgs nullable) := by
  unfold ModuleSpec.lowerReference
  rw [henum, h.nativeOnly]
  split_ifs with hpromise harray
  · exact R.bind (h.onlyTypeArg node name typeArgs) fun _ => R.pure _
  · -- Only the argument itself has related lowerings, so it is looked at first.
    obtain _ | (_ | ⟨t, _ | ⟨t', ts⟩⟩) := typeArgs
    · exact h.raise _ _ rfl
    · exact h.raise _ _ rfl
    · exact h.lowerArray name nullable (hsub t rfl)
    · exact h.raise _ _ rfl
  · split
    · exact R.pure _
    · split
      · exact R.bind (h.enumKind node _) fun _ => R.pure _
      · exact h.raise _ _ rfl

theorem lowerUnion
    (h : Companions R P s s')
    (node : Node)
    (members : List Ty)
    (nullable : Bool) :
    R.rel (ModuleSpec.lowerUnion s node members nullable)
      (ModuleSpec.lowerUnion s' node members nullable) := by
  unfold ModuleSpec.lowerUnion
  rw [h.nativeOnly]
  split_ifs with hnative
  · split
    · exact h.emptyUnion
    · exact R.pure _
    · exact h.raise _ _ rfl
  · exact h.raise _ _ rfl

theorem lowerObjectMember
    (h : Companions R P s s')
    (m : Member)
    (hsub : ∀ name t optional span, m = .property name (some t) optional span →
      R.rel (f s t) (g s' t)) :
    R.rel (ModuleSpec.lowerObjectMember f s m) (ModuleSpec.lowerObjectMember g s' m) := by
  cases m with
  | property name type optional span =>
      cases type with
      | none =>
          exact h.raise _ _ rfl
      | some t =>
          refine R.bind (hsub name t optional span rfl) fun found => ?_
          cases hword : found.value.unstorable? with
          | some word =>
              exact h.raise _ _ rfl
          | none =>
              exact R.pure _
  | method name params result optional span =>
      exact h.raise _ _ rfl
  | other kind name span =>
      exact h.raise _ _ rfl

theorem lowerObject
    (h : Companions R P s s')
    (members : List Member)
    (alias? : Option String)
    (nullable : Bool)
    (hsub : ∀ name t optional span, .property name (some t) optional span ∈ members →
      R.rel (f s t) (g s' t)) :
    R.rel (ModuleSpec.lowerObject f s members alias? nullable)
      (ModuleSpec.lowerObject g s' members alias? nullable) := by
  refine R.bind (collect members ?_) fun properties => ?_
  · intro m hm
    refine h.guard (h.lowerObjectMember m ?_)
    rintro name t optional span rfl
    exact hsub name t optional span hm
  · cases alias? with
    | none =>
        exact R.pure _
    | some name =>
        exact R.bind (h.register _) fun _ => R.pure _

theorem lowerParam
    (h : Companions R P s s')
    (p : Param)
    (hsub : ∀ t, p.type = some t → R.rel (f s t) (g s' t)) :
    R.rel (ModuleSpec.lowerParam f s p) (ModuleSpec.lowerParam g s' p) := by
  unfold ModuleSpec.lowerParam
  split
  · exact h.raise _ _ rfl
  · rename_i t ht
    refine R.bind (hsub t ht) fun found => ?_
    cases hword : found.value.unpassable? with
    | some word =>
        exact h.raise _ _ rfl
    | none =>
        exact R.pure _

theorem lowerResult
    (h : Companions R P s s')
    (signature : Signature)
    (hsub : ∀ t, signature.result = some t → R.rel (f s t) (g s' t)) :
    R.rel (ModuleSpec.lowerResult f s signature)
      (ModuleSpec.lowerResult g s' signature) := by
  unfold ModuleSpec.lowerResult
  split
  · exact h.raise _ _ rfl
  · rename_i t ht
    refine R.bind (hsub t ht) fun found => ?_
    rw [h.nativeOnly]
    split_ifs with hforbidden
    · exact h.raise _ _ rfl
    · exact R.pure _

/-- Related lowerings beneath make related lowerings of a signature. -/
theorem lowerSignature
    (h : Companions R P s s')
    (signature : Signature)
    (hparams : ∀ p, p ∈ signature.params → ∀ t, p.type = some t →
      R.rel (f s t) (g s' t))
    (hresult : ∀ t, signature.result = some t → R.rel (f s t) (g s' t)) :
    R.rel (ModuleSpec.lowerSignature f s signature)
      (ModuleSpec.lowerSignature g s' signature) := by
  refine R.bind (collect signature.params ?_) fun params => ?_
  · intro p hp
    exact h.guard (h.lowerParam p (hparams p hp))
  · exact R.bind (h.lowerResult signature hresult) fun result => R.pure _

/-- Related lowerings beneath make related steps. -/
theorem lowerStep
    (h : Companions R P s s')
    {t : Ty}
    (hsame : s.SameFound s' t)
    (hsub : ∀ u, u.Beneath (s.types.resolve t).type →
      R.rel (f s u) (g s' u) ∧ P.rel (f s.passing u) (g s'.passing u)) :
    R.rel (ModuleSpec.lowerStep f s t) (ModuleSpec.lowerStep g s' t) := by
  simp only [ModuleSpec.lowerStep, hsame.resolve]
  cases htype : (s.types.resolve t).type with
  | array element span =>
      rw [htype] at hsub
      exact h.lowerArray _ _ (hsub element (.element element span)).2
  | operator word operand span =>
      rw [htype] at hsub
      simp only []
      split
      · rename_i element inner _
        exact h.lowerArray _ _ (hsub element (.operand word element inner span)).2
      · exact h.raise _ _ rfl
  | reference name typeArgs span =>
      rw [htype] at hsub
      refine h.lowerReference _ name typeArgs _ (hsame.enum name typeArgs span htype) ?_
      rintro u rfl
      exact (hsub u (.typeArg name u span)).2
  | object members span =>
      rw [htype] at hsub
      refine h.lowerObject members _ _ ?_
      intro name u optional inner hm
      exact (hsub u (.property span hm)).1
  | keyword word span =>
      simp only [h.nativeOnly]
      split
      · exact R.pure _
      · split_ifs with hunknown
        · exact R.pure _
        · exact h.raise _ _ rfl
  | function params result span =>
      rw [htype] at hsub
      refine R.bind (h.lowerSignature _ ?_ ?_) fun a => R.pure _
      · intro p hp u hu
        exact (hsub u (.param result span hp hu)).1
      · rintro u rfl
        exact (hsub u (.result params u span)).1
  | union members span =>
      exact h.lowerUnion _ members _
  | literal value span =>
      exact h.raise _ _ rfl
  | other kind span =>
      exact h.raise _ _ rfl

end Companions

end ModuleSpec
