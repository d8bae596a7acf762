import ModuleSpec.Proofs.FaultContract
import ModuleSpec.Proofs.Lowering.Carry
import ModuleSpec.Proofs.Lowering.Turn
import ModuleSpec.Proofs.Schema.Refinement

/-!
# Lowering for a module in C++ alone

A module that is implemented in C++ alone allows more than any other: enums,
unions, unknown, and functions as results.  So where an annotation has a value in
another module, it has one there as well, which refines the first.

**Idea.**  The two lowerings of an annotation go the same way until the first
ends with a fault.  Where that fault drops a member, a parameter or an element,
the second may drop it as well or gain it; either refines what the first has
left.  Otherwise the first has no value, and nothing is claimed.

Two things could make the second end where the first goes on.  An array that has
gained an element may find that it cannot be stored, so the sink has to accept
that.  And a member that the first drops for one fault may have another fault in
the second, so a capture has to accept both or neither.

**Results.**  `lowerWithin_follows`, by induction on the depth.
-/

namespace ModuleSpec

/-! ## Scopes -/

namespace Scope

/-- The scope of the same annotations in a module that is implemented in C++ alone. -/
def native (s : Scope) : Scope :=
  { s with nativeOnly := true }

end Scope

namespace Capture

/-- The capture accepts every fault that is not fatal, or none. -/
def Uniform (c : Capture) : Prop :=
  ∀ e e' : Fault, e.fatal = false → e'.fatal = false → c.accepts e = true → c.accepts e' = true

theorem uniform_recoverable
    (channel : Nat) :
    (recoverable channel).Uniform := by
  intro e e' _ he' _
  rw [accepts_recoverable, Bool.not_eq_true']
  exact he'

theorem uniform_passthrough :
    passthrough.Uniform := by
  intro e e' _ _ he
  exact absurd he (not_accepts_passthrough e)

end Capture

/-- What lets a lowering in the scope be compared with one in C++ alone. -/
structure Scope.Widens (s : Scope) : Prop where
  portable : s.nativeOnly = false
  uniform : s.capture.Uniform
  elements : s.AcceptsElements

theorem Scope.Widens.passing
    {s : Scope}
    (h : s.Widens) :
    s.passing.Widens :=
  ⟨h.portable, Capture.uniform_passthrough, h.elements⟩

/-! ## The relation -/

namespace Lowering

/-- The lowering ends with a value or with a fault. -/
def Settles
    {α : Type}
    (x : Lowering α) : Prop :=
  ∀ halt, x.outcome = .error halt → ∃ f, halt = .fault f

/-- Each object registered in the first events is registered, refined, in the second. -/
def Covers (es es' : List Event) : Prop :=
  ∀ a, .registered a ∈ es →
    ∃ b, .registered b ∈ es' ∧ b.name = a.name ∧ a.object.RefinedBy b.object

/-- The second lowering gives all that the first gives, refined, and registers as much. -/
structure RefinedBy
    {α β : Type}
    (rel : α → β → Prop)
    (x : Lowering α)
    (y : Lowering β) : Prop where
  value : ∀ a, x.outcome = .ok a → ∃ b, y.outcome = .ok b ∧ rel a b
  registered : x.Terminates → Covers x.events y.events

/-- The second lowering refines the first, if it ends with a value or with a fault. -/
def Follows
    {α β : Type}
    (rel : α → β → Prop)
    (x : Lowering α)
    (y : Lowering β) : Prop :=
  y.Settles → RefinedBy rel x y

/-- What the first has the second has as well, related. -/
def Retains
    {α β : Type}
    (rel : α → β → Prop)
    (o : Option α)
    (o' : Option β) : Prop :=
  ∀ a, o = some a → ∃ b, o' = some b ∧ rel a b

theorem Covers.refl
    (es : List Event) :
    Covers es es :=
  fun a ha => ⟨a, ha, rfl, .refl a.object⟩

theorem Covers.nil
    (es : List Event) :
    Covers [] es :=
  nofun

theorem Covers.mono
    {es es' es'' : List Event}
    (h : Covers es es')
    (hes : es' ⊆ es'') :
    Covers es es'' := by
  intro a ha
  obtain ⟨b, hb, hab⟩ := h a ha
  exact ⟨b, hes hb, hab⟩

theorem Covers.append
    {es₁ es₂ es₁' es₂' : List Event}
    (h₁ : Covers es₁ es₁')
    (h₂ : Covers es₂ es₂') :
    Covers (es₁ ++ es₂) (es₁' ++ es₂') := by
  intro a ha
  rcases List.mem_append.1 ha with ha | ha
  · exact h₁.mono (List.subset_append_left _ _) a ha
  · exact h₂.mono (List.subset_append_right _ _) a ha

/-! ## How lowerings are put together -/

section Rules

variable {α β γ δ : Type} {rel : α → β → Prop} {rel' : γ → δ → Prop}

theorem Settles.cases
    {x : Lowering α}
    (h : x.Settles) :
    (∃ a, x.outcome = .ok a) ∨ ∃ f, x.outcome = .error (.fault f) := by
  cases hx : x.outcome with
  | ok a => exact .inl ⟨a, rfl⟩
  | error halt =>
      obtain ⟨f, rfl⟩ := h halt hx
      exact .inr ⟨f, rfl⟩

theorem Settles.of_bind
    {y : Lowering β}
    {g : β → Lowering δ}
    (h : (y >>= g).Settles) :
    y.Settles ∧ ∀ b, y.outcome = .ok b → (g b).Settles := by
  obtain ⟨halt | b, es⟩ := y
  · refine ⟨?_, nofun⟩
    rintro _ ⟨⟩
    exact h halt rfl
  · refine ⟨nofun, ?_⟩
    rintro _ ⟨⟩
    exact h

theorem Settles.of_attempt
    {y : Lowering β}
    (h : y.attempt.Settles) :
    y.Settles := by
  obtain ⟨(f | _ | _) | b, es⟩ := y <;> rintro _ ⟨⟩
  · exact ⟨f, rfl⟩
  · exact h _ rfl
  · exact h _ rfl

theorem follows_refl
    {rel : α → α → Prop}
    (hrel : ∀ a, rel a a)
    (x : Lowering α) :
    Follows rel x x :=
  fun _ => ⟨fun a ha => ⟨a, ha, hrel a⟩, fun _ => .refl x.events⟩

theorem follows_pure
    {a : α}
    {b : β}
    (h : rel a b) :
    Follows rel (pure a) (pure b) := by
  refine fun _ => ⟨?_, fun _ => .nil _⟩
  rintro _ ⟨⟩
  exact ⟨b, rfl, h⟩

/-- Nothing is asked of the second lowering when the first raises a fault at once. -/
theorem follows_raise
    (f : Fault)
    (y : Lowering β) :
    Follows rel (raise f) y :=
  fun _ => ⟨nofun, fun _ => .nil _⟩

theorem follows_endless
    (y : Lowering β) :
    Follows rel (halt .endless) y :=
  fun _ => ⟨nofun, fun hend => absurd rfl hend⟩

theorem follows_register
    (name : String)
    {ps qs : List Shape}
    (h : SchemaType.RefinedWithin ps qs) :
    Follows Eq (emit (.registered ⟨name, ps⟩)) (emit (.registered ⟨name, qs⟩)) := by
  refine fun _ => ⟨fun u hu => ⟨u, hu, rfl⟩, ?_⟩
  intro _ a ha
  cases List.mem_singleton.1 ha
  exact ⟨⟨name, qs⟩, List.mem_cons_self, rfl, .object h⟩

theorem Follows.bind
    {x : Lowering α}
    {y : Lowering β}
    {f : α → Lowering γ}
    {g : β → Lowering δ}
    (hx : Follows rel x y)
    (hf : ∀ a b, rel a b → Follows rel' (f a) (g b)) :
    Follows rel' (x >>= f) (y >>= g) := by
  intro hend
  obtain ⟨hyend, hgend⟩ := hend.of_bind
  obtain ⟨hvalue, hevents⟩ := hx hyend
  obtain ⟨halt | a, es⟩ := x
  · refine ⟨nofun, fun hx => (hevents (terminates_bind_iff.1 hx).1).mono ?_⟩
    obtain ⟨halt' | b, es'⟩ := y
    · exact List.Subset.refl es'
    · exact List.subset_append_left _ _
  · obtain ⟨b, hb, hab⟩ := hvalue a rfl
    obtain ⟨outcome', es'⟩ := y
    obtain rfl : outcome' = .ok b := hb
    obtain ⟨hvalue', hevents'⟩ := hf a b hab (hgend b rfl)
    exact ⟨hvalue', fun hfa => (hevents nofun).append (hevents' hfa)⟩

/-- What the second lowering records before it goes on is not seen. -/
theorem Follows.after_record
    {x : Lowering α}
    {c : Capture}
    {e : Fault}
    {k : Unit → Lowering β}
    (he : c.accepts e = true)
    (h : Follows rel x (k ())) :
    Follows rel x (c.record e >>= k) := by
  rw [Capture.record_of_accepts he]
  intro hend
  obtain ⟨hvalue, hevents⟩ := h (hend.of_bind.2 () rfl)
  exact ⟨hvalue, fun hx => (hevents hx).mono (List.subset_append_right _ _)⟩

/-- An attempt of the second lowering gives a value where one of the first does. -/
theorem Follows.attempt
    {x : Lowering α}
    {y : Lowering β}
    (h : Follows rel x y) :
    Follows (fun r r' => Retains rel r.toOption r'.toOption) x.attempt y.attempt := by
  intro hend
  have hy : y.Settles := hend.of_attempt
  obtain ⟨hvalue, hevents⟩ := h hy
  obtain ⟨outcome', es'⟩ := y
  constructor
  · intro r hr
    rcases hy.cases with ⟨b, hb⟩ | ⟨e', he'⟩
    · obtain rfl : outcome' = .ok b := hb
      refine ⟨.ok b, rfl, ?_⟩
      obtain ⟨(e | _ | _) | a, es⟩ := x <;> cases hr
      · exact nofun
      · rintro _ ⟨⟩
        obtain ⟨_, ⟨⟩, hab⟩ := hvalue a rfl
        exact ⟨b, rfl, hab⟩
    · obtain rfl : outcome' = .error (.fault e') := he'
      refine ⟨.error e', rfl, ?_⟩
      obtain ⟨(e | _ | _) | a, es⟩ := x <;> cases hr
      · exact nofun
      · obtain ⟨_, ⟨⟩, -⟩ := hvalue a rfl
  · rw [events_attempt, events_attempt, terminates_attempt]
    exact hevents

/-- A fault that ends the lowering is not fatal. -/
def Recoverable (x : Lowering α) : Prop :=
  ∀ f, x.outcome = .error (.fault f) → f.fatal = false

/-- A uniform capture leaves nothing out of the second lowering that it keeps of the first. -/
theorem Follows.guard
    {x : Lowering α}
    {y : Lowering β}
    {c : Capture}
    (hc : c.Uniform)
    (hx : x.Recoverable)
    (hy : y.Recoverable)
    (h : Follows rel x y) :
    Follows (Retains rel) (c.guard x) (c.guard y) := by
  intro hend
  have hsettles : y.Settles := hend.of_bind.1.of_attempt
  obtain ⟨hvalue, hevents⟩ := h hsettles
  obtain ⟨outcome', es'⟩ := y
  constructor
  · intro o ho
    rcases Capture.guard_eq_ok ho with ⟨a, rfl, ha, -⟩ | ⟨rfl, e, he, haccepts, -⟩
    · obtain ⟨b, hb, hab⟩ := hvalue a ha
      obtain rfl : outcome' = .ok b := hb
      rw [Capture.guard_ok]
      refine ⟨some b, rfl, ?_⟩
      rintro _ ⟨⟩
      exact ⟨b, rfl, hab⟩
    · rcases hsettles.cases with ⟨b, hb⟩ | ⟨e', he'⟩
      · obtain rfl : outcome' = .ok b := hb
        rw [Capture.guard_ok]
        exact ⟨some b, rfl, nofun⟩
      · obtain rfl : outcome' = .error (.fault e') := he'
        rw [Capture.guard_of_accepts (hc e e' (hx e he) (hy e' rfl) haccepts)]
        exact ⟨none, rfl, nofun⟩
  · intro hx a ha
    rw [Capture.registered_mem_guard] at ha
    obtain ⟨b, hb, hab⟩ := hevents ((terminates_guard c).1 hx) a ha
    exact ⟨b, Capture.registered_mem_guard.2 hb, hab⟩

/-- Lists are gone through entry by entry; what the first list keeps the second keeps. -/
theorem follows_collect
    {F G : α → Lowering (Option Shape)}
    (as : List α)
    (h : ∀ a, a ∈ as → Follows (Retains Shape.RefinedBy) (F a) (G a)) :
    Follows SchemaType.RefinedWithin (collect F as) (collect G as) := by
  induction as with
  | nil =>
      exact follows_pure .nil
  | cons a as ih =>
      refine (h a List.mem_cons_self).bind fun o o' ho => ?_
      refine (ih fun c hc => h c (List.mem_cons_of_mem a hc)).bind fun ps qs hps => ?_
      refine follows_pure ?_
      cases o with
      | some p =>
          obtain ⟨q, rfl, hpq⟩ := ho p rfl
          exact .cons hpq hps
      | none =>
          cases o' with
          | some q => exact .gained q hps
          | none => exact hps

end Rules

end Lowering

open Lowering (Follows Retains follows_pure follows_raise follows_refl)

open FaultContract (invariant invariant_sound)

namespace Invariant

/-- A lowering that keeps the contract of faults ends in none that is fatal. -/
theorem Keeps.recoverable
    {moduleName : String}
    {α : Type}
    {post : List Event → α → Prop}
    {x : Lowering α}
    (h : (FaultContract.invariant moduleName).Keeps post x) :
    x.Recoverable := by
  intro f hf
  have hends := h.ends
  rw [hf] at hends
  exact hends.1

/-- What a step may do does not depend on the sort of the module, if no value does. -/
theorem Sound.native
    {moduleName : String}
    {s : Scope}
    (h : (FaultContract.invariant moduleName).Sound s) :
    (FaultContract.invariant moduleName).Sound s.native :=
  ⟨h.remaining, h.declared, h.nil, h.append, h.raised, h.recorded, h.mono, fun _ _ _ => trivial⟩

end Invariant

/-! ## One step -/

section Step

variable {s : Scope} {f g : Lower}

/-- An array keeps its element, refined, or is left without one and may gain it. -/
theorem follows_lowerArray
    (h : s.Widens)
    (array : String)
    (nullable : Bool)
    {element : Ty}
    (hx : Follows Nullable.RefinedBy (f s.passing element) (g s.native.passing element)) :
    Follows Nullable.RefinedBy (lowerArray f s array element nullable)
      (lowerArray g s.native array element nullable) := by
  refine hx.attempt.bind fun r r' hr => ?_
  cases r with
  | error e =>
      -- The first array has no element, so any end of the second will do.
      have hempty (element? : Option (Nullable SchemaType)) :
          Follows Nullable.RefinedBy (pure ⟨nullable, .array none⟩)
            (pure ⟨nullable, .array element?⟩) :=
        follows_pure ⟨rfl, .noElement element?⟩
      cases r' with
      | error e' =>
          exact hempty none
      | ok found' =>
          cases hword : found'.value.unstorable? with
          | some word =>
              simp only [hword]
              exact (hempty none).after_record (h.elements _ array word)
          | none =>
              simp only [hword]
              exact hempty (some found')
  | ok found =>
      obtain ⟨⟨_, b⟩, hb, rfl, hvalue⟩ := hr found rfl
      cases r' with
      | error e' =>
          cases hb
      | ok found' =>
          cases hb
          simp only [hvalue.unstorable?_eq]
          cases hword : found.value.unstorable? with
          | some word =>
              simp only []
              exact (follows_refl (fun _ => rfl) _).bind
                fun _ _ _ => follows_pure ⟨rfl, .noElement none⟩
          | none =>
              simp only []
              exact follows_pure ⟨rfl, .element hvalue⟩

/-- A reference to an enum has no value in the first module. -/
theorem follows_lowerReference
    (h : s.Widens)
    (node : Node)
    (name : String)
    (typeArgs : Option (List Ty))
    (nullable : Bool)
    (hsub : ∀ t, typeArgs = some [t] →
      Follows Nullable.RefinedBy (f s.passing t) (g s.native.passing t)) :
    Follows Nullable.RefinedBy (lowerReference f s node name typeArgs nullable)
      (lowerReference g s.native node name typeArgs nullable) := by
  unfold lowerReference
  split_ifs with hpromise harray
  · exact (follows_refl (fun _ => rfl) _).bind fun _ _ _ => follows_pure ⟨rfl, .refl _⟩
  · -- Only the argument itself has lowerings that follow, so it is looked at first.
    obtain _ | (_ | ⟨t, _ | ⟨t', ts⟩⟩) := typeArgs
    · exact follows_raise _ _
    · exact follows_raise _ _
    · exact follows_lowerArray h name nullable (hsub t rfl)
    · exact follows_raise _ _
  · cases SchemaType.named? name with
    | some a =>
        exact follows_pure ⟨rfl, .refl a⟩
    | none =>
        simp only [h.portable]
        exact follows_raise _ _

theorem follows_lowerUnion
    (h : s.Widens)
    (node : Node)
    (members : List Ty)
    (nullable : Bool) :
    Follows Nullable.RefinedBy (lowerUnion s node members nullable)
      (lowerUnion s.native node members nullable) := by
  rw [lowerUnion, h.portable]
  exact follows_raise _ _

theorem follows_lowerObjectMember
    (m : Member)
    (hsub : ∀ name t optional span, m = .property name (some t) optional span →
      Follows Nullable.RefinedBy (f s t) (g s.native t)) :
    Follows Shape.RefinedBy (lowerObjectMember f s m) (lowerObjectMember g s.native m) := by
  cases m with
  | property name type optional span =>
      cases type with
      | none =>
          exact follows_raise _ _
      | some t =>
          refine (hsub name t optional span rfl).bind fun found found' hfound => ?_
          rw [hfound.2.unstorable?_eq]
          cases found.value.unstorable? with
          | some word =>
              exact follows_raise _ _
          | none =>
              exact follows_pure ⟨rfl, rfl, hfound⟩
  | method name params result optional span =>
      exact follows_raise _ _
  | other kind name span =>
      exact follows_raise _ _

theorem follows_lowerParam
    (p : Param)
    (hsub : ∀ t, p.type = some t → Follows Nullable.RefinedBy (f s t) (g s.native t)) :
    Follows Shape.RefinedBy (lowerParam f s p) (lowerParam g s.native p) := by
  unfold lowerParam
  split
  · exact follows_raise _ _
  · rename_i t ht
    refine (hsub t ht).bind fun found found' hfound => ?_
    rw [hfound.2.unpassable?_eq]
    cases found.value.unpassable? with
    | some word =>
        exact follows_raise _ _
    | none =>
        exact follows_pure ⟨rfl, rfl, hfound⟩

/-- A function as a result has no value in the first module. -/
theorem follows_lowerResult
    (signature : Signature)
    (hsub : ∀ t, signature.result = some t →
      Follows Nullable.RefinedBy (f s t) (g s.native t)) :
    Follows Nullable.RefinedBy (lowerResult f s signature)
      (lowerResult g s.native signature) := by
  unfold lowerResult
  split
  · exact follows_raise _ _
  · rename_i t ht
    refine (hsub t ht).bind fun found found' hfound => ?_
    have hallowed : (!s.native.nativeOnly && found'.value.isFunction) = false := rfl
    simp only [hallowed, Bool.false_eq_true, if_false]
    split_ifs with hforbidden
    · exact follows_raise _ _
    · exact follows_pure hfound

theorem follows_lowerSignature
    (signature : Signature)
    (hparams : ∀ p, p ∈ signature.params →
      Follows (Retains Shape.RefinedBy) (s.capture.guard (lowerParam f s p))
        (s.native.capture.guard (lowerParam g s.native p)))
    (hresult : ∀ t, signature.result = some t →
      Follows Nullable.RefinedBy (f s t) (g s.native t)) :
    Follows SchemaType.RefinedBy (lowerSignature f s signature)
      (lowerSignature g s.native signature) := by
  refine (Lowering.follows_collect signature.params hparams).bind fun ps qs hps => ?_
  refine (follows_lowerResult signature hresult).bind fun x y hxy => ?_
  obtain ⟨nullable, a⟩ := x
  obtain ⟨nullable', b⟩ := y
  obtain ⟨rfl, hvalue⟩ := hxy
  exact follows_pure (.function hps hvalue)

theorem follows_lowerObject
    (members : List Member)
    (alias? : Option String)
    (nullable : Bool)
    (hmembers : ∀ m, m ∈ members →
      Follows (Retains Shape.RefinedBy) (s.capture.guard (lowerObjectMember f s m))
        (s.native.capture.guard (lowerObjectMember g s.native m))) :
    Follows Nullable.RefinedBy (lowerObject f s members alias? nullable)
      (lowerObject g s.native members alias? nullable) := by
  refine (Lowering.follows_collect members hmembers).bind fun ps qs hps => ?_
  cases alias? with
  | none =>
      exact follows_pure ⟨rfl, .object hps⟩
  | some name =>
      exact (Lowering.follows_register name hps).bind
        fun _ _ _ => follows_pure ⟨rfl, .alias name⟩

/-- One step follows when the lowerings beneath do and end in no fatal fault. -/
theorem follows_lowerStep
    (h : s.Widens)
    (hsound : (invariant s.moduleName).Sound s)
    {t : Ty}
    (ht : (Node.type t).Every (invariant s.moduleName).node)
    (hsub : ∀ u, u.Beneath (s.types.resolve t).type →
      Follows Nullable.RefinedBy (f s u) (g s.native u) ∧
        Follows Nullable.RefinedBy (f s.passing u) (g s.native.passing u))
    (hkept : (invariant s.moduleName).KeptBeneath f s (s.types.resolve t).type)
    (hkept' : (invariant s.moduleName).KeptBeneath g s.native (s.types.resolve t).type) :
    Follows Nullable.RefinedBy (lowerStep f s t) (lowerStep g s.native t) := by
  have hfound := Environment.every_resolve hsound.remaining hsound.declared ht
  have hsame : s.native.types.resolve t = s.types.resolve t := rfl
  simp only [lowerStep, hsame]
  cases htype : (s.types.resolve t).type with
  | array element span =>
      rw [htype] at hsub
      exact follows_lowerArray h _ _ (hsub element (.element element span)).2
  | operator word operand span =>
      rw [htype] at hsub
      simp only []
      split
      · rename_i element inner _
        exact follows_lowerArray h _ _ (hsub element (.operand word element inner span)).2
      · exact follows_raise _ _
  | reference name typeArgs span =>
      rw [htype] at hsub
      refine follows_lowerReference h _ name typeArgs _ ?_
      rintro u rfl
      exact (hsub u (.typeArg name u span)).2
  | object members span =>
      rw [htype] at hsub hkept hkept' hfound
      refine follows_lowerObject members _ _ fun m hm => ?_
      have hm' : (Node.member m).Every (invariant s.moduleName).node :=
        hfound.child (List.mem_map.2 ⟨m, hm, rfl⟩)
      refine Lowering.Follows.guard h.uniform ?_ ?_ (follows_lowerObjectMember m ?_)
      · refine (hsound.keeps_lowerObjectMember hm' ?_).recoverable
        rintro name u optional inner rfl
        exact (hkept u (.property span hm)).1
      · refine (hsound.native.keeps_lowerObjectMember hm' ?_).recoverable
        rintro name u optional inner rfl
        exact (hkept' u (.property span hm)).1
      · rintro name u optional inner rfl
        exact (hsub u (.property span hm)).1
  | keyword word span =>
      simp only []
      cases SchemaType.keyword? word with
      | some a =>
          exact follows_pure ⟨rfl, .refl a⟩
      | none =>
          simp only [h.portable, Bool.false_eq_true, and_false, if_false]
          exact follows_raise _ _
  | function params result span =>
      rw [htype] at hsub hkept hkept' hfound
      refine (follows_lowerSignature _ ?_ ?_).bind fun a b hab => follows_pure ⟨rfl, hab⟩
      · intro p hp
        have hp' : (Node.param p).Every (invariant s.moduleName).node :=
          hfound.child (List.mem_append_left _ (List.mem_map.2 ⟨p, hp, rfl⟩))
        refine Lowering.Follows.guard h.uniform ?_ ?_ (follows_lowerParam p ?_)
        · exact (hsound.keeps_lowerParam hp' fun u hu =>
            (hkept u (.param result span hp hu)).1).recoverable
        · exact (hsound.native.keeps_lowerParam hp' fun u hu =>
            (hkept' u (.param result span hp hu)).1).recoverable
        · exact fun u hu => (hsub u (.param result span hp hu)).1
      · rintro u rfl
        exact (hsub u (.result params u span)).1
  | union members span =>
      exact follows_lowerUnion h _ members _
  | literal value span =>
      exact follows_raise _ _
  | other kind span =>
      exact follows_raise _ _

end Step

/-! ## The whole lowering -/

/-- To every depth, the lowering for C++ alone refines the other if it settles. -/
theorem lowerWithin_follows
    {s : Scope}
    (h : s.Widens)
    (henv : s.types.Every (invariant s.moduleName).node)
    (depth : Nat)
    {t : Ty}
    (ht : (Node.type t).Every (invariant s.moduleName).node) :
    Follows Nullable.RefinedBy (lowerWithin depth s t) (lowerWithin depth s.native t) ∧
      Follows Nullable.RefinedBy (lowerWithin depth s.passing t)
        (lowerWithin depth s.native.passing t) := by
  have hsound : (invariant s.moduleName).SoundWithin s := invariant_sound henv
  have hnative : (invariant s.moduleName).SoundWithin s.native :=
    @invariant_sound s.native henv
  induction depth generalizing t with
  | zero =>
      exact ⟨Lowering.follows_endless _, Lowering.follows_endless _⟩
  | succ depth ih =>
      have hbeneath {u : Ty} (hu : u.Beneath (s.types.resolve t).type) :
          (Node.type u).Every (invariant s.moduleName).node :=
        hu.every (Environment.every_resolve hsound.remaining henv ht)
      constructor
      · exact follows_lowerStep h hsound.toSound ht (fun u hu => ih (hbeneath hu))
          (fun u hu => hsound.keeps_lowerWithin depth (hbeneath hu))
          (fun u hu => hnative.keeps_lowerWithin depth (hbeneath hu))
      · refine follows_lowerStep h.passing hsound.passing ht (fun u hu => ?_)
          (fun u hu => ?_) (fun u hu => ?_)
        · exact ⟨(ih (hbeneath hu)).2, (ih (hbeneath hu)).2⟩
        · exact ⟨(hsound.keeps_lowerWithin depth (hbeneath hu)).2,
            (hsound.keeps_lowerWithin depth (hbeneath hu)).2⟩
        · exact ⟨(hnative.keeps_lowerWithin depth (hbeneath hu)).2,
            (hnative.keeps_lowerWithin depth (hbeneath hu)).2⟩

end ModuleSpec
