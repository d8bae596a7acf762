import Mathlib.Tactic.Push
import ModuleSpec.Proofs.Lowering.Turn
import ModuleSpec.Proofs.Schema.Occurrence

/-!
# Where objects are registered

An object that a lowering registers is either its own or was registered by a
lowering that it turned to.  What that one gave is kept in the value, or in the
object that the value is an alias of, unless it was discarded: a property or a
parameter was dropped, or an array was left without its element.  Objects that
were registered before something is discarded stay registered.

**Idea.**  One step is taken apart: its events are those of what it turns to, in
order, and for each of these the step either keeps the value or discards it.

**Results.**  `Frame.registered_cases` for a lowering that gives a value, and
`Frame.registered_of_signature` for a signature.
-/

namespace ModuleSpec

/-! ## Events of what a lowering is put together from -/

namespace Lowering

section Rules

variable {α β : Type}

theorem events_bind_of_ok
    {x : Lowering α}
    {a : α}
    (h : x.outcome = .ok a)
    (g : α → Lowering β) :
    (x >>= g).events = x.events ++ (g a).events := by
  obtain ⟨outcome, events⟩ := x
  obtain rfl : outcome = .ok a := h
  rfl

theorem events_bind_of_silent
    {x : Lowering α}
    {g : α → Lowering β}
    (hg : ∀ a, (g a).events = []) :
    (x >>= g).events = x.events := by
  obtain ⟨halt | a, events⟩ := x
  · rfl
  · rw [bind_ok, hg, List.append_nil]

/-- A value that is given after a fault has been recorded registers nothing. -/
theorem not_registered_record
    {c : Capture}
    {f : Fault}
    {a : α}
    {x : Alias} :
    .registered x ∉ (c.record f >>= fun _ => (pure a : Lowering α)).events := by
  rw [events_bind_of_silent fun _ => rfl]
  unfold Capture.record
  split
  · exact fun h => by cases List.mem_singleton.1 h
  · exact List.not_mem_nil

/-- An event of a list that is lowered to an end is one of an entry that it comes to. -/
theorem exists_of_mem_events_collect
    {f : α → Lowering (Option β)}
    {as : List α}
    {bs : List β}
    {e : Event}
    (h : (collect f as).outcome = .ok bs)
    (he : e ∈ (collect f as).events) :
    ∃ before a after cs o, as = before ++ a :: after ∧
      (collect f before).outcome = .ok cs ∧ (f a).outcome = .ok o ∧
      (∀ b, o = some b → b ∈ bs) ∧ e ∈ (f a).events ∧
      (f a).events ⊆ (collect f as).events := by
  induction as generalizing bs with
  | nil =>
      cases he
  | cons a as ih =>
      obtain ⟨o, cs, ho, hcs, rfl⟩ := outcome_collect_cons_iff.1 h
      have hevents : (collect f (a :: as)).events = (f a).events ++ (collect f as).events := by
        rw [collect, events_bind_of_ok ho, events_bind_of_silent fun _ => rfl]
      rw [hevents] at he ⊢
      rcases List.mem_append.1 he with he | he
      · refine ⟨[], a, as, [], o, rfl, rfl, ho, ?_, he, List.subset_append_left _ _⟩
        rintro b rfl
        exact List.mem_append_left _ (List.mem_singleton.2 rfl)
      · obtain ⟨before, b, after, ds, o', rfl, hbefore, hb, hkept, he, hsub⟩ := ih hcs he
        refine ⟨a :: before, b, after, o.toList ++ ds, o', rfl, ?_, hb, ?_, he,
          List.subset_append_of_subset_right _ hsub⟩
        · exact outcome_collect_cons_iff.2 ⟨o, ds, ho, hbefore, rfl⟩
        · exact fun c hc => List.mem_append_right _ (hkept c hc)

/-- An object of a list under a capture was registered by an entry, dropped or kept. -/
theorem exists_of_registered_collect
    {c : Capture}
    {g : α → Lowering β}
    {as : List α}
    {bs : List β}
    {x : Alias}
    (h : (collect (fun a => c.guard (g a)) as).outcome = .ok bs)
    (hx : .registered x ∈ (collect (fun a => c.guard (g a)) as).events) :
    ∃ before a after cs, as = before ++ a :: after ∧
      (collect (fun a => c.guard (g a)) before).outcome = .ok cs ∧
      .registered x ∈ (g a).events ∧
      (g a).events ⊆ (collect (fun a => c.guard (g a)) as).events ∧
      ((∃ f, (g a).outcome = .error (.fault f)) ∨ ∃ b, b ∈ bs ∧ (g a).outcome = .ok b) := by
  obtain ⟨before, a, after, cs, o, rfl, hbefore, ho, hkept, hmem, hsub⟩ :=
    exists_of_mem_events_collect h hx
  refine ⟨before, a, after, cs, rfl, hbefore, Capture.registered_mem_guard.1 hmem,
    List.Subset.trans (c.events_subset_guard (g a)) hsub, ?_⟩
  rcases Capture.guard_eq_ok ho with ⟨b, rfl, hb, -⟩ | ⟨-, f, hf, -⟩
  · exact .inr ⟨b, hkept b rfl, hb⟩
  · exact .inl ⟨f, hf⟩

end Rules

end Lowering

/-! ## Members, parameters and results -/

section Step

variable {s : Scope} {x : Alias}

/-- An object that a property registers was registered by the lowering of its type. -/
theorem of_registered_lowerObjectMember
    {m : Member}
    (hx : .registered x ∈ (lowerObjectMember lower s m).events) :
    ∃ name u optional span, m = .property name (some u) optional span ∧
      (lowerObjectMember lower s m).events = (lower s u).events ∧
      ∀ p, (lowerObjectMember lower s m).outcome = .ok p → (lower s u).outcome = .ok p.type := by
  obtain ⟨name, _ | u, optional, span⟩ | ⟨name, params, result, optional, span⟩ |
    ⟨kind, name, span⟩ := m
  · cases hx
  · refine ⟨name, u, optional, span, rfl, ?_, ?_⟩
    · refine Lowering.events_bind_of_silent fun found => ?_
      cases found.value.unstorable? <;> rfl
    · intro p hp
      obtain ⟨found, hfound, hp⟩ := Lowering.outcome_bind_eq_ok_iff.1 hp
      cases hword : found.value.unstorable? with
      | some word =>
          simp only [hword] at hp
          cases hp
      | none =>
          simp only [hword] at hp
          cases hp
          exact hfound
  · cases hx
  · cases hx

/-- An object that a parameter registers was registered by the lowering of its type. -/
theorem of_registered_lowerParam
    {p : Param}
    (hx : .registered x ∈ (lowerParam lower s p).events) :
    ∃ u, p.type = some u ∧
      (lowerParam lower s p).events = (lower s u).events ∧
      ∀ q, (lowerParam lower s p).outcome = .ok q → (lower s u).outcome = .ok q.type := by
  unfold lowerParam at hx ⊢
  cases hu : p.type with
  | none =>
      rw [hu] at hx
      cases hx
  | some u =>
      refine ⟨u, rfl, ?_, ?_⟩
      · refine Lowering.events_bind_of_silent fun found => ?_
        cases found.value.unpassable? <;> rfl
      · intro q hq
        obtain ⟨found, hfound, hq⟩ := Lowering.outcome_bind_eq_ok_iff.1 hq
        cases hword : found.value.unpassable? with
        | some word =>
            simp only [hword] at hq
            cases hq
        | none =>
            simp only [hword] at hq
            cases hq
            exact hfound

/-- The events and the value of a result are those of its type. -/
theorem lowerResult_of_ok
    {signature : Signature}
    {found : Nullable SchemaType}
    (h : (lowerResult lower s signature).outcome = .ok found) :
    ∃ u, signature.result = some u ∧ (lower s u).outcome = .ok found ∧
      (lowerResult lower s signature).events = (lower s u).events := by
  unfold lowerResult at h ⊢
  cases hu : signature.result with
  | none =>
      rw [hu] at h
      cases h
  | some u =>
      rw [hu] at h
      obtain ⟨found', hfound, h⟩ := Lowering.outcome_bind_eq_ok_iff.1 h
      refine ⟨u, rfl, ?_, ?_⟩
      · split at h
        · cases h
        · cases h
          exact hfound
      · refine Lowering.events_bind_of_silent fun found => ?_
        split <;> rfl

end Step

/-! ## What is discarded -/

namespace Frame

/-- The first lowering turns to the second and does not keep what that gives. -/
inductive Discards : Frame → Frame → Prop
  | element
      {a : Frame}
      {u : Ty}
      (hu : a.found.type.element? = some u)
      (hlost : ∀ w, (lower a.scope.passing u).outcome = .ok w →
        w.value.unstorable?.isSome = true) :
      Discards a ⟨a.scope.passing, u⟩
  | property
      {a : Frame}
      {before after : List Member}
      {name : String}
      {u : Ty}
      {optional : Bool}
      {inner outer : Span}
      {shapes : List Shape}
      {f : Fault}
      (htype : a.found.type =
        .object (before ++ .property name (some u) optional inner :: after) outer)
      (hbefore : (lowerMembers lower a.scope before).outcome = .ok shapes)
      (hfault : (lowerObjectMember lower a.scope
        (.property name (some u) optional inner)).outcome = .error (.fault f)) :
      Discards a ⟨a.scope, u⟩
  | param
      {a : Frame}
      {before after : List Param}
      {p : Param}
      {u : Ty}
      {result : Option Ty}
      {span : Span}
      {shapes : List Shape}
      {f : Fault}
      (htype : a.found.type = .function (before ++ p :: after) result span)
      (hu : p.type = some u)
      (hbefore : (lowerParams lower a.scope before).outcome = .ok shapes)
      (hfault : (lowerParam lower a.scope p).outcome = .error (.fault f)) :
      Discards a ⟨a.scope, u⟩

/-- What the second lowering gives is part of the value. -/
def KeepsIn
    (b : Frame)
    (v : SchemaType) : Prop :=
  ∃ w, b.run.outcome = .ok w ∧ w.value.Part v

/-- The object was registered by a lowering turned to, which is kept in the value or discarded. -/
structure Inherits
    (a b : Frame)
    (v : SchemaType)
    (x : Alias)
    (es : List Event) : Prop where
  turns : TurnsTo lower a b
  registered : .registered x ∈ b.run.events
  events : b.run.events ⊆ es
  kept : a.Discards b ∨ b.KeepsIn v

variable {a : Frame} {x : Alias}

theorem inherits_of_members
    {members : List Member}
    {span : Span}
    {properties : List Shape}
    (htype : a.found.type = .object members span)
    (h : (lowerMembers lower a.scope members).outcome = .ok properties)
    (hx : .registered x ∈ (lowerMembers lower a.scope members).events) :
    ∃ b, a.Inherits b (.object properties) x (lowerMembers lower a.scope members).events := by
  obtain ⟨before, m, after, shapes, rfl, hbefore, hmem, hsub, hend⟩ :=
    Lowering.exists_of_registered_collect h hx
  obtain ⟨name, u, optional, inner, rfl, hevents, hvalue⟩ := of_registered_lowerObjectMember hmem
  rw [hevents] at hmem hsub
  refine ⟨⟨a.scope, u⟩, .property htype hbefore, hmem, hsub, ?_⟩
  rcases hend with ⟨f, hf⟩ | ⟨p, hp, hrun⟩
  · exact .inl (.property htype hbefore hf)
  · exact .inr ⟨p.type, hvalue p hrun, .property hp⟩

/-- An object that a signature registers was registered by a parameter or by the result. -/
theorem registered_of_signature
    {node : Node}
    {params : List Param}
    {result : Option Ty}
    {span : Span}
    {v : SchemaType}
    (htype : a.found.type = .function params result span)
    (h : (lowerSignature lower a.scope ⟨node, params, result⟩).outcome = .ok v)
    (hx : .registered x ∈ (lowerSignature lower a.scope ⟨node, params, result⟩).events) :
    ∃ b, a.Inherits b v x (lowerSignature lower a.scope ⟨node, params, result⟩).events := by
  obtain ⟨shapes, hshapes, h⟩ := Lowering.outcome_bind_eq_ok_iff.1 h
  obtain ⟨found, hfound, h⟩ := Lowering.outcome_bind_eq_ok_iff.1 h
  cases h
  obtain ⟨u, hu, hrun, hevents⟩ := lowerResult_of_ok hfound
  obtain rfl : result = some u := hu
  have hall : (lowerSignature lower a.scope ⟨node, params, some u⟩).events =
      (lowerParams lower a.scope params).events ++ (lower a.scope u).events := by
    rw [lowerSignature, Lowering.events_bind_of_ok hshapes,
      Lowering.events_bind_of_silent fun _ => rfl, hevents]
    rfl
  rw [hall] at hx ⊢
  rcases List.mem_append.1 hx with hx | hx
  · obtain ⟨before, p, after, cs, rfl, hbefore, hmem, hsub, hend⟩ :=
      Lowering.exists_of_registered_collect hshapes hx
    obtain ⟨t, ht, hevents, hvalue⟩ := of_registered_lowerParam hmem
    rw [hevents] at hmem hsub
    refine ⟨⟨a.scope, t⟩, .param htype ht hbefore, hmem,
      List.subset_append_of_subset_left _ hsub, ?_⟩
    rcases hend with ⟨f, hf⟩ | ⟨q, hq, hq'⟩
    · exact .inl (.param htype ht hbefore hf)
    · exact .inr ⟨q.type, hvalue q hq', .param found hq⟩
  · exact ⟨⟨a.scope, u⟩, .result htype hshapes, hx, List.subset_append_right _ _,
      .inr ⟨found, hrun, .result shapes found⟩⟩

/-- An object that an array registers was registered by its element, which it may lack. -/
theorem inherits_of_element
    {array : String}
    {u : Ty}
    {nullable : Bool}
    {v : Nullable SchemaType}
    (hu : a.found.type.element? = some u)
    (h : (lowerArray lower a.scope array u nullable).outcome = .ok v)
    (hx : .registered x ∈ (lowerArray lower a.scope array u nullable).events) :
    ∃ b, a.Inherits b v.value x (lowerArray lower a.scope array u nullable).events := by
  obtain ⟨r, hr, h⟩ := Lowering.outcome_bind_eq_ok_iff.1 h
  rw [lowerArray, Lowering.events_bind_of_ok hr, Lowering.events_attempt] at hx ⊢
  have hmem : .registered x ∈ (lower a.scope.passing u).events := by
    refine (List.mem_append.1 hx).resolve_right ?_
    cases r with
    | error e =>
        exact List.not_mem_nil
    | ok found =>
        cases hword : found.value.unstorable? with
        | some word =>
            simp only [hword]
            exact Lowering.not_registered_record
        | none =>
            simp only [hword]
            exact List.not_mem_nil
  refine ⟨⟨a.scope.passing, u⟩, .element hu, hmem, List.subset_append_left _ _, ?_⟩
  by_cases hlost : ∀ w, (lower a.scope.passing u).outcome = .ok w →
      w.value.unstorable?.isSome = true
  · exact .inl (.element hu hlost)
  · push Not at hlost
    obtain ⟨w, hw, hstorable⟩ := hlost
    refine .inr ⟨w, hw, ?_⟩
    rw [Lowering.attempt, hw] at hr
    cases hr
    have hnone : w.value.unstorable? = none := by simpa using hstorable
    simp only [hnone] at h
    cases h
    exact .element w

/-- The name that a step registers an object under is what it gives, after its properties. -/
theorem lowerObject_of_ok
    {members : List Member}
    {alias? : Option String}
    {nullable : Bool}
    {v : Nullable SchemaType}
    (h : (lowerObject lower a.scope members alias? nullable).outcome = .ok v) :
    ∃ properties, (lowerMembers lower a.scope members).outcome = .ok properties ∧
      ((v.value = .object properties ∧
          (lowerObject lower a.scope members alias? nullable).events =
            (lowerMembers lower a.scope members).events) ∨
        ∃ name, v.value = .alias name ∧
          (lowerObject lower a.scope members alias? nullable).events =
            (lowerMembers lower a.scope members).events ++ [.registered ⟨name, properties⟩]) := by
  obtain ⟨properties, hproperties, h⟩ := Lowering.outcome_bind_eq_ok_iff.1 h
  refine ⟨properties, hproperties, ?_⟩
  cases alias? with
  | none =>
      cases h
      refine .inl ⟨rfl, ?_⟩
      rw [lowerObject, Lowering.events_bind_of_ok hproperties]
      exact List.append_nil _
  | some name =>
      cases h
      refine .inr ⟨name, rfl, ?_⟩
      rw [lowerObject, Lowering.events_bind_of_ok hproperties]
      rfl

/--
An object that a step to an object registers is the one that its value is an alias
of, or was registered by a property, which is kept or discarded.
-/
theorem registered_of_object
    {members : List Member}
    {span : Span}
    {alias? : Option String}
    {nullable : Bool}
    {v : Nullable SchemaType}
    (htype : a.found.type = .object members span)
    (h : (lowerObject lower a.scope members alias? nullable).outcome = .ok v)
    (hx : .registered x ∈ (lowerObject lower a.scope members alias? nullable).events) :
    v.value = .alias x.name ∨
      (∃ b, a.Inherits b v.value x
        (lowerObject lower a.scope members alias? nullable).events) ∨
      ∃ o b, v.value = .alias o.name ∧
        .registered o ∈ (lowerObject lower a.scope members alias? nullable).events ∧
        a.Inherits b o.object x (lowerObject lower a.scope members alias? nullable).events := by
  obtain ⟨properties, hproperties, ⟨hv, hevents⟩ | ⟨name, hv, hevents⟩⟩ := lowerObject_of_ok h
  · rw [hevents] at hx ⊢
    obtain ⟨b, hb⟩ := inherits_of_members htype hproperties hx
    exact .inr (.inl ⟨b, by rwa [hv]⟩)
  · rw [hevents] at hx ⊢
    rcases List.mem_append.1 hx with hx | hx
    · obtain ⟨b, hb⟩ := inherits_of_members htype hproperties hx
      exact .inr (.inr ⟨⟨name, properties⟩, b, hv,
        List.mem_append_right _ (List.mem_singleton.2 rfl),
        hb.turns, hb.registered, List.subset_append_of_subset_left _ hb.events, hb.kept⟩)
    · cases List.mem_singleton.1 hx
      exact .inl hv

/--
An object that a lowering registers is the one that its value is an alias of, or
was registered by a lowering that it turned to.  What that gave is discarded, or
is part of the value or of the object that the value is an alias of.
-/
theorem registered_cases
    {v : Nullable SchemaType}
    (h : a.run.outcome = .ok v)
    (hx : .registered x ∈ a.run.events) :
    v.value = .alias x.name ∨
      (∃ b, a.Inherits b v.value x a.run.events) ∨
      ∃ o b, v.value = .alias o.name ∧ .registered o ∈ a.run.events ∧
        a.Inherits b o.object x a.run.events := by
  have hstep : a.run = lowerStep lower a.scope a.type := by
    refine lower_eq_lowerStep fun hendless => ?_
    have hok : (lower a.scope a.type).outcome = .ok v := h
    rw [hok] at hendless
    cases hendless
  rw [hstep] at h hx ⊢
  rcases a.found.type.bare_cases with
    ⟨u, hu⟩ | ⟨members, span, htype⟩ | ⟨params, result, span, htype⟩ | hbare
  · obtain ⟨array, harray⟩ := lowerStep_of_element? hu
    rw [harray] at h hx ⊢
    exact .inr (.inl (inherits_of_element hu h hx))
  · rw [lowerStep_of_object htype] at h hx ⊢
    exact registered_of_object htype h hx
  · rw [lowerStep_of_function htype, Lowering.events_bind_of_silent fun _ => rfl] at hx ⊢
    rw [lowerStep_of_function htype] at h
    obtain ⟨value, hvalue, h⟩ := Lowering.outcome_bind_eq_ok_iff.1 h
    cases h
    exact .inr (.inl (registered_of_signature htype hvalue hx))
  · rw [(immediate_lowerStep hbare).events_eq_nil] at hx
    cases hx

end Frame

end ModuleSpec
