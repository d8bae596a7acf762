import Mathlib.Data.List.Forall2
import ModuleSpec.Build
import ModuleSpec.Proofs.Lowering.Turn
import ModuleSpec.Proofs.Schema.Occurrence

/-!
# What a value has of its annotation

A value that is lowered from an annotation has the properties, the parameters and
the result that the annotation has, under the same names and with the same flags.
A property or a parameter is left out only where its own lowering ends with a
fault, and an array is left without an element only where the element cannot be
lowered with every fault let through or cannot be stored.

`Built.Renders` is this relation between annotations and values.  It is relative
to a schema and the faults recorded with it: what is left out has a fault among
them, and an alias is a name of the table.

**Idea.**  The events of a lowering are those of its parts.  So if a schema has
all events of a lowering it has those of every part, and what is left out was
recorded by the event of its own fault.

**Results.**  The value of a lowering renders the annotation in every schema that
includes the events of the lowering (`rendersBeneath_lower`), and likewise for a
method (`yields_lowerProperty`).
-/

namespace ModuleSpec

/-! ## Places -/

/-- Where a schema has a named value: a method, a property or a parameter. -/
inductive Place
  | method (m : Member)
  | property (m : Member)
  | param (p : Param)

namespace Place

/-- The name that the source gives, and whether it says that the value may be left out. -/
def label : Place → String × Bool
  | method m => (m.name, m.optional)
  | property m => (m.name, m.optional)
  | param p => (p.name, p.optional)

/-- The annotation of a property or a parameter. -/
def type? : Place → Option Ty
  | method _ => none
  | property (.property _ type _ _) => type
  | property _ => none
  | param p => p.type

/-- What the place is lowered to. -/
def run (s : Scope) : Place → Lowering Shape
  | method m => lowerProperty s m
  | property m => lowerObjectMember lower s m
  | param p => lowerParam lower s p

end Place

def Shape.label (x : Shape) : String × Bool :=
  (x.name, x.optional)

/-! ## The relation -/

namespace Built

/-- The element has a fault with every fault let through, or a recorded one. -/
def LosesElement
    (built : Built)
    (s : Scope)
    (element : Ty) : Prop :=
  (∃ f, (lower s.passing element).outcome = .error (.fault f)) ∨
    ∃ x array word, (lower s.passing element).outcome = .ok x ∧
      x.value.unstorable? = some word ∧
      s.fault (.type element) (.arrayElement array word) ∈ built.faults

mutual

/-- The value has all that the annotation has, but for what has a recorded fault. -/
inductive Renders (built : Built) : Scope → Ty → Nullable SchemaType → Prop
  | bare
      {s : Scope}
      {t : Ty}
      {a : SchemaType}
      (htype : (s.types.resolve t).type.Bare)
      (hatomic : a.Atomic) :
      Renders built s t ⟨(s.types.resolve t).nullable, a⟩
  | element
      {s : Scope}
      {t u : Ty}
      {x : Nullable SchemaType}
      (hu : (s.types.resolve t).type.element? = some u)
      (hx : Renders built s.passing u x) :
      Renders built s t ⟨(s.types.resolve t).nullable, .array (some x)⟩
  | noElement
      {s : Scope}
      {t u : Ty}
      (hu : (s.types.resolve t).type.element? = some u)
      (hlost : built.LosesElement s u) :
      Renders built s t ⟨(s.types.resolve t).nullable, .array none⟩
  | object
      {s : Scope}
      {t : Ty}
      {members : List Member}
      {span : Span}
      {properties : List Shape}
      (htype : (s.types.resolve t).type = .object members span)
      (halias : (s.types.resolve t).alias? = none)
      (hproperties : RendersPlaces built s (members.map .property) properties) :
      Renders built s t ⟨(s.types.resolve t).nullable, .object properties⟩
  | named
      {s : Scope}
      {t : Ty}
      {members : List Member}
      {span : Span}
      {name : String}
      (htype : (s.types.resolve t).type = .object members span)
      (halias : (s.types.resolve t).alias? = some name)
      (hname : name ∈ built.schema.aliases.names) :
      Renders built s t ⟨(s.types.resolve t).nullable, .alias name⟩
  | function
      {s : Scope}
      {t u : Ty}
      {params : List Param}
      {span : Span}
      {shapes : List Shape}
      {x : Nullable SchemaType}
      (htype : (s.types.resolve t).type = .function params (some u) span)
      (hparams : RendersPlaces built s (params.map .param) shapes)
      (hresult : Renders built s u x) :
      Renders built s t ⟨(s.types.resolve t).nullable, .function shapes x⟩

/-- The shape is that of the place, and its value renders what is declared there. -/
inductive RendersPlace (built : Built) : Scope → Place → Shape → Prop
  | annotated
      {s : Scope}
      {p : Place}
      {t : Ty}
      {x : Nullable SchemaType}
      (ht : p.type? = some t)
      (hx : Renders built s t x) :
      RendersPlace built s p ⟨p.label.1, p.label.2, x⟩
  | method
      {s : Scope}
      {m : Member}
      {found : Nullable Signature}
      {u : Ty}
      {shapes : List Shape}
      {x : Nullable SchemaType}
      (hfound : (memberSignature s m).outcome = .ok found)
      (hu : found.value.result = some u)
      (hparams : RendersPlaces built s (found.value.params.map .param) shapes)
      (hresult : Renders built s u x) :
      RendersPlace built s (.method m)
        ⟨m.name, m.optional, ⟨found.nullable, .function shapes x⟩⟩

/-- The shapes are those of the places, in order, less places with a recorded fault. -/
inductive RendersPlaces (built : Built) : Scope → List Place → List Shape → Prop
  | nil
      {s : Scope} :
      RendersPlaces built s [] []
  | kept
      {s : Scope}
      {p : Place}
      {ps : List Place}
      {x : Shape}
      {xs : List Shape}
      (hx : RendersPlace built s p x)
      (hxs : RendersPlaces built s ps xs) :
      RendersPlaces built s (p :: ps) (x :: xs)
  | dropped
      {s : Scope}
      {p : Place}
      {f : Fault}
      {ps : List Place}
      {xs : List Shape}
      (hrun : (p.run s).outcome = .error (.fault f))
      (haccepts : s.capture.accepts f = true)
      (hf : f ∈ built.faults)
      (hxs : RendersPlaces built s ps xs) :
      RendersPlaces built s (p :: ps) xs

end

section Labels

variable {built : Built} {s : Scope}

theorem RendersPlace.label_eq
    {p : Place}
    {x : Shape}
    (h : built.RendersPlace s p x) :
    x.label = p.label := by
  cases h <;> rfl

/-- What is left of a list of places keeps its names, flags and order. -/
theorem RendersPlaces.sublist
    {ps : List Place}
    {xs : List Shape}
    (h : built.RendersPlaces s ps xs) :
    (xs.map Shape.label).Sublist (ps.map Place.label) := by
  induction ps generalizing xs with
  | nil =>
      cases h
      exact List.Sublist.slnil
  | cons p ps ih =>
      cases h with
      | kept hx hxs =>
          rw [List.map_cons, List.map_cons, hx.label_eq]
          exact (ih hxs).cons_cons _
      | dropped hrun haccepts hf hxs => exact (ih hxs).cons _

/-- Without a recorded fault every place is there. -/
theorem RendersPlaces.forall₂
    (hfaults : built.faults = [])
    {ps : List Place}
    {xs : List Shape}
    (h : built.RendersPlaces s ps xs) :
    List.Forall₂ (built.RendersPlace s) ps xs := by
  induction ps generalizing xs with
  | nil =>
      cases h
      exact .nil
  | cons p ps ih =>
      cases h with
      | kept hx hxs => exact .cons hx (ih hxs)
      | dropped hrun haccepts hf hxs =>
          rw [hfaults] at hf
          cases hf

theorem RendersPlaces.labels_eq
    (hfaults : built.faults = [])
    {ps : List Place}
    {xs : List Shape}
    (h : built.RendersPlaces s ps xs) :
    xs.map Shape.label = ps.map Place.label :=
  h.sublist.eq_of_length (by simpa using (h.forall₂ hfaults).length_eq.symm)

/-- Without a recorded fault only an element that cannot be lowered is lost. -/
theorem LosesElement.exists_fault
    (hfaults : built.faults = [])
    {element : Ty}
    (h : built.LosesElement s element) :
    ∃ f, (lower s.passing element).outcome = .error (.fault f) := by
  rcases h with hfault | ⟨x, array, word, -, -, hf⟩
  · exact hfault
  · rw [hfaults] at hf
    cases hf

end Labels

end Built

/-! ## Lowerings whose events a schema includes -/

namespace Built

/-- The schema has the names of the objects, and the faults are recorded with it. -/
structure Includes
    (built : Built)
    (es : List Event) : Prop where
  names : ∀ a, .registered a ∈ es → a.name ∈ built.schema.aliases.names
  faults : ∀ f, .recorded fileChannel f ∈ es → f ∈ built.faults

theorem Includes.of_subset
    {built : Built}
    {es es' : List Event}
    (h : built.Includes es')
    (hes : es ⊆ es') :
    built.Includes es :=
  ⟨fun a ha => h.names a (hes ha), fun f hf => h.faults f (hes hf)⟩

/-- A value that the lowering gives is as `post` says, if its events are included. -/
def Yields
    (built : Built)
    {α : Type}
    (post : α → Prop)
    (x : Lowering α) : Prop :=
  ∀ a, x.outcome = .ok a → built.Includes x.events → post a

section Rules

variable {built : Built} {α β : Type}

theorem yields_pure
    {post : α → Prop}
    {a : α}
    (h : post a) :
    built.Yields post (pure a : Lowering α) := by
  rintro _ ⟨⟩ -
  exact h

theorem yields_halt
    (post : α → Prop)
    (e : Halt) :
    built.Yields post (.halt e : Lowering α) :=
  nofun

theorem yields_raise
    (post : α → Prop)
    (f : Fault) :
    built.Yields post (.raise f : Lowering α) :=
  nofun

theorem yields_true
    (x : Lowering α) :
    built.Yields (fun _ => True) x :=
  fun _ _ _ => trivial

theorem yields_bind
    {mid : α → Prop}
    {post : β → Prop}
    {x : Lowering α}
    {f : α → Lowering β}
    (hx : built.Yields mid x)
    (hf : ∀ a, x.outcome = .ok a → mid a → built.Yields post (f a)) :
    built.Yields post (x >>= f) := by
  obtain ⟨halt | a, events⟩ := x
  · exact nofun
  · intro b hb hincluded
    have ha : mid a := hx a rfl (hincluded.of_subset (List.subset_append_left _ _))
    exact hf a rfl ha b hb (hincluded.of_subset (List.subset_append_right _ _))

theorem yields_emit
    (e : Event) :
    built.Yields (fun _ => built.Includes [e]) (.emit e) :=
  fun _ _ hincluded => hincluded

theorem yields_record
    (c : Capture)
    (f : Fault) :
    built.Yields (fun _ => c.channel = fileChannel → f ∈ built.faults) (c.record f) := by
  unfold Capture.record
  split_ifs
  · refine fun _ _ hincluded hchannel => hincluded.faults f ?_
    rw [← hchannel]
    exact List.mem_cons_self
  · exact yields_raise _ f

/-- An attempt gives the value, or the fault that the lowering ends with. -/
theorem yields_attempt
    {post : α → Prop}
    {x : Lowering α}
    (hx : built.Yields post x) :
    built.Yields
      (fun r => x.outcome = r.mapError Halt.fault ∧ ∀ a, r = .ok a → post a) x.attempt := by
  obtain ⟨(f | _ | _) | a, events⟩ := x
  · rintro _ ⟨⟩ -
    exact ⟨rfl, nofun⟩
  · exact nofun
  · exact nofun
  · rintro _ ⟨⟩ hincluded
    refine ⟨rfl, ?_⟩
    rintro _ ⟨⟩
    exact hx a rfl hincluded

/-- A capture gives the value, or nothing and has recorded the fault. -/
theorem yields_guard
    {post : α → Prop}
    {x : Lowering α}
    (c : Capture)
    (hx : built.Yields post x) :
    built.Yields
      (fun o => (∀ a, o = some a → post a) ∧
        (o = none → ∃ f, x.outcome = .error (.fault f) ∧ c.accepts f = true ∧
          (c.channel = fileChannel → f ∈ built.faults)))
      (c.guard x) := by
  intro o ho hincluded
  rcases Capture.guard_eq_ok ho with ⟨a, rfl, ha, hevents⟩ | ⟨rfl, f, hf, haccepts, hrecorded⟩
  · rw [hevents] at hincluded
    refine ⟨?_, nofun⟩
    rintro _ ⟨⟩
    exact hx a ha hincluded
  · refine ⟨nofun, fun _ => ⟨f, hf, haccepts, fun hchannel => hincluded.faults f ?_⟩⟩
    rwa [← hchannel]

end Rules

end Built

/-- What the captures of the scope accept is recorded on the channel of the file. -/
structure Scope.RecordsOnFile (s : Scope) : Prop where
  capture : ∀ f, s.capture.accepts f = true → s.capture.channel = fileChannel
  sink : s.sink.channel = fileChannel

theorem Scope.RecordsOnFile.passing
    {s : Scope}
    (h : s.RecordsOnFile) :
    s.passing.RecordsOnFile :=
  ⟨nofun, h.sink⟩

theorem recordsOnFile_memberScope
    (moduleName : String)
    (env : Environment)
    (nativeOnly : Bool) :
    (memberScope moduleName env nativeOnly).RecordsOnFile :=
  ⟨fun _ _ => rfl, rfl⟩

namespace Lowering

/-- A lowering ends as one below it does. -/
theorem Below.outcome_eq
    {α : Type}
    {x y : Lowering α}
    (h : Below x y)
    {o : Except Halt α}
    (hx : x.outcome = o)
    (ho : o ≠ .error .endless) :
    y.outcome = o := by
  have hend : x.Terminates := by
    rwa [Terminates, hx]
  rw [h hend, hx]

end Lowering

open Lowering (Below)

namespace Built

/-! ## Lists -/

section Lists

variable {built : Built} {s : Scope}

/-- A list of places is rendered when each place is that is not left out. -/
theorem yields_collect
    {α : Type}
    (hs : s.RecordsOnFile)
    (place : α → Place)
    {g : α → Lowering Shape}
    (as : List α)
    (hg : ∀ a, a ∈ as → built.Yields (built.RendersPlace s (place a)) (g a))
    (hbelow : ∀ a, a ∈ as → Below (g a) ((place a).run s)) :
    built.Yields (built.RendersPlaces s (as.map place))
      (Lowering.collect (fun a => s.capture.guard (g a)) as) := by
  induction as with
  | nil =>
      exact yields_pure .nil
  | cons a as ih =>
      have has := ih (fun b hb => hg b (List.mem_cons_of_mem a hb))
        fun b hb => hbelow b (List.mem_cons_of_mem a hb)
      refine yields_bind (yields_guard s.capture (hg a List.mem_cons_self)) ?_
      rintro o - ⟨hkept, hdropped⟩
      refine yields_bind has fun xs _ hxs => yields_pure ?_
      cases o with
      | some x =>
          exact .kept (hkept x rfl) hxs
      | none =>
          obtain ⟨f, hf, haccepts, hrecorded⟩ := hdropped rfl
          have hrun := (hbelow a List.mem_cons_self).outcome_eq hf nofun
          exact .dropped hrun haccepts (hrecorded (hs.capture f haccepts)) hxs

end Lists

/-! ## One step -/

/-- What is lowered beneath renders, and is the lowering if it ends. -/
structure RendersBeneath
    (built : Built)
    (sub : Lower) : Prop where
  below : ∀ s t, Below (sub s t) (lower s t)
  yields : ∀ s t, s.RecordsOnFile → built.Yields (built.Renders s t) (sub s t)

section Step

variable {built : Built} {sub : Lower} {s : Scope}

theorem yields_lowerArray
    (hsub : built.RendersBeneath sub)
    (hs : s.RecordsOnFile)
    {t u : Ty}
    (hu : (s.types.resolve t).type.element? = some u)
    (array : String) :
    built.Yields (built.Renders s t)
      (lowerArray sub s array u (s.types.resolve t).nullable) := by
  refine yields_bind (yields_attempt (hsub.yields s.passing u hs.passing)) ?_
  rintro r - ⟨houtcome, hpost⟩
  cases r with
  | error f =>
      exact yields_pure (.noElement hu (.inl ⟨f, (hsub.below _ _).outcome_eq houtcome nofun⟩))
  | ok x =>
      cases hword : x.value.unstorable? with
      | some word =>
          simp only [hword]
          refine yields_bind (yields_record s.sink _) ?_
          rintro _ - hrecorded
          have hrun := (hsub.below _ _).outcome_eq houtcome nofun
          exact yields_pure
            (.noElement hu (.inr ⟨x, array, word, hrun, hword, hrecorded hs.sink⟩))
      | none =>
          simp only [hword]
          exact yields_pure (.element hu (hpost x rfl))

theorem yields_lowerObjectMember
    (hsub : built.RendersBeneath sub)
    (hs : s.RecordsOnFile)
    (m : Member) :
    built.Yields (built.RendersPlace s (.property m)) (lowerObjectMember sub s m) := by
  cases m with
  | property name type optional span =>
      cases type with
      | none =>
          exact yields_raise _ _
      | some t =>
          refine yields_bind (hsub.yields s t hs) fun x _ hx => ?_
          cases hword : x.value.unstorable? with
          | some word =>
              exact yields_raise _ _
          | none =>
              exact yields_pure (.annotated rfl hx)
  | method name params result optional span =>
      exact yields_raise _ _
  | other kind name span =>
      exact yields_raise _ _

theorem yields_lowerMembers
    (hsub : built.RendersBeneath sub)
    (hs : s.RecordsOnFile)
    (members : List Member) :
    built.Yields (built.RendersPlaces s (members.map .property)) (lowerMembers sub s members) :=
  yields_collect hs .property members (fun m _ => yields_lowerObjectMember hsub hs m) fun m _ =>
    (companions_below s).lowerObjectMember m fun _ _ _ _ _ => hsub.below _ _

theorem yields_lowerObject
    (hsub : built.RendersBeneath sub)
    (hs : s.RecordsOnFile)
    {t : Ty}
    {members : List Member}
    {span : Span}
    (htype : (s.types.resolve t).type = .object members span) :
    built.Yields (built.Renders s t)
      (lowerObject sub s members (s.types.resolve t).alias? (s.types.resolve t).nullable) := by
  refine yields_bind (yields_lowerMembers hsub hs members) fun properties _ hproperties => ?_
  cases halias : (s.types.resolve t).alias? with
  | none =>
      exact yields_pure (.object htype halias hproperties)
  | some name =>
      refine yields_bind (yields_emit _) fun _ _ hincluded => yields_pure ?_
      exact .named htype halias (hincluded.names _ List.mem_cons_self)

theorem yields_lowerParam
    (hsub : built.RendersBeneath sub)
    (hs : s.RecordsOnFile)
    (p : Param) :
    built.Yields (built.RendersPlace s (.param p)) (lowerParam sub s p) := by
  unfold lowerParam
  split
  · exact yields_raise _ _
  · rename_i t ht
    refine yields_bind (hsub.yields s t hs) fun x _ hx => ?_
    cases hword : x.value.unpassable? with
    | some word =>
        exact yields_raise _ _
    | none =>
        exact yields_pure (.annotated ht hx)

/-- The annotation is a function with what is left of the parameters and the result. -/
theorem yields_lowerSignature
    (hsub : built.RendersBeneath sub)
    (hs : s.RecordsOnFile)
    (signature : Signature) :
    built.Yields
      (fun a => ∃ u shapes x, a = .function shapes x ∧ signature.result = some u ∧
        built.RendersPlaces s (signature.params.map .param) shapes ∧ built.Renders s u x)
      (lowerSignature sub s signature) := by
  have hparams : built.Yields (built.RendersPlaces s (signature.params.map .param))
      (lowerParams sub s signature.params) :=
    yields_collect hs .param _ (fun p _ => yields_lowerParam hsub hs p) fun p _ =>
      (companions_below s).lowerParam p fun _ _ => hsub.below _ _
  have hresult : built.Yields (fun x => ∃ u, signature.result = some u ∧ built.Renders s u x)
      (lowerResult sub s signature) := by
    unfold lowerResult
    split
    · exact yields_raise _ _
    · rename_i u hu
      refine yields_bind (hsub.yields s u hs) fun x _ hx => ?_
      split_ifs
      · exact yields_raise _ _
      · exact yields_pure ⟨u, hu, hx⟩
  refine yields_bind hparams fun shapes _ hshapes => ?_
  refine yields_bind hresult fun x _ ⟨u, hu, hx⟩ => yields_pure ?_
  exact ⟨u, shapes, x, rfl, hu, hshapes, hx⟩

/-- One step renders if the lowerings beneath do. -/
theorem yields_lowerStep
    (hsub : built.RendersBeneath sub)
    (hs : s.RecordsOnFile)
    (t : Ty) :
    built.Yields (built.Renders s t) (lowerStep sub s t) := by
  rcases (s.types.resolve t).type.bare_cases with
    ⟨u, hu⟩ | ⟨members, span, htype⟩ | ⟨params, result, span, htype⟩ | hbare
  · obtain ⟨array, hstep⟩ := lowerStep_of_element? hu
    rw [hstep]
    exact yields_lowerArray hsub hs hu array
  · rw [lowerStep_of_object htype]
    exact yields_lowerObject hsub hs htype
  · rw [lowerStep_of_function htype]
    refine yields_bind (yields_lowerSignature hsub hs _) ?_
    rintro _ - ⟨u, shapes, x, rfl, rfl, hshapes, hx⟩
    exact yields_pure (.function htype hshapes hx)
  · rintro ⟨nullable, a⟩ ha -
    obtain ⟨rfl, hatomic⟩ := (immediate_lowerStep hbare).of_ok ha
    exact .bare hbare hatomic

end Step

/-! ## All lowerings -/

section Runs

variable {built : Built} {s : Scope}

theorem rendersBeneath_lowerWithin
    (built : Built)
    (depth : Nat) :
    built.RendersBeneath (lowerWithin depth) := by
  refine ⟨fun _ _ hend => lower_eq_lowerWithin hend, ?_⟩
  induction depth with
  | zero =>
      exact fun _ _ _ => yields_halt _ _
  | succ depth ih =>
      exact fun _ t hs => yields_lowerStep ⟨fun _ _ hend => lower_eq_lowerWithin hend, ih⟩ hs t

/-- The value of an annotation renders it, if the events of its lowering are included. -/
theorem rendersBeneath_lower
    (built : Built) :
    built.RendersBeneath lower :=
  ⟨fun _ _ => Below.refl _, fun s t hs => (rendersBeneath_lowerWithin built _).yields s t hs⟩

/-- The method that a member is lowered to is rendered as well. -/
theorem yields_lowerProperty
    (hs : s.RecordsOnFile)
    (m : Member) :
    built.Yields (built.RendersPlace s (.method m)) (lowerProperty s m) := by
  refine yields_bind (yields_true _) fun found hfound _ => ?_
  refine yields_bind (yields_lowerSignature (rendersBeneath_lower built) hs _) ?_
  rintro _ - ⟨u, shapes, x, rfl, hu, hshapes, hx⟩
  exact yields_pure (.method hfound hu hshapes hx)

end Runs

end Built

end ModuleSpec
