import ModuleSpec.Proofs.Lowering.Descent
import ModuleSpec.Proofs.Schema.Occurrence
import ModuleSpec.Property

/-!
# Invariants of lowering

An invariant says something of every value that a lowering gives, of every event
that happens on the way and of every fault that ends it.  `Invariant.Sound`
lists what one step may do with values, events and faults; an invariant that is
sound in this sense is kept by every lowering, however deep it goes.

What is said of a value may depend on the events of the lowering that gives it.
More events never make it false.

**Results.**  One step keeps a sound invariant if the lowerings beneath do
(`keeps_lowerStep`).  By induction on the depth so does every lowering of an
annotation (`keeps_lower`), and with it that of a signature and of a member of
the module's interface (`keeps_lowerProperty`).  An invariant that is about faults
alone is sound as soon as it allows the faults that a step raises
(`soundWithin_ofFaults`), and one that is about registered objects alone as soon as
it allows what a step registers (`soundWithin_ofRegistered`).
-/

namespace ModuleSpec

/-- What is said of nodes, of faults, of events, and of a value given the events. -/
structure Invariant where
  node : Node → Prop
  fault : Fault → Prop
  events : List Event → Prop
  value : List Event → SchemaType → Prop

namespace Invariant

/-- A lowering ends with a value as described, with a fault, or with an empty union. -/
def Ends
    (inv : Invariant)
    {α : Type}
    (post : α → Prop) :
    Except Halt α → Prop
  | .ok a => post a
  | .error (.fault f) => inv.fault f
  | .error .emptyUnion => ∃ span, inv.node (.type (.union [] span))
  | .error .endless => True

/-- The events of a lowering and its end are as the invariant and `post` say. -/
structure Keeps
    (inv : Invariant)
    {α : Type}
    (post : List Event → α → Prop)
    (x : Lowering α) : Prop where
  events : inv.events x.events
  ends : inv.Ends (post x.events) x.outcome

/-- What one step does with values, events and faults does not break the invariant. -/
structure Sound
    (inv : Invariant)
    (scope : Scope) : Prop where
  remaining : KeepsRemaining inv.node
  declared : scope.types.Every inv.node
  nil : inv.events []
  append : ∀ {es es'}, inv.events es → inv.events es' → inv.events (es ++ es')
  raised : ∀ {n cause}, inv.node n → cause.kind.fatal = false →
    inv.fault (scope.fault n cause)
  recorded : ∀ {channel f}, inv.fault f → inv.events [.recorded channel f]
  mono : ∀ {es es' a}, es ⊆ es' → inv.value es a → inv.value es' a
  compose : ∀ {es a}, a.Legal scope.nativeOnly → (∀ name, a ≠ .alias name) →
    (∀ b, b.Part a → inv.value es b) → inv.value es a

/-- Nor does the registration of an object, with which a step may end. -/
def Registers
    (inv : Invariant)
    (lower : Lower)
    (scope : Scope) : Prop :=
  ∀ {t members span name properties es},
    (scope.types.resolve t).type = .object members span →
    (scope.types.resolve t).alias? = some name →
    lowerStep lower scope t =
      ⟨.ok ⟨(scope.types.resolve t).nullable, .alias name⟩,
        es ++ [.registered ⟨name, properties⟩]⟩ →
    inv.events es → inv.value es (.object properties) →
    inv.events (es ++ [.registered ⟨name, properties⟩]) ∧
      inv.value (es ++ [.registered ⟨name, properties⟩]) (.alias name)

/-- What the invariant says of the value of an annotation. -/
def Valued
    (inv : Invariant)
    (es : List Event)
    (x : Nullable SchemaType) : Prop :=
  inv.value es x.value

/-! ## How lowerings are put together -/

section Rules

variable {inv : Invariant} {lower : Lower} {scope : Scope}
variable {α β : Type}

theorem Ends.weaken
    {post post' : α → Prop}
    {outcome : Except Halt α}
    (h : inv.Ends post outcome)
    (hpost : ∀ a, post a → post' a) :
    inv.Ends post' outcome := by
  cases outcome with
  | ok a =>
      exact hpost a h
  | error halt =>
      cases halt <;> exact h

theorem Keeps.weaken
    {post post' : List Event → α → Prop}
    {x : Lowering α}
    (h : inv.Keeps post x)
    (hpost : ∀ es a, post es a → post' es a) :
    inv.Keeps post' x :=
  ⟨h.events, h.ends.weaken (hpost x.events)⟩

theorem Keeps.of_ok
    {post : List Event → α → Prop}
    {x : Lowering α}
    {a : α}
    (h : inv.Keeps post x)
    (ha : x.outcome = .ok a) :
    post x.events a := by
  have hends := h.ends
  rw [ha] at hends
  exact hends

theorem Keeps.of_fault
    {post : List Event → α → Prop}
    {x : Lowering α}
    {f : Fault}
    (h : inv.Keeps post x)
    (hf : x.outcome = .error (.fault f)) :
    inv.fault f := by
  have hends := h.ends
  rw [hf] at hends
  exact hends

theorem Sound.keeps_pure
    (h : inv.Sound scope)
    {post : List Event → α → Prop}
    {a : α}
    (ha : post [] a) :
    inv.Keeps post (pure a : Lowering α) :=
  ⟨h.nil, ha⟩

theorem Sound.keeps_raise
    (h : inv.Sound scope)
    {post : List Event → α → Prop}
    {n : Node}
    {cause : Cause}
    (hn : inv.node n)
    (hcause : cause.kind.fatal = false) :
    inv.Keeps post (.raise (scope.fault n cause) : Lowering α) :=
  ⟨h.nil, h.raised hn hcause⟩

theorem Sound.keeps_bind
    (h : inv.Sound scope)
    {mid : List Event → α → Prop}
    {post : List Event → β → Prop}
    {x : Lowering α}
    {f : α → Lowering β}
    (hx : inv.Keeps mid x)
    (hf : ∀ a, x.outcome = .ok a → mid x.events a →
      inv.Keeps (fun es b => post (x.events ++ es) b) (f a)) :
    inv.Keeps post (x >>= f) := by
  obtain ⟨outcome, events⟩ := x
  cases outcome with
  | error halt =>
      rw [Lowering.bind_error]
      refine ⟨hx.events, ?_⟩
      cases halt <;> exact hx.ends
  | ok a =>
      have hfa := hf a rfl hx.ends
      rw [Lowering.bind_ok]
      exact ⟨h.append hx.events hfa.events, hfa.ends⟩

/-- An attempt gives the value, or a fault that the invariant allows. -/
theorem Keeps.attempt
    {post : List Event → α → Prop}
    {x : Lowering α}
    (hx : inv.Keeps post x) :
    inv.Keeps
      (fun es r => inv.Ends (post es) (r.mapError Halt.fault))
      x.attempt := by
  obtain ⟨outcome, events⟩ := x
  obtain (_ | _ | _) | a := outcome <;>
    exact ⟨hx.events, hx.ends⟩

theorem Sound.keeps_record
    (h : inv.Sound scope)
    {f : Fault}
    (c : Capture)
    (hf : inv.fault f) :
    inv.Keeps (fun _ _ => True) (c.record f) := by
  unfold Capture.record
  by_cases hc : c.accepts f = true
  · rw [if_pos hc]
    exact ⟨h.recorded hf, trivial⟩
  · rw [if_neg hc]
    exact ⟨h.nil, hf⟩

/-- A capture gives the value, or nothing. -/
theorem Sound.keeps_guard
    (h : inv.Sound scope)
    {post : List Event → α → Prop}
    {x : Lowering α}
    (c : Capture)
    (hx : inv.Keeps post x) :
    inv.Keeps (fun es o => ∀ a, o = some a → post es a) (c.guard x) := by
  refine h.keeps_bind hx.attempt ?_
  intro r hr hpost
  cases r with
  | ok a =>
      refine h.keeps_pure ?_
      intro b hb
      cases hb
      rw [List.append_nil]
      exact hpost
  | error f =>
      refine h.keeps_bind (h.keeps_record c hpost) ?_
      intro _ _ _
      refine h.keeps_pure ?_
      intro b hb
      cases hb

/-- The entries of a list are lowered one after the other. -/
theorem Sound.keeps_collect
    (h : inv.Sound scope)
    {post : List Event → β → Prop}
    {f : α → Lowering (Option β)}
    (hmono : ∀ es es' b, es ⊆ es' → post es b → post es' b)
    (as : List α)
    (hf : ∀ a, a ∈ as → inv.Keeps (fun es o => ∀ b, o = some b → post es b) (f a)) :
    inv.Keeps (fun es bs => ∀ b, b ∈ bs → post es b) (Lowering.collect f as) := by
  induction as with
  | nil =>
      refine h.keeps_pure ?_
      intro b hb
      cases hb
  | cons a as ih =>
      refine h.keeps_bind (hf a List.mem_cons_self) ?_
      intro o _ ho
      refine h.keeps_bind (ih fun c hc => hf c (List.mem_cons_of_mem a hc)) ?_
      intro bs _ hbs
      refine h.keeps_pure ?_
      intro b hb
      rw [List.append_nil]
      rcases List.mem_append.1 hb with hb | hb
      · exact hmono _ _ b (List.subset_append_left _ _) (ho b (Option.mem_toList.1 hb))
      · exact hmono _ _ b (List.subset_append_right _ _) (hbs b hb)

/-! ## One step -/

theorem Sound.keeps_leaf
    (h : inv.Sound scope)
    {a : SchemaType}
    (nullable : Bool)
    (hleaf : a.Leaf)
    (hportable : scope.nativeOnly = false → a.Portable) :
    inv.Keeps inv.Valued (pure ⟨nullable, a⟩ : Lowering (Nullable SchemaType)) := by
  refine h.keeps_pure (h.compose ⟨hleaf.placed, hportable⟩ hleaf.not_alias ?_)
  intro b hb
  exact absurd hb (hleaf.not_part b)

/-- A lowering is kept when what it ends with is, whatever comes before. -/
theorem Sound.keeps_bind_valued
    (h : inv.Sound scope)
    {mid : List Event → α → Prop}
    {x : Lowering α}
    {f : α → Lowering (Nullable SchemaType)}
    (hx : inv.Keeps mid x)
    (hf : ∀ a, mid x.events a → inv.Keeps inv.Valued (f a)) :
    inv.Keeps inv.Valued (x >>= f) :=
  h.keeps_bind hx fun a _ ha =>
    (hf a ha).weaken fun _ _ hb => h.mono (List.subset_append_right _ _) hb

/-- An array is kept when the lowering of its element is. -/
theorem Sound.keeps_lowerArray
    (h : inv.Sound scope)
    {element : Ty}
    (array : String)
    (nullable : Bool)
    (hnode : inv.node (.type element))
    (hx : inv.Keeps inv.Valued (lower scope.passing element)) :
    inv.Keeps inv.Valued (lowerArray lower scope array element nullable) := by
  have hempty : inv.Keeps inv.Valued
      (pure ⟨nullable, .array none⟩ : Lowering (Nullable SchemaType)) :=
    h.keeps_leaf nullable trivial fun _ => trivial
  refine h.keeps_bind hx.attempt ?_
  intro r hr hpost
  cases r with
  | error f =>
      exact hempty.weaken fun _ _ hb => h.mono (List.subset_append_right _ _) hb
  | ok found =>
      cases hword : found.value.unstorable? with
      | some word =>
          simp only [hword]
          refine Keeps.weaken ?_ fun _ _ hb => h.mono (List.subset_append_right _ _) hb
          exact h.keeps_bind_valued (h.keeps_record _ (h.raised hnode rfl)) fun _ _ => hempty
      | none =>
          simp only [hword]
          refine h.keeps_pure (h.compose ⟨?_, fun _ => trivial⟩ ?_ ?_)
          · exact (SchemaType.unstorable?_eq_none_iff _).1 hword
          · intro name hname
            cases hname
          · intro b hb
            cases hb
            rw [List.append_nil]
            exact hpost

theorem Sound.keeps_enumKind
    (h : inv.Sound scope)
    {node : Node}
    (decl : Enum)
    (hnode : inv.node node) :
    inv.Keeps (fun _ _ => True) (enumKind scope node decl) := by
  unfold enumKind
  split
  · exact h.keeps_raise hnode rfl
  · split
    · exact h.keeps_pure trivial
    · exact h.keeps_pure trivial
    · exact h.keeps_pure trivial
    · exact h.keeps_raise hnode rfl

theorem Sound.keeps_onlyTypeArg
    (h : inv.Sound scope)
    {node : Node}
    (name : String)
    (typeArgs : Option (List Ty))
    (hnode : inv.node node) :
    inv.Keeps (fun _ t => typeArgs = some [t]) (onlyTypeArg scope node name typeArgs) := by
  unfold onlyTypeArg
  split
  · exact h.keeps_raise hnode rfl
  · rename_i t hargs
    refine h.keeps_pure ?_
    cases typeArgs with
    | none => cases hargs
    | some ts => exact congrArg some hargs
  · exact h.keeps_raise hnode rfl

/-- A reference is kept when the lowering of its only type argument is. -/
theorem Sound.keeps_lowerReference
    (h : inv.Sound scope)
    {node : Node}
    (name : String)
    {typeArgs : Option (List Ty)}
    (nullable : Bool)
    (hnode : inv.node node)
    (hsub : ∀ t, typeArgs = some [t] →
      inv.node (.type t) ∧ inv.Keeps inv.Valued (lower scope.passing t)) :
    inv.Keeps inv.Valued (lowerReference lower scope node name typeArgs nullable) := by
  have harg := h.keeps_onlyTypeArg name typeArgs hnode
  unfold lowerReference
  split_ifs with hpromise harray
  · refine h.keeps_bind_valued harg ?_
    intro t _
    exact h.keeps_leaf nullable trivial fun _ => trivial
  · refine h.keeps_bind_valued harg ?_
    intro t hargs
    obtain ⟨ht, hx⟩ := hsub t hargs
    exact h.keeps_lowerArray name nullable ht hx
  · split
    · rename_i a ha
      obtain ⟨hleaf, hportable⟩ := SchemaType.leaf_of_named? ha
      exact h.keeps_leaf nullable hleaf fun _ => hportable
    · split
      · rename_i decl hnative _
        refine h.keeps_bind_valued (h.keeps_enumKind decl hnode) ?_
        intro kind _
        refine h.keeps_leaf nullable trivial ?_
        intro hfalse
        exact absurd (hnative.symm.trans hfalse) (by decide)
      · exact h.keeps_raise hnode rfl

/-- Only a union without members has no kind. -/
theorem Sound.keeps_lowerUnion
    (h : inv.Sound scope)
    (members : List Ty)
    (span : Span)
    (nullable : Bool)
    (hnode : inv.node (.type (.union members span))) :
    inv.Keeps inv.Valued
      (lowerUnion scope (.type (.union members span)) members nullable) := by
  unfold lowerUnion
  split_ifs with hnative
  · split
    · rename_i hkinds
      refine ⟨h.nil, span, ?_⟩
      cases members with
      | nil =>
          exact hnode
      | cons m ms =>
          rw [List.map_cons, List.eraseDups_cons] at hkinds
          cases hkinds
    · refine h.keeps_leaf nullable trivial ?_
      intro hfalse
      exact absurd (hnative.symm.trans hfalse) (by decide)
    · exact h.keeps_raise hnode rfl
  · exact h.keeps_raise hnode rfl

/-! ## Members and parameters -/

/-- What the invariant says of the shape of a property. -/
def Stored
    (inv : Invariant)
    (es : List Event)
    (s : Shape) : Prop :=
  s.type.value.Storable ∧ inv.Valued es s.type

/-- What the invariant says of the shape of a parameter. -/
def Passed
    (inv : Invariant)
    (es : List Event)
    (s : Shape) : Prop :=
  s.type.value.Passable ∧ inv.Valued es s.type

theorem Sound.keeps_lowerObjectMember
    (h : inv.Sound scope)
    {m : Member}
    (hm : (Node.member m).Every inv.node)
    (hsub : ∀ name t optional span, m = .property name (some t) optional span →
      inv.Keeps inv.Valued (lower scope t)) :
    inv.Keeps inv.Stored (lowerObjectMember lower scope m) := by
  cases m with
  | property name type optional span =>
      cases type with
      | none =>
          exact h.keeps_raise hm.self rfl
      | some t =>
          refine h.keeps_bind (hsub name t optional span rfl) ?_
          intro found _ hfound
          cases hword : found.value.unstorable? with
          | some word =>
              have ht : (Node.type t).Every inv.node :=
                hm.child (by simp [Node.children, Member.children])
              exact h.keeps_raise ht.self rfl
          | none =>
              refine h.keeps_pure ⟨(SchemaType.unstorable?_eq_none_iff _).1 hword, ?_⟩
              rw [List.append_nil]
              exact hfound
  | method name params result optional span =>
      exact h.keeps_raise hm.self rfl
  | other kind name span =>
      exact h.keeps_raise hm.self rfl

theorem Sound.keeps_lowerParam
    (h : inv.Sound scope)
    {p : Param}
    (hp : (Node.param p).Every inv.node)
    (hsub : ∀ t, p.type = some t → inv.Keeps inv.Valued (lower scope t)) :
    inv.Keeps inv.Passed (lowerParam lower scope p) := by
  unfold lowerParam
  split
  · exact h.keeps_raise hp.self rfl
  · rename_i t ht
    refine h.keeps_bind (hsub t ht) ?_
    intro found _ hfound
    cases hword : found.value.unpassable? with
    | some word =>
        have hnode : (Node.type t).Every inv.node :=
          hp.child (by simp [Node.children, ht])
        exact h.keeps_raise hnode.self rfl
    | none =>
        refine h.keeps_pure ⟨(SchemaType.unpassable?_eq_none_iff _).1 hword, ?_⟩
        rw [List.append_nil]
        exact hfound

theorem Sound.stored_mono
    (h : inv.Sound scope)
    (es es' : List Event)
    (s : Shape)
    (hes : es ⊆ es')
    (hs : inv.Stored es s) :
    inv.Stored es' s :=
  ⟨hs.1, h.mono hes hs.2⟩

theorem Sound.passed_mono
    (h : inv.Sound scope)
    (es es' : List Event)
    (s : Shape)
    (hes : es ⊆ es')
    (hs : inv.Passed es s) :
    inv.Passed es' s :=
  ⟨hs.1, h.mono hes hs.2⟩

/-- An object is as described when its properties are. -/
theorem Sound.value_object
    (h : inv.Sound scope)
    {es : List Event}
    {properties : List Shape}
    (hproperties : ∀ s, s ∈ properties → inv.Stored es s) :
    inv.value es (.object properties) := by
  refine h.compose ⟨fun s hs => (hproperties s hs).1, fun _ => trivial⟩ ?_ ?_
  · intro name hname
    cases hname
  · intro b hb
    cases hb with
    | @property _ s hs => exact (hproperties s hs).2

/-- A function is as described when its parameters and its result are. -/
theorem Sound.value_function
    (h : inv.Sound scope)
    {es : List Event}
    {params : List Shape}
    {result : Nullable SchemaType}
    (hparams : ∀ s, s ∈ params → inv.Passed es s)
    (hresult : inv.Valued es result)
    (hportable : scope.nativeOnly = false → ¬ result.value.IsFunction) :
    inv.value es (.function params result) := by
  refine h.compose ⟨fun s hs => (hparams s hs).1, hportable⟩ ?_ ?_
  · intro name hname
    cases hname
  · intro b hb
    cases hb with
    | @param _ s _ hs => exact (hparams s hs).2
    | result => exact hresult

theorem Sound.keeps_lowerResult
    (h : inv.Sound scope)
    {signature : Signature}
    (hnode : inv.node signature.node)
    (hsub : ∀ t, signature.result = some t →
      inv.node (.type t) ∧ inv.Keeps inv.Valued (lower scope t)) :
    inv.Keeps
      (fun es x => inv.Valued es x ∧ (scope.nativeOnly = false → ¬ x.value.IsFunction))
      (lowerResult lower scope signature) := by
  unfold lowerResult
  split
  · exact h.keeps_raise hnode rfl
  · rename_i t ht
    obtain ⟨htype, hx⟩ := hsub t ht
    refine h.keeps_bind hx ?_
    intro found _ hfound
    split_ifs with hforbidden
    · exact h.keeps_raise htype rfl
    · refine h.keeps_pure ⟨?_, ?_⟩
      · rw [List.append_nil]
        exact hfound
      · intro hnative hfunction
        rw [hnative, (SchemaType.isFunction_eq_true_iff _).2 hfunction] at hforbidden
        exact hforbidden rfl

/-- A signature is kept when the lowerings of its parameters and its result are. -/
theorem Sound.keeps_lowerSignature
    (h : inv.Sound scope)
    {signature : Signature}
    (hnode : inv.node signature.node)
    (hparams : ∀ p, p ∈ signature.params →
      (Node.param p).Every inv.node ∧
        ∀ t, p.type = some t → inv.Keeps inv.Valued (lower scope t))
    (hresult : ∀ t, signature.result = some t →
      inv.node (.type t) ∧ inv.Keeps inv.Valued (lower scope t)) :
    inv.Keeps (fun es a => inv.value es a ∧ a.IsFunction)
      (lowerSignature lower scope signature) := by
  refine h.keeps_bind
    (h.keeps_collect h.passed_mono signature.params fun p hp =>
      h.keeps_guard scope.capture
        (h.keeps_lowerParam (hparams p hp).1 (hparams p hp).2)) ?_
  intro params _ hpassed
  refine h.keeps_bind (h.keeps_lowerResult hnode hresult) ?_
  intro result _ hfound
  refine h.keeps_pure ⟨h.value_function ?_ ?_ hfound.2, trivial⟩
  · intro s hs
    exact h.passed_mono _ _ s (List.subset_append_left _ _) (hpassed s hs)
  · rw [List.append_nil]
    exact h.mono (List.subset_append_right _ _) hfound.1

/-! ## Annotations -/

/-- A lowering keeps the invariant in this scope and where every fault goes through. -/
def KeptBeneath
    (inv : Invariant)
    (lower : Lower)
    (scope : Scope)
    (t : Ty) : Prop :=
  ∀ u, u.Beneath t →
    inv.Keeps inv.Valued (lower scope u) ∧
      inv.Keeps inv.Valued (lower scope.passing u)

/-- An object is kept, and so is the alias that it is registered under. -/
theorem Sound.keeps_lowerObject
    (h : inv.Sound scope)
    (hregisters : inv.Registers lower scope)
    {t : Ty}
    {members : List Member}
    {span : Span}
    (htype : (scope.types.resolve t).type = .object members span)
    (hevery : (Node.type (.object members span)).Every inv.node)
    (hsub : inv.KeptBeneath lower scope (.object members span)) :
    inv.Keeps inv.Valued (lowerStep lower scope t) := by
  have hproperties : inv.Keeps (fun es ss => ∀ s, s ∈ ss → inv.Stored es s)
      (Lowering.collect
        (fun m => scope.capture.guard (lowerObjectMember lower scope m)) members) := by
    refine h.keeps_collect h.stored_mono members ?_
    intro m hm
    refine h.keeps_guard scope.capture (h.keeps_lowerObjectMember ?_ ?_)
    · exact hevery.child (List.mem_map.2 ⟨m, hm, rfl⟩)
    · rintro name u optional inner rfl
      exact (hsub u (.property span hm)).1
  have hstep : lowerStep lower scope t = _ := lowerStep_of_object htype
  cases halias : (scope.types.resolve t).alias? with
  | none =>
      rw [hstep, halias]
      refine h.keeps_bind hproperties ?_
      intro properties _ hstored
      refine h.keeps_pure ?_
      rw [List.append_nil]
      exact h.value_object hstored
  | some name =>
      generalize hcollect : Lowering.collect
        (fun m => scope.capture.guard (lowerObjectMember lower scope m)) members = run
        at hproperties
      obtain ⟨outcome, events⟩ := run
      rw [halias, lowerObject, hcollect] at hstep
      cases outcome with
      | error halt =>
          rw [Lowering.bind_error] at hstep
          rw [hstep]
          refine ⟨hproperties.events, ?_⟩
          cases halt <;> exact hproperties.ends
      | ok properties =>
          rw [Lowering.bind_ok] at hstep
          obtain ⟨hevents, hvalue⟩ := hregisters htype halias hstep hproperties.events
            (h.value_object hproperties.ends)
          rw [hstep]
          exact ⟨hevents, hvalue⟩

/-- One step keeps a sound invariant if the lowerings beneath do. -/
theorem Sound.keeps_lowerStep
    (h : inv.Sound scope)
    (hregisters : inv.Registers lower scope)
    {t : Ty}
    (ht : (Node.type t).Every inv.node)
    (hsub : inv.KeptBeneath lower scope (scope.types.resolve t).type) :
    inv.Keeps inv.Valued (lowerStep lower scope t) := by
  have hfound := Environment.every_resolve h.remaining h.declared ht
  cases htype : (scope.types.resolve t).type with
  | array element span =>
      rw [htype] at hfound hsub
      simp only [lowerStep, htype]
      have hunder := Ty.Beneath.element element span
      exact h.keeps_lowerArray _ _ (hunder.every hfound).self (hsub element hunder).2
  | operator word operand span =>
      rw [htype] at hfound hsub
      simp only [lowerStep, htype]
      split
      · rename_i element inner _
        have hunder := Ty.Beneath.operand word element inner span
        exact h.keeps_lowerArray _ _ (hunder.every hfound).self (hsub element hunder).2
      · exact h.keeps_raise hfound.self rfl
  | reference name typeArgs span =>
      rw [htype] at hfound hsub
      simp only [lowerStep, htype]
      refine h.keeps_lowerReference name _ hfound.self ?_
      rintro u rfl
      have hunder := Ty.Beneath.typeArg name u span
      exact ⟨(hunder.every hfound).self, (hsub u hunder).2⟩
  | object members span =>
      rw [htype] at hfound hsub
      exact h.keeps_lowerObject hregisters htype hfound hsub
  | keyword word span =>
      rw [htype] at hfound
      simp only [lowerStep, htype]
      split
      · rename_i a ha
        obtain ⟨hleaf, hportable⟩ := SchemaType.leaf_of_keyword? ha
        exact h.keeps_leaf _ hleaf fun _ => hportable
      · split_ifs with hunknown
        · refine h.keeps_leaf _ trivial ?_
          intro hfalse
          exact absurd (hunknown.2.symm.trans hfalse) (by decide)
        · exact h.keeps_raise hfound.self rfl
  | function params result span =>
      rw [htype] at hfound hsub
      simp only [lowerStep, htype]
      refine h.keeps_bind (h.keeps_lowerSignature hfound.self ?_ ?_) ?_
      · intro p hp
        refine ⟨hfound.child (List.mem_append_left _ (List.mem_map.2 ⟨p, hp, rfl⟩)), ?_⟩
        intro u hu
        exact (hsub u (.param result span hp hu)).1
      · rintro u rfl
        have hunder := Ty.Beneath.result params u span
        exact ⟨(hunder.every hfound).self, (hsub u hunder).1⟩
      · intro a _ ha
        refine h.keeps_pure ?_
        rw [List.append_nil]
        exact ha.1
  | union members span =>
      rw [htype] at hfound
      simp only [lowerStep, htype]
      exact h.keeps_lowerUnion members span _ hfound.self
  | literal value span =>
      rw [htype] at hfound
      simp only [lowerStep, htype]
      exact h.keeps_raise hfound.self rfl
  | other kind span =>
      rw [htype] at hfound
      simp only [lowerStep, htype]
      exact h.keeps_raise hfound.self rfl

end Rules

/-! ## All lowerings -/

/-- The invariant is sound, also for the objects registered at every depth. -/
structure SoundWithin
    (inv : Invariant)
    (scope : Scope) : Prop extends inv.Sound scope where
  registers : ∀ depth, inv.Registers (lowerWithin depth) scope
  registersPassing : ∀ depth, inv.Registers (lowerWithin depth) scope.passing

section Runs

variable {inv : Invariant} {scope : Scope}

/-- What a step may do does not depend on the capture. -/
theorem Sound.passing
    (h : inv.Sound scope) :
    inv.Sound scope.passing :=
  ⟨h.remaining, h.declared, h.nil, h.append, h.raised, h.recorded, h.mono, h.compose⟩

/-- Every lowering of an annotation keeps a sound invariant, however deep it goes. -/
theorem SoundWithin.keeps_lowerWithin
    (h : inv.SoundWithin scope)
    (depth : Nat)
    {t : Ty}
    (ht : (Node.type t).Every inv.node) :
    inv.Keeps inv.Valued (lowerWithin depth scope t) ∧
      inv.Keeps inv.Valued (lowerWithin depth scope.passing t) := by
  induction depth generalizing t with
  | zero =>
      exact ⟨⟨h.nil, trivial⟩, ⟨h.nil, trivial⟩⟩
  | succ depth ih =>
      have hfound := Environment.every_resolve h.remaining h.declared ht
      constructor
      · exact h.toSound.keeps_lowerStep (h.registers depth) ht
          fun u hu => ih (hu.every hfound)
      · refine h.toSound.passing.keeps_lowerStep (h.registersPassing depth) ht fun u hu => ?_
        exact ⟨(ih (hu.every hfound)).2, (ih (hu.every hfound)).2⟩

theorem SoundWithin.keeps_lower
    (h : inv.SoundWithin scope)
    {t : Ty}
    (ht : (Node.type t).Every inv.node) :
    inv.Keeps inv.Valued (lower scope t) :=
  (h.keeps_lowerWithin _ ht).1

/-- What the invariant says of the shape of a module's method. -/
def Method
    (inv : Invariant)
    (es : List Event)
    (s : Shape) : Prop :=
  inv.Valued es s.type ∧ s.type.value.IsFunction

/-- The signature of a member is found without an event, and its annotations are the member's. -/
theorem Sound.keeps_memberSignature
    (h : inv.Sound scope)
    {m : Member}
    (hm : (Node.member m).Every inv.node) :
    inv.Keeps
      (fun es found => es = [] ∧ inv.node found.value.node ∧
        (∀ p, p ∈ found.value.params → (Node.param p).Every inv.node) ∧
        ∀ t, found.value.result = some t → (Node.type t).Every inv.node)
      (memberSignature scope m) := by
  cases m with
  | property name type optional span =>
      cases type with
      | none =>
          exact h.keeps_raise hm.self rfl
      | some t =>
          have ht : (Node.type t).Every inv.node :=
            hm.child (by simp [Node.children, Member.children])
          have hfound := Environment.every_resolve h.remaining h.declared ht
          simp only [memberSignature]
          split
          · rename_i params result inner htype
            rw [htype] at hfound
            refine h.keeps_pure ⟨rfl, hfound.self, ?_, ?_⟩
            · intro p hp
              exact hfound.child (List.mem_append_left _ (List.mem_map.2 ⟨p, hp, rfl⟩))
            · rintro u rfl
              exact hfound.child (by simp [Node.children, Ty.children])
          · exact h.keeps_raise hm.self rfl
  | method name params result optional span =>
      refine h.keeps_pure ⟨rfl, hm.self, ?_, ?_⟩
      · intro p hp
        exact hm.child (List.mem_append_left _ (List.mem_map.2 ⟨p, hp, rfl⟩))
      · rintro u rfl
        exact hm.child (by simp [Node.children, Member.children])
  | other kind name span =>
      exact h.keeps_raise hm.self rfl

/-- The lowering of a member of the module's interface keeps a sound invariant. -/
theorem SoundWithin.keeps_lowerProperty
    (h : inv.SoundWithin scope)
    {m : Member}
    (hm : (Node.member m).Every inv.node) :
    inv.Keeps inv.Method (lowerProperty scope m) := by
  refine h.keeps_bind (h.toSound.keeps_memberSignature hm) ?_
  rintro found _ ⟨hnil, hnode, hparams, hresult⟩
  rw [hnil]
  refine h.keeps_bind (h.keeps_lowerSignature hnode ?_ ?_) ?_
  · intro p hp
    refine ⟨hparams p hp, ?_⟩
    intro t ht
    exact h.keeps_lower ((hparams p hp).child (by simp [Node.children, ht]))
  · intro t ht
    exact ⟨(hresult t ht).self, h.keeps_lower (hresult t ht)⟩
  · intro a _ ha
    refine h.keeps_pure ⟨?_, ha.2⟩
    simp only [List.nil_append, List.append_nil]
    exact ha.1

end Runs

/-! ## Invariants of faults -/

/-- The invariant that says something of faults, raised or recorded, and nothing of values. -/
def ofFaults
    (node : Node → Prop)
    (fault : Fault → Prop) :
    Invariant where
  node := node
  fault := fault
  events es := ∀ channel f, .recorded channel f ∈ es → fault f
  value _ _ := True

section Faults

variable {node : Node → Prop} {fault : Fault → Prop}

theorem registers_ofFaults
    (lower : Lower)
    (scope : Scope) :
    (ofFaults node fault).Registers lower scope := by
  intro t members span name properties es _ _ _ hes _
  refine ⟨?_, trivial⟩
  intro channel f hf
  rcases List.mem_append.1 hf with hf | hf
  · exact hes channel f hf
  · cases List.mem_singleton.1 hf

/-- An invariant of faults is sound when it allows the faults about nodes that it allows. -/
theorem soundWithin_ofFaults
    {scope : Scope}
    (hremaining : KeepsRemaining node)
    (hdeclared : scope.types.Every node)
    (hraised : ∀ {n cause}, node n → cause.kind.fatal = false → fault (scope.fault n cause)) :
    (ofFaults node fault).SoundWithin scope where
  remaining := hremaining
  declared := hdeclared
  nil := fun channel f hf => by cases hf
  append := fun hes hes' channel f hf =>
    (List.mem_append.1 hf).elim (hes channel f) (hes' channel f)
  raised := hraised
  recorded := fun hf channel f' hf' => by
    cases List.mem_singleton.1 hf'
    exact hf
  mono := fun _ _ => trivial
  compose := fun _ _ _ => trivial
  registers := fun depth => registers_ofFaults (lowerWithin depth) scope
  registersPassing := fun depth => registers_ofFaults (lowerWithin depth) scope.passing

end Faults

/-! ## Invariants of registered objects -/

/-- The invariant that says something of registered objects and of nothing else. -/
def ofRegistered (registered : Alias → Prop) : Invariant where
  node _ := True
  fault _ := True
  events es := ∀ a, .registered a ∈ es → registered a
  value _ _ := True

/-- An invariant of registered objects is sound when it allows what a step registers. -/
theorem soundWithin_ofRegistered
    {registered : Alias → Prop}
    {scope : Scope}
    (hregisters : ∀ depth, (ofRegistered registered).Registers (lowerWithin depth) scope)
    (hpassing : ∀ depth, (ofRegistered registered).Registers (lowerWithin depth) scope.passing) :
    (ofRegistered registered).SoundWithin scope where
  remaining := fun _ _ _ _ _ _ => trivial
  declared := fun _ _ _ _ _ => trivial
  nil := fun a ha => by cases ha
  append := fun hes hes' a ha => (List.mem_append.1 ha).elim (hes a) (hes' a)
  raised := fun _ _ => trivial
  recorded := fun _ a ha => by cases List.mem_singleton.1 ha
  mono := fun _ _ => trivial
  compose := fun _ _ _ => trivial
  registers := hregisters
  registersPassing := hpassing

end Invariant

end ModuleSpec
