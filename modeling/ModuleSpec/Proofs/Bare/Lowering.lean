import ModuleSpec.Proofs.Bare.Resolution
import ModuleSpec.Property

/-!
# Bare lowerings

A lowering of a bare annotation does what the lowering of the annotation does.
Only the nodes that its faults are about are bare.

**Idea.**  To take the spans from a lowering commutes with the ways in which
lowerings are put together.  So each rule commutes with it as soon as the
lowerings it goes on with do.

**Results.**  A bare annotation in a bare scope lowers to what the annotation
lowers to, bare (`lower_bare`).
-/

namespace ModuleSpec

/-! ## Faults and events without spans -/

/-- The fault, about bare nodes. -/
def Fault.bare (f : Fault) : Fault :=
  { f with nodes := f.nodes.map Node.bare }

/-- The end, with a fault about bare nodes. -/
def Halt.bare : Halt → Halt
  | .fault f => .fault f.bare
  | .emptyUnion => .emptyUnion
  | .endless => .endless

/-- The event, with a fault about bare nodes. -/
def Event.bare : Event → Event
  | .registered a => .registered a
  | .recorded channel f => .recorded channel f.bare

/-- A result, or the error that there is instead, each changed in its own way. -/
def changeBoth
    {α β ε : Type}
    (onError : ε → ε)
    (onOk : α → β) :
    Except ε α → Except ε β
  | .error e => .error (onError e)
  | .ok a => .ok (onOk a)

namespace Lowering

/-- The lowering, with faults about bare nodes. -/
def bare {α : Type} (x : Lowering α) : Lowering α :=
  ⟨changeBoth Halt.bare id x.outcome, x.events.map Event.bare⟩

section Bare

variable {α β : Type}

@[simp]
theorem bare_pure
    (a : α) :
    (pure a : Lowering α).bare = pure a :=
  rfl

@[simp]
theorem bare_raise
    (f : Fault) :
    (raise f : Lowering α).bare = raise f.bare :=
  rfl

@[simp]
theorem bare_emit
    (e : Event) :
    (emit e).bare = emit e.bare :=
  rfl

@[simp]
theorem bare_bind
    (x : Lowering α)
    (f : α → Lowering β) :
    (x >>= f).bare = x.bare >>= fun a => (f a).bare := by
  obtain ⟨h | a, events⟩ := x
  · rfl
  · simp [bind_ok, bare, changeBoth]

@[simp]
theorem bare_map
    (f : α → β)
    (x : Lowering α) :
    (f <$> x).bare = f <$> x.bare := by
  rw [map_eq_pure_bind, map_eq_pure_bind, bare_bind]
  rfl

/-- A lowering that is attempted gives a bare fault when the lowering is bare. -/
theorem attempt_bare
    (x : Lowering α) :
    x.bare.attempt = changeBoth Fault.bare id <$> x.attempt.bare := by
  obtain ⟨(f | _ | _) | a, events⟩ := x <;>
    simp [attempt, bare, changeBoth, Halt.bare, map_eq_pure_bind, bind_ok, bind_error, pure_def]

theorem bare_collect
    {f g : α → Lowering (Option β)}
    {strip : α → α}
    (h : ∀ a, (f a).bare = g (strip a))
    (as : List α) :
    (collect f as).bare = collect g (as.map strip) := by
  induction as with
  | nil => rfl
  | cons a as ih => simp [collect, h, ih]

end Bare

end Lowering

@[simp]
theorem Fault.kind_bare
    (f : Fault) :
    f.bare.kind = f.kind :=
  rfl

namespace Capture

variable (c : Capture)

@[simp]
theorem accepts_bare
    (f : Fault) :
    c.accepts f.bare = c.accepts f := by
  simp [accepts]

@[simp]
theorem bare_record
    (f : Fault) :
    (c.record f).bare = c.record f.bare := by
  unfold record
  rw [accepts_bare]
  split <;> rfl

@[simp]
theorem bare_guard
    {α : Type}
    (x : Lowering α) :
    (c.guard x).bare = c.guard x.bare := by
  unfold guard
  rw [Lowering.attempt_bare, Lowering.bare_bind, bind_map_left]
  refine bind_congr fun r => ?_
  cases r <;> simp [changeBoth]

/-- Entries that are lowered each under a capture. -/
theorem bare_collect_guard
    {α β : Type}
    {f g : α → Lowering β}
    {strip : α → α}
    (h : ∀ a, (f a).bare = g (strip a))
    (as : List α) :
    (Lowering.collect (fun a => c.guard (f a)) as).bare =
      Lowering.collect (fun a => c.guard (g a)) (as.map strip) :=
  Lowering.bare_collect (fun a => by rw [bare_guard, h]) as

end Capture

/-! ## Scopes -/

namespace Scope

/-- The scope, with bare declarations. -/
def bare (scope : Scope) : Scope :=
  { scope with types := scope.types.bare }

variable (scope : Scope)

@[simp]
theorem capture_bare : scope.bare.capture = scope.capture := rfl

@[simp]
theorem sink_bare : scope.bare.sink = scope.sink := rfl

@[simp]
theorem nativeOnly_bare : scope.bare.nativeOnly = scope.nativeOnly := rfl

@[simp]
theorem types_bare : scope.bare.types = scope.types.bare := rfl

@[simp]
theorem passing_bare : scope.bare.passing = scope.passing.bare := rfl

@[simp]
theorem fault_bare
    (node : Node)
    (cause : Cause) :
    (scope.fault node cause).bare = scope.bare.fault node.bare cause :=
  rfl

end Scope

@[simp]
theorem Ty.memberKind_bare
    (t : Ty) :
    t.bare.memberKind = t.memberKind := by
  cases t with
  | literal value span => cases value <;> simp [Ty.bare, Expr.bare, Ty.memberKind]
  | _ => simp [Ty.bare, Ty.memberKind]

/-- The parameters and the result of a function, without spans. -/
def Signature.bare (signature : Signature) : Signature :=
  ⟨signature.node.bare, signature.params.map Param.bare, signature.result.map Ty.bare⟩

/-! ## The rules of one step -/

/-- The only type argument of a bare reference is that of the reference, bare. -/
theorem onlyTypeArg_bare
    (scope : Scope)
    (node : Node)
    (name : String)
    (typeArgs : Option (List Ty)) :
    onlyTypeArg scope.bare node.bare name (typeArgs.map (List.map Ty.bare)) =
      Ty.bare <$> (onlyTypeArg scope node name typeArgs).bare := by
  rcases typeArgs with _ | (_ | ⟨t, _ | _⟩) <;> rfl

theorem bare_enumKind
    (scope : Scope)
    (node : Node)
    (decl : Enum) :
    (enumKind scope node decl).bare =
      enumKind scope.bare node.bare ⟨decl.name, decl.members.map EnumMember.bare, .none⟩ := by
  obtain ⟨name, members, span⟩ := decl
  rcases members with _ | ⟨⟨m, value, span⟩, ms⟩
  · rfl
  · rcases value with _ | e
    · rfl
    · cases e <;> simp [enumKind, EnumMember.bare, Expr.bare, Expr.kind]

/-- The second way of lowering lowers bare annotations as the first lowers annotations. -/
def BareAlike (lower lower' : Lower) : Prop :=
  ∀ scope t, (lower scope t).bare = lower' scope.bare t.bare

namespace BareAlike

variable {lower lower' : Lower}

theorem lowerArray
    (h : BareAlike lower lower')
    (scope : Scope)
    (array : String)
    (element : Ty)
    (nullable : Bool) :
    (ModuleSpec.lowerArray lower scope array element nullable).bare =
      ModuleSpec.lowerArray lower' scope.bare array element.bare nullable := by
  unfold ModuleSpec.lowerArray
  rw [Scope.passing_bare, ← h, Lowering.attempt_bare, Lowering.bare_bind, bind_map_left]
  refine bind_congr fun r => ?_
  cases r with
  | error f => simp [changeBoth]
  | ok found =>
      simp only [changeBoth, id_eq]
      cases found.value.unstorable? <;> simp [Node.bare]

theorem lowerReference
    (h : BareAlike lower lower')
    (scope : Scope)
    (node : Node)
    (name : String)
    (typeArgs : Option (List Ty))
    (nullable : Bool) :
    (ModuleSpec.lowerReference lower scope node name typeArgs nullable).bare =
      ModuleSpec.lowerReference lower' scope.bare node.bare name
        (typeArgs.map (List.map Ty.bare)) nullable := by
  unfold ModuleSpec.lowerReference
  rw [onlyTypeArg_bare]
  split
  · simp
  · split
    · simp [h.lowerArray]
    · cases SchemaType.named? name with
      | some a => rfl
      | none =>
          simp only [Scope.types_bare, Environment.find?_bare, Scope.nativeOnly_bare]
          rcases scope.nativeOnly with _ | _
          · rfl
          · rcases scope.types.find? name with _ | (⟨_, _, _, _⟩ | ⟨_, _, _⟩ | ⟨_, _, _⟩)
            · rfl
            · rfl
            · rfl
            · simp [Declaration.bare, bare_enumKind]

theorem lowerObjectMember
    (h : BareAlike lower lower')
    (scope : Scope)
    (m : Member) :
    (ModuleSpec.lowerObjectMember lower scope m).bare =
      ModuleSpec.lowerObjectMember lower' scope.bare m.bare := by
  rcases m with ⟨name, _ | type, optional, span⟩ | _ | _
  · rfl
  · simp only [ModuleSpec.lowerObjectMember, Member.bare, Ty.bareOption, ← h scope type,
      Lowering.bare_bind]
    refine bind_congr fun found => ?_
    cases found.value.unstorable? <;> rfl
  · rfl
  · rfl

theorem lowerObject
    (h : BareAlike lower lower')
    (scope : Scope)
    (members : List Member)
    (alias? : Option String)
    (nullable : Bool) :
    (ModuleSpec.lowerObject lower scope members alias? nullable).bare =
      ModuleSpec.lowerObject lower' scope.bare (members.map Member.bare) alias? nullable := by
  have hmembers := scope.capture.bare_collect_guard (h.lowerObjectMember scope) members
  unfold ModuleSpec.lowerObject
  cases alias? <;> simp [hmembers, Event.bare]

theorem lowerParam
    (h : BareAlike lower lower')
    (scope : Scope)
    (p : Param) :
    (ModuleSpec.lowerParam lower scope p).bare =
      ModuleSpec.lowerParam lower' scope.bare p.bare := by
  obtain ⟨name, _ | type, optional, span⟩ := p
  · rfl
  · simp only [ModuleSpec.lowerParam, Param.bare, Ty.bareOption, ← h scope type,
      Lowering.bare_bind]
    refine bind_congr fun found => ?_
    cases found.value.unpassable? <;> rfl

theorem lowerResult
    (h : BareAlike lower lower')
    (scope : Scope)
    (signature : Signature) :
    (ModuleSpec.lowerResult lower scope signature).bare =
      ModuleSpec.lowerResult lower' scope.bare signature.bare := by
  obtain ⟨node, params, _ | type⟩ := signature
  · rfl
  · simp only [ModuleSpec.lowerResult, Signature.bare, Option.map_some, ← h scope type,
      Lowering.bare_bind]
    refine bind_congr fun found => ?_
    rw [Scope.nativeOnly_bare]
    split <;> rfl

theorem lowerSignature
    (h : BareAlike lower lower')
    (scope : Scope)
    (signature : Signature) :
    (ModuleSpec.lowerSignature lower scope signature).bare =
      ModuleSpec.lowerSignature lower' scope.bare signature.bare := by
  have hparams := scope.capture.bare_collect_guard (h.lowerParam scope) signature.params
  have hresult := h.lowerResult scope signature
  unfold ModuleSpec.lowerSignature
  simp only [Lowering.bare_bind, hparams, hresult, Lowering.bare_pure]
  rfl

theorem lowerUnion
    (scope : Scope)
    (node : Node)
    (members : List Ty)
    (nullable : Bool) :
    (ModuleSpec.lowerUnion scope node members nullable).bare =
      ModuleSpec.lowerUnion scope.bare node.bare (members.map Ty.bare) nullable := by
  have hkinds : (members.map Ty.bare).map Ty.memberKind = members.map Ty.memberKind := by
    simp [Function.comp_def]
  unfold ModuleSpec.lowerUnion
  rw [Scope.nativeOnly_bare, hkinds]
  split
  · rcases (members.map Ty.memberKind).eraseDups with _ | ⟨_, _ | _⟩ <;> rfl
  · rfl

theorem lowerStep
    (h : BareAlike lower lower') :
    BareAlike (ModuleSpec.lowerStep lower) (ModuleSpec.lowerStep lower') := by
  intro scope t
  have hresolve : scope.bare.types.resolve t.bare = (scope.types.resolve t).bare :=
    scope.types.resolve_bare t
  unfold ModuleSpec.lowerStep
  rw [hresolve]
  obtain ⟨nullable, type, alias?⟩ := scope.types.resolve t
  cases type with
  | keyword word span =>
      simp only [Resolved.bare, Ty.bare]
      cases SchemaType.keyword? word with
      | some a => rfl
      | none =>
          by_cases hmixed : word = "unknown" ∧ scope.nativeOnly = true
          · simp [hmixed]
          · simp [hmixed, Node.bare, Node.kind, Ty.bare, Ty.kind]
  | reference name typeArgs span =>
      simpa [Resolved.bare, Ty.bare, Node.bare] using
        h.lowerReference scope (.type (.reference name typeArgs span)) name typeArgs nullable
  | array element span => exact h.lowerArray scope "Array" element nullable
  | operator word operand span =>
      simp only [Resolved.bare, Ty.bare]
      cases word == "readonly" <;> cases operand <;>
        first | rfl | exact h.lowerArray scope "ReadonlyArray" _ nullable
  | union members span =>
      simpa [Resolved.bare, Ty.bare, Node.bare] using
        lowerUnion scope (.type (.union members span)) members nullable
  | object members span =>
      simpa [Resolved.bare, Ty.bare] using h.lowerObject scope members alias? nullable
  | function params result span =>
      have hsignature := h.lowerSignature scope
        ⟨.type (.function params result span), params, result⟩
      simp [Resolved.bare, Ty.bare, hsignature, Signature.bare, Node.bare]
  | literal value span => rfl
  | other kind span => rfl

end BareAlike

/-! ## Lowering all the way -/

theorem lowerWithin_bare
    (depth : Nat) :
    BareAlike (lowerWithin depth) (lowerWithin depth) := by
  induction depth with
  | zero => exact fun _ _ => rfl
  | succ depth ih => exact ih.lowerStep

theorem Environment.size_bare
    (env : Environment) :
    env.bare.size = env.size := by
  obtain ⟨ds⟩ := env
  unfold Environment.size Environment.bare
  induction ds with
  | nil => rfl
  | cons d ds ih =>
      rw [List.map_cons, List.foldr_cons, List.foldr_cons, ih, Declaration.type?_bare,
        ← Ty.bareOption_eq_map, Ty.sizeOption_bare]

/-- Bare annotations lower, in bare scopes, to what the annotations lower to, bare. -/
theorem lower_bare :
    BareAlike lower lower := by
  intro scope t
  have hdepth : depthBound scope.bare.types t.bare = depthBound scope.types t := by
    simp only [depthBound, Scope.types_bare, Environment.size_bare, Ty.size_bare]
  unfold lower
  rw [hdepth]
  exact lowerWithin_bare _ scope t

/-! ## Properties of a module -/

@[simp]
theorem Member.optional_bare
    (m : Member) :
    m.bare.optional = m.optional := by
  cases m <;> rfl

/-- The function that a bare member stands for is that of the member, bare. -/
theorem memberSignature_bare
    (scope : Scope)
    (m : Member) :
    memberSignature scope.bare m.bare =
      (fun found => ⟨found.nullable, found.value.bare⟩) <$> (memberSignature scope m).bare := by
  rcases m with ⟨name, _ | t, optional, span⟩ | ⟨name, params, result, optional, span⟩ | _
  · rfl
  · have hresolve : scope.bare.types.resolve t.bare = (scope.types.resolve t).bare :=
      scope.types.resolve_bare t
    rw [Member.bare, Ty.bareOption, memberSignature, memberSignature, hresolve]
    obtain ⟨nullable, type, alias?⟩ := scope.types.resolve t
    cases type with
    | function params result span => simp [Resolved.bare, Ty.bare, Signature.bare, Node.bare]
    | _ => rfl
  · simp [memberSignature, Member.bare, Signature.bare, Node.bare]
  · rfl

theorem lowerProperty_bare
    (scope : Scope)
    (m : Member) :
    (lowerProperty scope m).bare = lowerProperty scope.bare m.bare := by
  unfold lowerProperty
  rw [memberSignature_bare, bind_map_left, Lowering.bare_bind]
  refine bind_congr fun found => ?_
  simp [lower_bare.lowerSignature]

end ModuleSpec
