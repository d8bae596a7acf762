import ModuleSpec.Proofs.AliasAgreement
import ModuleSpec.Proofs.Lowering.Element

/-!
# Arrays of functions

No array can store a function, so an array of functions has no element.  Whether
that is recorded depends on the signature.  The array learns that its element is
a function from the value that the signature is lowered to.  If a parameter or
the result has a fault, there is no such value: the fault is absorbed like any
other beneath an array, and nothing is recorded for the function.

**Results.**  `function_element_lost`, and that not every array of functions
records a fault (`not_forall_function_element_recorded`).
-/

namespace ModuleSpec

/-! ## Signatures that are lowered to a value -/

namespace Scope

/-- The parameter has a type, and what this is lowered to can be passed. -/
def LowersParam
    (s : Scope)
    (p : Param) : Prop :=
  ∃ t found, p.type = some t ∧ (lower s t).outcome = .ok found ∧ found.value.Passable

/-- There is a result, and it is lowered to what a function can return. -/
def LowersResult
    (s : Scope)
    (result : Option Ty) : Prop :=
  ∃ t found, result = some t ∧ (lower s t).outcome = .ok found ∧
    (s.nativeOnly = false → ¬ found.value.IsFunction)

/-- All parameters and the result are lowered to what they can be. -/
structure LowersSignature
    (s : Scope)
    (params : List Param)
    (result : Option Ty) : Prop where
  params : ∀ p, p ∈ params → s.LowersParam p
  result : s.LowersResult result

end Scope

namespace Lowering

variable {α β : Type}

/-- A list is lowered to a value when all of its entries are. -/
theorem exists_collect_eq_ok_iff
    {f : α → Lowering (Option β)}
    {as : List α} :
    (∃ bs, (collect f as).outcome = .ok bs) ↔
      ∀ a, a ∈ as → ∃ o, (f a).outcome = .ok o := by
  induction as with
  | nil =>
      exact ⟨nofun, fun _ => ⟨[], rfl⟩⟩
  | cons a as ih =>
      rw [List.forall_mem_cons, ← ih]
      simp only [outcome_collect_cons_iff]
      constructor
      · rintro ⟨_, o, cs, ho, hcs, -⟩
        exact ⟨⟨o, ho⟩, cs, hcs⟩
      · rintro ⟨⟨o, ho⟩, cs, hcs⟩
        exact ⟨_, o, cs, ho, hcs, rfl⟩

/-- Where every fault is let through, what is guarded has to give a value. -/
theorem exists_guard_passthrough_eq_ok_iff
    {x : Lowering α} :
    (∃ o, (Capture.passthrough.guard x).outcome = .ok o) ↔ ∃ a, x.outcome = .ok a := by
  constructor
  · rintro ⟨o, ho⟩
    rcases Capture.guard_eq_ok ho with ⟨a, -, ha, -⟩ | ⟨-, f, -, hf, -⟩
    · exact ⟨a, ha⟩
    · exact absurd hf (Capture.not_accepts_passthrough f)
  · rintro ⟨a, ha⟩
    obtain ⟨outcome, events⟩ := x
    obtain rfl : outcome = .ok a := ha
    exact ⟨some a, by rw [Capture.guard_ok]⟩

end Lowering

open Lowering (outcome_bind_eq_ok_iff)

section Signatures

variable {s : Scope}

theorem exists_lowerParam_eq_ok_iff
    {p : Param} :
    (∃ shape, (lowerParam lower s p).outcome = .ok shape) ↔ s.LowersParam p := by
  unfold lowerParam Scope.LowersParam
  cases p.type with
  | none =>
      constructor
      · rintro ⟨_, ⟨⟩⟩
      · rintro ⟨_, _, ⟨⟩, -⟩
  | some t =>
      simp only [outcome_bind_eq_ok_iff, Option.some.injEq, exists_and_left, exists_eq_left']
      constructor
      · rintro ⟨shape, found, hfound, hshape⟩
        refine ⟨found, hfound, ?_⟩
        rw [← SchemaType.unpassable?_eq_none_iff]
        cases hword : found.value.unpassable? with
        | none => rfl
        | some word =>
            rw [hword] at hshape
            cases hshape
      · rintro ⟨found, hfound, hpassable⟩
        rw [← SchemaType.unpassable?_eq_none_iff] at hpassable
        exact ⟨_, found, hfound, by rw [hpassable]; rfl⟩

theorem exists_lowerResult_eq_ok_iff
    (signature : Signature) :
    (∃ found, (lowerResult lower s signature).outcome = .ok found) ↔
      s.LowersResult signature.result := by
  unfold lowerResult Scope.LowersResult
  cases signature.result with
  | none =>
      constructor
      · rintro ⟨_, ⟨⟩⟩
      · rintro ⟨_, _, ⟨⟩, -⟩
  | some t =>
      simp only [outcome_bind_eq_ok_iff, Option.some.injEq, exists_and_left, exists_eq_left',
        ← SchemaType.isFunction_eq_true_iff]
      constructor
      · rintro ⟨_, found, hfound, hresult⟩
        refine ⟨found, hfound, fun hportable hfunction => ?_⟩
        rw [hportable, hfunction] at hresult
        cases hresult
      · rintro ⟨found, hfound, hreturned⟩
        refine ⟨found, found, hfound, ?_⟩
        rw [if_neg (by simpa using hreturned)]
        rfl

/-- With every fault let through, a signature is lowered to a value when all of it is. -/
theorem exists_lowerSignature_eq_ok_iff
    (signature : Signature) :
    (∃ a, (lowerSignature lower s.passing signature).outcome = .ok a) ↔
      s.passing.LowersSignature signature.params signature.result := by
  have hparams : (∃ shapes, (lowerParams lower s.passing signature.params).outcome = .ok shapes) ↔
      ∀ p, p ∈ signature.params → s.passing.LowersParam p := by
    simp only [lowerParams, Lowering.exists_collect_eq_ok_iff]
    refine forall₂_congr fun p _ => ?_
    exact Lowering.exists_guard_passthrough_eq_ok_iff.trans exists_lowerParam_eq_ok_iff
  have hresult := exists_lowerResult_eq_ok_iff (s := s.passing) signature
  unfold lowerSignature
  simp only [outcome_bind_eq_ok_iff]
  constructor
  · rintro ⟨a, shapes, hshapes, found, hfound, -⟩
    exact ⟨hparams.1 ⟨shapes, hshapes⟩, hresult.1 ⟨found, hfound⟩⟩
  · rintro ⟨hall, hreturned⟩
    obtain ⟨shapes, hshapes⟩ := hparams.2 hall
    obtain ⟨found, hfound⟩ := hresult.2 hreturned
    exact ⟨_, shapes, hshapes, found, hfound, rfl⟩

/-- What a signature is lowered to is a function. -/
theorem isFunction_of_lowerSignature
    {f : Lower}
    {signature : Signature}
    {a : SchemaType}
    (h : (lowerSignature f s signature).outcome = .ok a) :
    a.IsFunction := by
  obtain ⟨shapes, -, h⟩ := outcome_bind_eq_ok_iff.1 h
  obtain ⟨found, -, h⟩ := outcome_bind_eq_ok_iff.1 h
  cases h
  trivial

end Signatures

/-! ## Arrays of functions -/

section Functions

variable {s : Scope} {t : Ty} {params : List Param} {result : Option Ty} {span : Span}

/-- An annotation of a function is lowered as its signature. -/
theorem lower_of_resolve_function
    (hfound : (s.types.resolve t).type = .function params result span)
    (hend : (lower s t).Terminates) :
    lower s t =
      lowerSignature lower s ⟨.type (.function params result span), params, result⟩ >>=
        fun a => pure ⟨(s.types.resolve t).nullable, a⟩ := by
  rw [lower_eq_lowerStep hend, lowerStep_of_function hfound]

/-- With every fault let through, a function is lowered to a value when its signature is. -/
theorem exists_lower_eq_ok_iff
    (hfound : (s.types.resolve t).type = .function params result span)
    (hend : (lower s.passing t).Terminates) :
    (∃ found, (lower s.passing t).outcome = .ok found) ↔
      s.passing.LowersSignature params result := by
  have hsignature := exists_lowerSignature_eq_ok_iff (s := s)
    ⟨.type (.function params result span), params, result⟩
  rw [lower_of_resolve_function (s := s.passing) hfound hend, ← hsignature]
  simp only [outcome_bind_eq_ok_iff]
  constructor
  · rintro ⟨found, a, ha, -⟩
    exact ⟨a, ha⟩
  · rintro ⟨a, ha⟩
    exact ⟨_, a, ha, rfl⟩

/-- Whatever an annotation of a function is lowered to is a function. -/
theorem unstorable?_of_resolve_function
    {found : Nullable SchemaType}
    (hfound : (s.types.resolve t).type = .function params result span)
    (h : (lower s t).outcome = .ok found) :
    found.value.unstorable? = some "FunctionTypeAnnotation" := by
  have hsettles : (lower s t).Settles := .of_ok h
  rw [lower_of_resolve_function hfound hsettles.terminates] at h
  obtain ⟨a, ha, hvalue⟩ := outcome_bind_eq_ok_iff.1 h
  cases hvalue
  have hfunction := isFunction_of_lowerSignature ha
  cases a with
  | function shapes returned => rfl
  | _ => cases hfunction

end Functions

/--
Arrays of the function have no element.  The innermost records the function when
its signature is lowered to a value, and records nothing for it otherwise.  Only a
union without members in the signature ends the lowering of the arrays as well.
-/
structure Scope.LosesFunction
    (s : Scope)
    (t : Ty)
    (params : List Param)
    (result : Option Ty)
    (outer : List ArrayLayer)
    (l : ArrayLayer) : Prop where
  value : (lower s.passing t).outcome ≠ .error .emptyUnion →
    (lower s (ArrayLayer.stack outer l t)).outcome = .ok ⟨false, .arrays outer.length none⟩
  stopped : (lower s.passing t).outcome = .error .emptyUnion →
    (lower s (ArrayLayer.stack outer l t)).outcome = .error .emptyUnion
  reported : s.passing.LowersSignature params result →
    (lower s (ArrayLayer.stack outer l t)).events = (lower s.passing t).events ++
      [.recorded s.sink.channel
        (s.fault (.type t) (.arrayElement l.word "FunctionTypeAnnotation"))]
  absorbed : ¬ s.passing.LowersSignature params result →
    (lower s (ArrayLayer.stack outer l t)).events = (lower s.passing t).events

/--
With a sink that accepts what arrays record, an array of functions that is
lowered to an end has no element, at whatever depth.  It records that when the
signature of the function is lowered to a value with every fault let through.
-/
theorem function_element_lost
    {s : Scope}
    {t : Ty}
    {params : List Param}
    {result : Option Ty}
    {span : Span}
    {outer : List ArrayLayer}
    {l : ArrayLayer}
    (helements : s.AcceptsElements)
    (hfound : (s.types.resolve t).type = .function params result span)
    (houter : ∀ k, k ∈ outer → k.StandsIn s.types)
    (hl : l.StandsIn s.types)
    (hend : (lower s (ArrayLayer.stack outer l t)).Terminates) :
    s.LosesFunction t params result outer l := by
  rw [terminates_lower_stack_iff houter hl] at hend
  have hiff := exists_lower_eq_ok_iff hfound hend
  have hrun : (lower s.passing t).Settles → lower s (ArrayLayer.stack outer l t) = _ :=
    lower_stack houter hl helements
  cases hx : (lower s.passing t).outcome with
  | ok found =>
      have hword : found.value.unstorable? = some "FunctionTypeAnnotation" :=
        unstorable?_of_resolve_function (s := s.passing) hfound hx
      have hnone : (lower s.passing t).element? = none := by
        simp [Lowering.element?, hx, hword]
      have hrejection : s.rejection l.word t (lower s.passing t) =
          [.recorded s.sink.channel
            (s.fault (.type t) (.arrayElement l.word "FunctionTypeAnnotation"))] := by
        simp [Scope.rejection, hx, hword]
      have hstack := hrun (.of_ok hx)
      rw [hnone, hrejection] at hstack
      refine ⟨fun _ => congrArg Lowering.outcome hstack, fun hempty => ?_,
        fun _ => congrArg Lowering.events hstack, fun hnot => ?_⟩
      · rw [hx] at hempty
        cases hempty
      · exact absurd (hiff.1 ⟨found, hx⟩) hnot
  | error halt =>
      -- The signature is not lowered to a value, so that nothing can be reported.
      have hnot : ¬ s.passing.LowersSignature params result := by
        intro hsignature
        obtain ⟨found, hvalue⟩ := hiff.2 hsignature
        rw [hx] at hvalue
        cases hvalue
      cases halt with
      | fault f =>
          have hnone : (lower s.passing t).element? = none :=
            Lowering.element?_eq_none_iff.2 (.inl ⟨_, hx⟩)
          have hrejection : s.rejection l.word t (lower s.passing t) = [] := by
            simp [Scope.rejection, hx]
          have hstack := hrun (.of_fault hx)
          rw [hnone, hrejection, List.append_nil] at hstack
          refine ⟨fun _ => by rw [hstack], fun hempty => ?_, fun h => absurd h hnot,
            fun _ => by rw [hstack]⟩
          rw [hx] at hempty
          cases hempty
      | emptyUnion =>
          have hstack := lower_stack_of_emptyUnion houter hl hx
          exact ⟨fun hne => absurd hx hne, fun _ => by rw [hstack], fun h => absurd h hnot,
            fun _ => by rw [hstack]⟩
      | endless =>
          exact absurd hx hend

namespace ListenerSpec

/-- A function of a point that may be absent, under a name. -/
def program : Program :=
  ⟨[.declaration (.interface ⟨"Point", [],
      [MapSpec.property "at" (MapSpec.keyword "number")], Span.none⟩),
    .declaration (.typeAlias ⟨"Listener",
      .union
        [.function [⟨"point", some (MapSpec.name "Point"), false, Span.none⟩]
            (some (MapSpec.keyword "void")) Span.none,
          MapSpec.keyword "null"] Span.none, Span.none⟩)], Span.none⟩

def scope : Scope :=
  freshScope "NativeListener" (Environment.ofProgram program) false fileChannel

end ListenerSpec

open ListenerSpec in
theorem listenerSpec_function_element_lost :
    let t := MapSpec.name "Listener"
    (scope.types.resolve t).type = .function
        [⟨"point", some (MapSpec.name "Point"), false, Span.none⟩]
        (some (MapSpec.keyword "void")) Span.none ∧
      (lower scope
        (ArrayLayer.stack [.readonlyArray Span.none] (.brackets Span.none) t)).Terminates ∧
      scope.LosesFunction t
        [⟨"point", some (MapSpec.name "Point"), false, Span.none⟩]
        (some (MapSpec.keyword "void")) [.readonlyArray Span.none] (.brackets Span.none) := by
  intro t
  have hfound : (scope.types.resolve t).type = .function
      [⟨"point", some (MapSpec.name "Point"), false, Span.none⟩]
      (some (MapSpec.keyword "void")) Span.none := by
    cbv
  have houter : ∀ k, k ∈ [ArrayLayer.readonlyArray Span.none] → k.StandsIn scope.types := by
    intro k hk
    obtain rfl := List.mem_singleton.1 hk
    rfl
  have hend : (lower scope
      (ArrayLayer.stack [.readonlyArray Span.none] (.brackets Span.none) t)).Terminates := by
    decide +kernel
  have helements : scope.AcceptsElements :=
    acceptsElements_freshScope "NativeListener" _ false fileChannel
  exact ⟨hfound, hend, function_element_lost helements hfound houter trivial hend⟩

/-- A function with an untyped parameter is lost without a trace. -/
theorem not_forall_function_element_recorded :
    ¬ ∀ (s : Scope) (t : Ty) params result span (outer : List ArrayLayer) (l : ArrayLayer),
      s.AcceptsElements →
      (s.types.resolve t).type = .function params result span →
      (∀ k, k ∈ outer → k.StandsIn s.types) → l.StandsIn s.types →
      (lower s (ArrayLayer.stack outer l t)).Terminates →
      (lower s (ArrayLayer.stack outer l t)).outcome = .ok ⟨false, .arrays outer.length none⟩ ∧
        ∃ word, .recorded s.sink.channel (s.fault (.type t) (.arrayElement l.word word)) ∈
          (lower s (ArrayLayer.stack outer l t)).events := by
  intro hrecorded
  let s : Scope := freshScope "NativeFoo" .empty false fileChannel
  let params : List Param := [⟨"x", none, false, Span.none⟩]
  let t : Ty := .function params (some (MapSpec.keyword "void")) Span.none
  have hrun : lower s (ArrayLayer.stack [] (.brackets Span.none) t) =
      ⟨.ok ⟨false, .array none⟩, []⟩ := by
    cbv
  have hend : (lower s (ArrayLayer.stack [] (.brackets Span.none) t)).Terminates := by
    rw [hrun]
    rintro ⟨⟩
  have hfound : (s.types.resolve t).type = t := by
    cbv
  have houter : ∀ k, k ∈ ([] : List ArrayLayer) → k.StandsIn s.types := by
    rintro _ ⟨⟩
  obtain ⟨-, word, hmem⟩ := hrecorded s t params _ Span.none [] (.brackets Span.none)
    (acceptsElements_freshScope "NativeFoo" _ false fileChannel) hfound houter trivial hend
  rw [hrun] at hmem
  cases hmem

end ModuleSpec
