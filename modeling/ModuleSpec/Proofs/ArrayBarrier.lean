import ModuleSpec.Proofs.AliasAgreement
import ModuleSpec.Proofs.Lowering.Element
import ModuleSpec.Proofs.Lowering.Uses

/-!
# Arrays keep faults in

Whatever is wrong beneath an array, the array is lowered.  It loses its element,
and nothing else is lost.  The only faults that come out of it are those that
arrays record about elements that cannot be stored.

A fault that is absorbed leaves no trace, so an array without an element has
recorded something only if its element was lowered to a value.

**Results.**  `array_bars_faults`.
-/

namespace ModuleSpec

/-- The given fault is recorded in the end, and no other. -/
def Lowering.RecordsOnly
    (channel : Nat)
    (f : Fault)
    {α : Type}
    (x : Lowering α) : Prop :=
  ∃ es, (∀ c e, .recorded c e ∉ es) ∧ x.events = es ++ [.recorded channel f]

namespace Scope

/--
The element of the array is what the annotation is lowered to with every fault
let through.  There is none exactly when that ends without a value or with one
that cannot be stored.
-/
structure ElementOf
    (s : Scope)
    (t : Ty)
    (element : Option (Nullable SchemaType)) : Prop where
  present : ∀ found, element = some found → (lower s.passing t).outcome = .ok found
  absent : element = none ↔
    (∃ halt, (lower s.passing t).outcome = .error halt) ∨
      ∃ found, (lower s.passing t).outcome = .ok found ∧ ¬ found.value.Storable

/--
Every array of the annotation is lowered, and records only elements of arrays.
Arrays in arrays around what is lowered without a fault to a value that cannot
be stored are all lowered, and record that value once.
-/
structure BarsFaults
    (s : Scope)
    (t : Ty) : Prop where
  value : ∀ l : ArrayLayer, l.StandsIn s.types →
    ∃ element, (lower s (l.around t)).outcome = .ok ⟨false, .array element⟩ ∧
      s.ElementOf t element
  recorded : ∀ l : ArrayLayer, l.StandsIn s.types →
    (lower s (l.around t)).RecordsElements s.sink.channel
  stacked : ∀ (outer : List ArrayLayer) (l : ArrayLayer) found,
    (∀ k, k ∈ outer → k.StandsIn s.types) → l.StandsIn s.types →
    (lower s.passing t).outcome = .ok found → ¬ found.value.Storable →
    (∀ c f, .recorded c f ∉ (lower s.passing t).events) →
    (lower s (ArrayLayer.stack outer l t)).outcome = .ok ⟨false, .arrays outer.length none⟩ ∧
      ∃ word, (lower s (ArrayLayer.stack outer l t)).RecordsOnly s.sink.channel
        (s.fault (.type t) (.arrayElement l.word word))

end Scope

section Runs

variable {s : Scope} {t : Ty}

theorem elementOf_element?
    (s : Scope)
    (t : Ty) :
    s.ElementOf t (lower s.passing t).element? where
  present := fun _ => Lowering.outcome_of_element?
  absent := Lowering.element?_eq_none_iff

theorem recordsElements_rejection
    (s : Scope)
    (array : String)
    (element : Ty)
    (x : Lowering (Nullable SchemaType)) :
    ∀ c f, .recorded c f ∈ s.rejection array element x →
      c = s.sink.channel ∧ f.kind = .arrayElement := by
  intro c f hf
  unfold Scope.rejection at hf
  split at hf
  · obtain ⟨word, -, hword⟩ := List.mem_map.1 hf
    cases hword
    exact ⟨rfl, rfl⟩
  · cases hf

/-- An array that rejects the value of its element records that. -/
theorem exists_rejection_eq
    {x : Lowering (Nullable SchemaType)}
    {found : Nullable SchemaType}
    (h : x.outcome = .ok found)
    (hstorable : ¬ found.value.Storable)
    (s : Scope)
    (array : String)
    (element : Ty) :
    ∃ word, s.rejection array element x =
      [.recorded s.sink.channel (s.fault (.type element) (.arrayElement array word))] := by
  rw [← SchemaType.unstorable?_eq_none_iff, ← Ne, Option.ne_none_iff_exists'] at hstorable
  obtain ⟨word, hword⟩ := hstorable
  exact ⟨word, by simp [Scope.rejection, h, hword]⟩

end Runs

/--
With a sink that accepts what arrays record, arrays keep in the faults of an element
that is lowered to an end and uses no union without members.
-/
theorem array_bars_faults
    {s : Scope}
    {t : Ty}
    (helements : s.AcceptsElements)
    (hunions : s.types.InhabitsUnions t)
    (hend : (lower s.passing t).Terminates) :
    s.BarsFaults t := by
  have hsettles : (lower s.passing t).Settles :=
    settles_of_inhabitsUnions (s := s.passing) hunions hend
  have hrun (outer : List ArrayLayer) (l : ArrayLayer)
      (houter : ∀ k, k ∈ outer → k.StandsIn s.types)
      (hl : l.StandsIn s.types) :=
    lower_stack houter hl helements hsettles
  refine ⟨?_, ?_, ?_⟩
  · intro l hl
    refine ⟨_, congrArg Lowering.outcome (hrun [] l nofun hl), ?_⟩
    exact elementOf_element? s t
  · intro l hl c f hf
    have hevents := congrArg Lowering.events (hrun [] l nofun hl)
    rw [ArrayLayer.stack, List.foldr_nil] at hevents
    rw [hevents] at hf
    rcases List.mem_append.1 hf with hf | hf
    · exact recordsElements_lower s t c f hf
    · exact recordsElements_rejection s l.word t _ c f hf
  · intro outer l found houter hl hfound hstorable hsilent
    have hnone : (lower s.passing t).element? = none :=
      Lowering.element?_eq_none_iff.2 (.inr ⟨found, hfound, hstorable⟩)
    obtain ⟨word, hword⟩ := exists_rejection_eq hfound hstorable s l.word t
    rw [hrun outer l houter hl, hnone, hword]
    exact ⟨rfl, word, _, hsilent, rfl⟩

namespace CallbackSpec

/-- An object with an array of functions, and a function that may be absent. -/
def program : Program :=
  ⟨[.declaration (.interface ⟨"Point", [],
      [MapSpec.property "at" (MapSpec.keyword "number"),
        MapSpec.property "lost" (.array (MapSpec.keyword "any") Span.none)], Span.none⟩),
    .declaration (.typeAlias ⟨"Callback",
      .union
        [.function [⟨"point", some (MapSpec.name "Point"), false, Span.none⟩]
            (some (MapSpec.keyword "void")) Span.none,
          MapSpec.keyword "null"] Span.none, Span.none⟩)], Span.none⟩

def scope : Scope :=
  freshScope "NativeCallback" (Environment.ofProgram program) false fileChannel

end CallbackSpec

open CallbackSpec in
theorem callbackSpec_array_bars_faults :
    scope.types.InhabitsUnions (MapSpec.name "Callback") ∧
      (lower scope.passing (MapSpec.name "Callback")).Terminates ∧
      scope.BarsFaults (MapSpec.name "Callback") := by
  have hprogram : CallbackSpec.program.UnionsInhabited := by
    decide +kernel
  have hevery : scope.types.Every fun n => n.isEmptyUnion = false :=
    Environment.every_ofProgram hprogram fun _ _ => rfl
  have htype : (Node.type (MapSpec.name "Callback")).Every fun n => n.isEmptyUnion = false := by
    unfold Node.Every
    decide +kernel
  have hunions : scope.types.InhabitsUnions (MapSpec.name "Callback") :=
    ⟨htype, fun name u _ hu => hevery name u hu⟩
  have hend : (lower scope.passing (MapSpec.name "Callback")).Terminates := by
    decide +kernel
  have helements : scope.AcceptsElements :=
    acceptsElements_freshScope "NativeCallback" _ false fileChannel
  exact ⟨hunions, hend, array_bars_faults helements hunions hend⟩

end ModuleSpec
