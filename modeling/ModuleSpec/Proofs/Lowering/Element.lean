import ModuleSpec.Proofs.Lowering.Refine

/-!
# Elements of arrays

An array can be written in four ways, and its element can be an array again.
However it is written, its element is lowered with every fault let through.  If
that gives a value that can be stored, the value becomes the element; otherwise
the array stays without one.  A value that cannot be stored is recorded.

An array can always be stored itself.  So of arrays in arrays only the innermost
can lose its element, and the others record nothing.

**Results.**
* `lower_stack`: what arrays in arrays are lowered to, given what the element of
  the innermost is lowered to.
* `recordsElements_lower`: where every fault is let through, all that is recorded
  is about elements of arrays.
-/

namespace ModuleSpec

/-! ## Ways to write an array -/

/-- A way to write an array, with the spans that it takes. -/
inductive ArrayLayer
  | brackets (span : Span)
  | readonlyBrackets (inner outer : Span)
  | array (span : Span)
  | readonlyArray (span : Span)

namespace ArrayLayer

/-- What faults call an array that is written in this way. -/
def word : ArrayLayer → String
  | brackets _ => "Array"
  | readonlyBrackets .. => "ReadonlyArray"
  | array _ => "Array"
  | readonlyArray _ => "ReadonlyArray"

/-- An array of the given element. -/
def around : ArrayLayer → Ty → Ty
  | brackets span, t => .array t span
  | readonlyBrackets inner outer, t => .operator "readonly" (.array t inner) outer
  | array span, t => .reference "Array" (some [t]) span
  | readonlyArray span, t => .reference "ReadonlyArray" (some [t]) span

/-- Arrays in arrays, the outermost first, with the element of the innermost. -/
def stack
    (outer : List ArrayLayer)
    (innermost : ArrayLayer)
    (t : Ty) :
    Ty :=
  outer.foldr around (innermost.around t)

/-- The array needs no name, or the name is not declared to stand for a type. -/
def StandsIn
    (env : Environment) :
    ArrayLayer → Prop
  | brackets _ => True
  | readonlyBrackets .. => True
  | array _ => env.typeOf? "Array" = none
  | readonlyArray _ => env.typeOf? "ReadonlyArray" = none

variable {env : Environment} {l : ArrayLayer}

theorem target?_around
    (h : l.StandsIn env)
    (t : Ty) :
    env.target? [] (l.around t) = none := by
  cases l with
  | brackets span => rfl
  | readonlyBrackets inner outer => rfl
  | array span =>
      change Option.map _ (env.typeOf? "Array") = none
      rw [show env.typeOf? "Array" = none from h, Option.map_none]
  | readonlyArray span =>
      change Option.map _ (env.typeOf? "ReadonlyArray") = none
      rw [show env.typeOf? "ReadonlyArray" = none from h, Option.map_none]

/-- An array resolves to itself. -/
theorem resolve_around
    (h : l.StandsIn env)
    (t : Ty) :
    env.resolve (l.around t) = ⟨false, l.around t, none⟩ := by
  have hpeel : (l.around t).peel = ⟨false, l.around t⟩ := by
    cases l <;> simp [around, Ty.peel]
  have hstop : env.target? [] (l.around t).peel.type = none := by
    rw [hpeel]
    exact target?_around h t
  rw [Environment.resolve, Environment.resolveWithin_stop _ hstop, hpeel]
  rfl

end ArrayLayer

/-! ## An array and the lowering of its element -/

namespace Lowering

variable {x : Lowering (Nullable SchemaType)}

/-- The value as the element of an array, if there is one and it can be stored. -/
def element? (x : Lowering (Nullable SchemaType)) : Option (Nullable SchemaType) :=
  match x.outcome with
  | .ok found => if found.value.unstorable?.isSome then none else some found
  | .error _ => none

theorem element?_of_storable
    {found : Nullable SchemaType}
    (h : x.outcome = .ok found)
    (hstorable : found.value.Storable) :
    x.element? = some found := by
  rw [← SchemaType.unstorable?_eq_none_iff] at hstorable
  simp [element?, h, hstorable]

/-- There is no element when there is no value, or when it cannot be stored. -/
theorem element?_eq_none_iff :
    x.element? = none ↔
      (∃ halt, x.outcome = .error halt) ∨
        ∃ found, x.outcome = .ok found ∧ ¬ found.value.Storable := by
  cases h : x.outcome with
  | error halt => simp [element?, h]
  | ok found =>
      simp [element?, h, ← SchemaType.unstorable?_eq_none_iff, Option.isSome_iff_ne_none]

theorem outcome_of_element?
    {found : Nullable SchemaType}
    (h : x.element? = some found) :
    x.outcome = .ok found := by
  unfold element? at h
  split at h
  · rename_i hx
    rw [Option.ite_none_left_eq_some] at h
    obtain ⟨-, h⟩ := h
    cases h
    exact hx
  · cases h

theorem Settles.of_ok
    {α : Type}
    {y : Lowering α}
    {a : α}
    (h : y.outcome = .ok a) :
    y.Settles := by
  intro halt hhalt
  rw [h] at hhalt
  cases hhalt

theorem Settles.of_fault
    {α : Type}
    {y : Lowering α}
    {f : Fault}
    (h : y.outcome = .error (.fault f)) :
    y.Settles := by
  intro halt hhalt
  rw [h] at hhalt
  cases hhalt
  exact ⟨f, rfl⟩

theorem Settles.terminates
    {α : Type}
    {y : Lowering α}
    (h : y.Settles) :
    y.Terminates := by
  intro hendless
  obtain ⟨f, hf⟩ := h _ hendless
  cases hf

end Lowering

/-- What an array records, given the lowering of its element. -/
def Scope.rejection
    (s : Scope)
    (array : String)
    (element : Ty)
    (x : Lowering (Nullable SchemaType)) :
    List Event :=
  match x.outcome with
  | .ok found =>
      found.value.unstorable?.toList.map fun word =>
        .recorded s.sink.channel (s.fault (.type element) (.arrayElement array word))
  | .error _ => []

theorem Scope.rejection_of_storable
    {s : Scope}
    {x : Lowering (Nullable SchemaType)}
    {found : Nullable SchemaType}
    (h : x.outcome = .ok found)
    (hstorable : found.value.Storable)
    (array : String)
    (element : Ty) :
    s.rejection array element x = [] := by
  rw [← SchemaType.unstorable?_eq_none_iff] at hstorable
  simp [rejection, h, hstorable]

section Step

variable {f : Lower} {s : Scope}

/-- An array goes on, whatever its element has come to. -/
theorem lowerArray_of_settles
    {array : String}
    {element : Ty}
    {nullable : Bool}
    (helements : s.AcceptsElements)
    (h : (f s.passing element).Settles) :
    lowerArray f s array element nullable =
      ⟨.ok ⟨nullable, .array (f s.passing element).element?⟩,
        (f s.passing element).events ++ s.rejection array element (f s.passing element)⟩ := by
  unfold lowerArray
  generalize f s.passing element = x at h
  obtain ⟨halt | found, events⟩ := x
  · obtain ⟨e, rfl⟩ := h halt rfl
    rfl
  · cases hword : found.value.unstorable? with
    | none =>
        simp [Lowering.attempt, Lowering.bind_ok, hword, Lowering.element?, Scope.rejection,
          Lowering.pure_def]
    | some word =>
        have hrecord := Capture.record_of_accepts (helements (.type element) array word)
        simp [Lowering.attempt, Lowering.bind_ok, hword, hrecord, Lowering.emit,
          Lowering.element?, Scope.rejection, Lowering.pure_def]

/-- An empty union that ends the lowering of the element ends that of the array. -/
theorem lowerArray_of_emptyUnion
    {array : String}
    {element : Ty}
    {nullable : Bool}
    (h : (f s.passing element).outcome = .error .emptyUnion) :
    lowerArray f s array element nullable =
      ⟨.error .emptyUnion, (f s.passing element).events⟩ := by
  unfold lowerArray
  generalize f s.passing element = x at h
  obtain ⟨outcome, events⟩ := x
  obtain rfl : outcome = .error .emptyUnion := h
  rfl

theorem lowerStep_around
    {l : ArrayLayer}
    (h : l.StandsIn s.types)
    (f : Lower)
    (t : Ty) :
    lowerStep f s (l.around t) = lowerArray f s l.word t false := by
  simp only [lowerStep, ArrayLayer.resolve_around h]
  cases l with
  | brackets span => rfl
  | readonlyBrackets inner outer => rfl
  | array span => exact lowerReference_array false (.inl rfl)
  | readonlyArray span => exact lowerReference_array false (.inr rfl)

end Step

/-! ## Arrays in arrays -/

namespace SchemaType

/-- An array with as many arrays in it as given, and the element of the innermost. -/
def arrays : Nat → Option (Nullable SchemaType) → SchemaType
  | 0, element => array element
  | n + 1, element => array (some ⟨false, arrays n element⟩)

theorem storable_arrays
    (n : Nat)
    (element : Option (Nullable SchemaType)) :
    (arrays n element).Storable := by
  cases n <;> trivial

end SchemaType

section Stack

variable {s : Scope} {outer : List ArrayLayer} {l : ArrayLayer} {t : Ty}

/-- An array terminates when its element does. -/
theorem terminates_lower_around_iff
    (h : l.StandsIn s.types) :
    (lower s (l.around t)).Terminates ↔ (lower s.passing t).Terminates := by
  have hstep := lowerStep_around h lower t
  constructor
  · intro hend
    rw [lower_eq_lowerStep hend, hstep] at hend
    exact terminates_lowerArray_iff.1 hend
  · intro hend
    refine terminates_lower_of_lowerStep ?_
    rw [hstep]
    exact terminates_lowerArray_iff.2 hend

theorem lower_around
    (h : l.StandsIn s.types)
    (hend : (lower s.passing t).Terminates) :
    lower s (l.around t) = lowerArray lower s l.word t false := by
  rw [lower_eq_lowerStep ((terminates_lower_around_iff h).2 hend), lowerStep_around h]

theorem terminates_lower_stack_iff
    (houter : ∀ k, k ∈ outer → k.StandsIn s.types)
    (hl : l.StandsIn s.types) :
    (lower s (ArrayLayer.stack outer l t)).Terminates ↔ (lower s.passing t).Terminates := by
  induction outer generalizing s with
  | nil =>
      exact terminates_lower_around_iff hl
  | cons k outer ih =>
      obtain ⟨hk, hrest⟩ := List.forall_mem_cons.1 houter
      exact (terminates_lower_around_iff hk).trans (ih (s := s.passing) hrest hl)

/--
Of arrays in arrays, the innermost has the element that its element was lowered
to, if there is one, and alone can record something.
-/
theorem lower_stack
    (houter : ∀ k, k ∈ outer → k.StandsIn s.types)
    (hl : l.StandsIn s.types)
    (helements : s.AcceptsElements)
    (hsettles : (lower s.passing t).Settles) :
    lower s (ArrayLayer.stack outer l t) =
      ⟨.ok ⟨false, .arrays outer.length (lower s.passing t).element?⟩,
        (lower s.passing t).events ++ s.rejection l.word t (lower s.passing t)⟩ := by
  induction outer generalizing s with
  | nil =>
      rw [ArrayLayer.stack, List.foldr_nil, lower_around hl hsettles.terminates,
        lowerArray_of_settles helements hsettles]
      rfl
  | cons k outer ih =>
      obtain ⟨hk, hrest⟩ := List.forall_mem_cons.1 houter
      have hrun := ih (s := s.passing) hrest hl helements hsettles
      have houtcome := congrArg Lowering.outcome hrun
      have hinner : (lower s.passing (ArrayLayer.stack outer l t)).Settles := .of_ok houtcome
      have hstorable := SchemaType.storable_arrays outer.length (lower s.passing t).element?
      rw [ArrayLayer.stack, List.foldr_cons, ← ArrayLayer.stack,
        lower_around hk hinner.terminates, lowerArray_of_settles helements hinner,
        Lowering.element?_of_storable houtcome hstorable,
        Scope.rejection_of_storable houtcome hstorable, hrun, List.append_nil]
      rfl

/-- An empty union that ends the lowering of the element ends that of all arrays. -/
theorem lower_stack_of_emptyUnion
    (houter : ∀ k, k ∈ outer → k.StandsIn s.types)
    (hl : l.StandsIn s.types)
    (hempty : (lower s.passing t).outcome = .error .emptyUnion) :
    lower s (ArrayLayer.stack outer l t) =
      ⟨.error .emptyUnion, (lower s.passing t).events⟩ := by
  have hend {x : Lowering (Nullable SchemaType)} (hx : x.outcome = .error .emptyUnion) :
      x.Terminates := by
    rw [Lowering.Terminates, hx]
    rintro ⟨⟩
  induction outer generalizing s with
  | nil =>
      rw [ArrayLayer.stack, List.foldr_nil, lower_around hl (hend hempty),
        lowerArray_of_emptyUnion hempty]
  | cons k outer ih =>
      obtain ⟨hk, hrest⟩ := List.forall_mem_cons.1 houter
      have hrun := ih (s := s.passing) hrest hl hempty
      have houtcome := congrArg Lowering.outcome hrun
      rw [ArrayLayer.stack, List.foldr_cons, ← ArrayLayer.stack,
        lower_around hk (hend houtcome), lowerArray_of_emptyUnion houtcome, hrun]
      rfl

end Stack

/-! ## What is recorded where every fault is let through -/

namespace Lowering

/-- All that is recorded is about elements of arrays, on the given channel. -/
def RecordsElements
    (channel : Nat)
    {α : Type}
    (x : Lowering α) : Prop :=
  ∀ c f, .recorded c f ∈ x.events → c = channel ∧ f.kind = .arrayElement

section Rules

variable {channel : Nat} {α β : Type}

theorem recordsElements_bind
    {x : Lowering α}
    {f : α → Lowering β}
    (hx : x.RecordsElements channel)
    (hf : ∀ a, x.outcome = .ok a → (f a).RecordsElements channel) :
    (x >>= f).RecordsElements channel := by
  obtain ⟨halt | a, events⟩ := x
  · exact hx
  · intro c e he
    rcases List.mem_append.1 he with he | he
    · exact hx c e he
    · exact hf a rfl c e he

theorem recordsElements_attempt
    {x : Lowering α}
    (hx : x.RecordsElements channel) :
    x.attempt.RecordsElements channel := by
  intro c f hf
  rw [events_attempt] at hf
  exact hx c f hf

theorem recordsElements_record
    {c : Capture}
    {f : Fault}
    (hf : f.kind = .arrayElement) :
    (c.record f).RecordsElements c.channel := by
  intro d e he
  unfold Capture.record at he
  split at he
  · cases List.mem_singleton.1 he
    exact ⟨rfl, hf⟩
  · cases he

theorem recordsElements_guard
    {x : Lowering α}
    (hx : x.RecordsElements channel) :
    (Capture.passthrough.guard x).RecordsElements channel := by
  refine recordsElements_bind (recordsElements_attempt hx) fun r _ => ?_
  cases r with
  | ok a => exact nofun
  | error f => exact nofun

/-- Lowerings of which the first records nothing but elements of arrays. -/
def recordingElements (channel : Nat) : LoweringRelation where
  rel := fun x _ => RecordsElements channel x
  pure := fun _ => nofun
  bind := fun hx hf => recordsElements_bind hx fun a _ => hf a

end Rules

end Lowering

open Lowering (recordingElements)

/-- With every fault let through, a step records nothing but elements of arrays. -/
theorem companions_recordingElements
    (s : Scope) :
    Companions (recordingElements s.sink.channel) (recordingElements s.sink.channel)
      s.passing s.passing where
  nativeOnly := rfl
  raise := fun _ _ _ => nofun
  emptyUnion := nofun
  register := fun a c f hf => by cases List.mem_singleton.1 hf
  guard := Lowering.recordsElements_guard
  element := by
    intro α β x y f g hx hok herror
    refine Lowering.recordsElements_bind (Lowering.recordsElements_attempt hx) fun r _ => ?_
    cases r with
    | ok a => exact hok a
    | error e => exact herror e e
  sink := fun _ _ _ => Lowering.recordsElements_record rfl

theorem recordsElements_lower
    (s : Scope)
    (t : Ty) :
    (lower s.passing t).RecordsElements s.sink.channel := by
  have hwithin : ∀ depth u, (lowerWithin depth s.passing u).RecordsElements s.sink.channel := by
    intro depth
    induction depth with
    | zero => exact fun u => nofun
    | succ depth ih =>
        intro u
        have hsame : s.passing.SameFound s.passing u := s.passing.sameFound_of_types _ rfl u
        exact (companions_recordingElements s).lowerStep (g := lowerWithin depth) hsame
          fun v _ => ⟨ih v, ih v⟩
  exact hwithin _ t

end ModuleSpec
