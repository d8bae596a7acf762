import ModuleSpec.Proofs.Lowering.Depth

/-!
# What carries over to a fresh lowering

A lowering under some capture is compared with a fresh one, under the capture of
the faults after which a module can still be used.  When the first gives a value,
the second gives the same value and has registered the same objects.  They may
have recorded different faults, and the first may end with a fault where the
second drops a member and goes on.

**Idea.**  A fault that the first capture accepts drops a member there, so the
second must drop that member too: it must end with a fault as well.  A fault that
the first capture does not accept ends the lowering, and nothing is claimed.
Beneath an array every fault goes through on either side, so there the two end
with faults together.  What an array records on the sink must not end the first
lowering alone; so the sink has to accept it.

**Results.**  `lowerWithin_carried`, by induction on the depth.
-/

namespace ModuleSpec

/-- The sink of the scope accepts what arrays record on it. -/
def Scope.AcceptsElements (s : Scope) : Prop :=
  ∀ n array word, s.sink.accepts (s.fault n (.arrayElement array word)) = true

/-- The scope of a new lowering that records the faults of members. -/
def freshScope
    (moduleName : String)
    (env : Environment)
    (nativeOnly : Bool)
    (channel : Nat) :
    Scope :=
  ⟨moduleName, env, nativeOnly, .recoverable channel, .recoverable channel⟩

namespace Lowering

/--
The second lowering gives the value of the first, or a fault where the first has
one that counts, and registers the same objects.
-/
def Carried
    (counts : Fault → Prop)
    {α : Type}
    (x y : Lowering α) : Prop :=
  match x.outcome with
  | .ok a => y.outcome = .ok a ∧ registered y.events = registered x.events
  | .error (.fault f) =>
      counts f →
        (∃ f', y.outcome = .error (.fault f') ∧ f'.kind.fatal = false) ∧
          registered y.events = registered x.events
  | .error _ => True

section Rules

variable {counts : Fault → Prop} {α β : Type}

/-- Earlier events that register the same objects carry over. -/
theorem Carried.after
    {x y : Lowering α}
    {es es' : List Event}
    (h : Carried counts x y)
    (hes : registered es' = registered es) :
    Carried counts ⟨x.outcome, es ++ x.events⟩ ⟨y.outcome, es' ++ y.events⟩ := by
  obtain ⟨(f | _ | _) | a, events⟩ := x
  · intro hf
    obtain ⟨hfault, hevents⟩ := h hf
    exact ⟨hfault, by rw [registered_append, registered_append, hes, hevents]⟩
  · trivial
  · trivial
  · obtain ⟨hok, hevents⟩ := h
    exact ⟨hok, by rw [registered_append, registered_append, hes, hevents]⟩

theorem Carried.bind
    {x y : Lowering α}
    {f g : α → Lowering β}
    (hx : Carried counts x y)
    (hf : ∀ a, Carried counts (f a) (g a)) :
    Carried counts (x >>= f) (y >>= g) := by
  obtain ⟨outcome', es'⟩ := y
  obtain ⟨(e | _ | _) | a, es⟩ := x
  · intro he
    obtain ⟨⟨e', rfl, he'⟩, hes⟩ := hx he
    exact ⟨⟨e', rfl, he'⟩, hes⟩
  · trivial
  · trivial
  · obtain ⟨rfl, hes⟩ := hx
    exact (hf a).after hes

/-- Lowerings of which the second carries over what the first gives. -/
def carried (counts : Fault → Prop) : LoweringRelation where
  rel := Carried counts
  pure := fun _ => ⟨rfl, rfl⟩
  bind := Carried.bind

/-- A capture drops what a fresh one drops, or lets a fault through that does not count. -/
theorem Carried.guard
    {x y : Lowering α}
    (c : Capture)
    (channel : Nat)
    (h : Carried (fun f => c.accepts f = true) x y) :
    Carried (fun f => c.accepts f = true) (c.guard x)
      ((Capture.recoverable channel).guard y) := by
  obtain ⟨outcome', es'⟩ := y
  obtain ⟨(e | _ | _) | a, es⟩ := x
  · by_cases hcounts : c.accepts e = true
    · obtain ⟨⟨e', rfl, he'⟩, hes⟩ := h hcounts
      have haccepts : (Capture.recoverable channel).accepts e' = true := by
        rw [Capture.accepts_recoverable, he']
        rfl
      rw [Capture.guard_of_accepts hcounts, Capture.guard_of_accepts haccepts]
      refine ⟨rfl, ?_⟩
      rw [registered_append, registered_append, hes]
      rfl
    · rw [Capture.guard_of_not_accepts hcounts]
      exact fun he => absurd he hcounts
  · trivial
  · trivial
  · obtain ⟨rfl, hes⟩ := h
    rw [Capture.guard_ok, Capture.guard_ok]
    exact ⟨rfl, hes⟩

/-- With every fault let through on either side, an end with a fault is an end with one. -/
theorem Carried.guard_passthrough
    {x y : Lowering α}
    (h : Carried (fun _ => True) x y) :
    Carried (fun _ => True) (Capture.passthrough.guard x) (Capture.passthrough.guard y) := by
  obtain ⟨outcome', es'⟩ := y
  obtain ⟨(e | _ | _) | a, es⟩ := x
  · obtain ⟨⟨e', rfl, he'⟩, hes⟩ := h trivial
    rw [Capture.guard_of_not_accepts (Capture.not_accepts_passthrough e),
      Capture.guard_of_not_accepts (Capture.not_accepts_passthrough e')]
    exact fun _ => ⟨⟨e', rfl, he'⟩, hes⟩
  · trivial
  · trivial
  · obtain ⟨rfl, hes⟩ := h
    rw [Capture.guard_ok, Capture.guard_ok]
    exact ⟨rfl, hes⟩

/-- An array goes on with the element, or without one on either side. -/
theorem Carried.element
    {x y : Lowering α}
    {f g : Except Fault α → Lowering β}
    (h : Carried (fun _ => True) x y)
    (hok : ∀ a, Carried counts (f (.ok a)) (g (.ok a)))
    (herror : ∀ e e', Carried counts (f (.error e)) (g (.error e'))) :
    Carried counts (x.attempt >>= f) (y.attempt >>= g) := by
  obtain ⟨outcome', es'⟩ := y
  obtain ⟨(e | _ | _) | a, es⟩ := x
  · obtain ⟨⟨e', rfl, -⟩, hes⟩ := h trivial
    exact (herror e e').after hes
  · trivial
  · trivial
  · obtain ⟨rfl, hes⟩ := h
    exact (hok a).after hes

theorem carried_record
    {c c' : Capture}
    {f f' : Fault}
    (hf : c.accepts f = true)
    (hf' : c'.accepts f' = true) :
    Carried counts (c.record f) (c'.record f') := by
  rw [Capture.record_of_accepts hf, Capture.record_of_accepts hf']
  exact ⟨rfl, rfl⟩

end Rules

end Lowering

open Lowering (Carried carried)

section Runs

variable {s : Scope} (moduleName : String) (channel : Nat)

/-- With every fault let through, a scope and a fresh one do the same. -/
theorem companions_passing
    (helements : s.AcceptsElements) :
    let s' := freshScope moduleName s.types s.nativeOnly channel
    Companions (carried fun _ => True) (carried fun _ => True) s.passing s'.passing where
  nativeOnly := rfl
  raise := fun _ _ hcause _ => ⟨⟨_, rfl, hcause⟩, rfl⟩
  emptyUnion := trivial
  register := fun _ => ⟨rfl, rfl⟩
  guard := Carried.guard_passthrough
  element := Carried.element
  sink := fun n array word => Lowering.carried_record (helements n array word)
    (Capture.accepts_recoverable channel _)

/-- Under any capture, what a scope gives carries over to a fresh one. -/
theorem companions_fresh
    (helements : s.AcceptsElements) :
    Companions (carried fun f => s.capture.accepts f = true) (carried fun _ => True)
      s (freshScope moduleName s.types s.nativeOnly channel) where
  nativeOnly := rfl
  raise := fun _ _ hcause _ => ⟨⟨_, rfl, hcause⟩, rfl⟩
  emptyUnion := trivial
  register := fun _ => ⟨rfl, rfl⟩
  guard := Carried.guard s.capture channel
  element := Carried.element
  sink := fun n array word => Lowering.carried_record (helements n array word)
    (Capture.accepts_recoverable channel _)

/-- Whatever the capture, a lowering carries over to a fresh one of the same depth. -/
theorem lowerWithin_carried
    (helements : s.AcceptsElements)
    (depth : Nat)
    (t : Ty) :
    let s' := freshScope moduleName s.types s.nativeOnly channel
    Carried (fun f => s.capture.accepts f = true)
        (lowerWithin depth s t) (lowerWithin depth s' t) ∧
      Carried (fun _ => True)
        (lowerWithin depth s.passing t) (lowerWithin depth s'.passing t) := by
  intro s'
  induction depth generalizing t with
  | zero =>
      exact ⟨trivial, trivial⟩
  | succ depth ih =>
      have hsame : s.SameFound s' t := s.sameFound_of_types s' rfl t
      have hpassing : s.passing.SameFound s'.passing t :=
        s.passing.sameFound_of_types s'.passing rfl t
      constructor
      · exact (companions_fresh moduleName channel helements).lowerStep hsame fun u _ => ih u
      · exact (companions_passing moduleName channel helements).lowerStep hpassing
          fun u _ => ⟨(ih u).2, (ih u).2⟩

end Runs

end ModuleSpec
