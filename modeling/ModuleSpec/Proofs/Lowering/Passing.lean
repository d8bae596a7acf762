import ModuleSpec.Proofs.Lowering.Carry
import ModuleSpec.Proofs.Schema.Table

/-!
# Letting faults through and capturing them

An annotation is lowered once with every fault let through and once under a
capture that records faults, with one sink for both.  Beneath an array the two
are the same run.  Elsewhere they do the same until the first fault that a
capture catches: there the first run ends, and the second records the fault,
drops a member or a parameter, and goes on.

**Results.**  A run that gives a value is the capturing run, and a run that ends
with a fault is it as well or is the beginning of it, up to the fault recorded
(`lowerWithin_extends`).  In the terms of an alias table and of a list of
recorded faults this is `lower_continues`.
-/

namespace ModuleSpec

namespace Lowering

/--
The second run is the first, unless that ends with a fault which the second
records on the channel before it goes on.
-/
def Extends
    (channel : Nat)
    {α : Type}
    (x y : Lowering α) : Prop :=
  match x.outcome with
  | .ok _ => y = x
  | .error (.fault f) =>
      f.fatal = false ∧ (y = x ∨ x.events ++ [.recorded channel f] <+: y.events)
  | .error .emptyUnion => y = x
  | .error .endless => y.outcome = .error .endless

section Rules

variable {channel : Nat} {α β : Type}

/-- A run extends itself, whichever fault of a member it ends with. -/
theorem Extends.refl
    (x : Lowering α)
    (h : ∀ f, x.outcome = .error (.fault f) → f.fatal = false) :
    Extends channel x x := by
  obtain ⟨(f | _ | _) | a, events⟩ := x
  · exact ⟨h f rfl, .inl rfl⟩
  · rfl
  · rfl
  · rfl

/-- Earlier events of both runs change nothing. -/
theorem Extends.after
    {x y : Lowering α}
    (h : Extends channel x y)
    (es : List Event) :
    Extends channel ⟨x.outcome, es ++ x.events⟩ ⟨y.outcome, es ++ y.events⟩ := by
  obtain ⟨(f | _ | _) | a, events⟩ := x
  · obtain ⟨hf, rfl | hevents⟩ := h
    · exact ⟨hf, .inl rfl⟩
    · refine ⟨hf, .inr ?_⟩
      rw [List.append_assoc]
      exact (List.prefix_append_right_inj es).2 hevents
  · obtain rfl : y = _ := h
    rfl
  · exact h
  · obtain rfl : y = _ := h
    rfl

/-- What has happened before a sequence goes on stays. -/
theorem events_isPrefix_bind
    (x : Lowering α)
    (f : α → Lowering β) :
    x.events <+: (x >>= f).events := by
  obtain ⟨halt | a, events⟩ := x
  · exact List.prefix_rfl
  · exact List.prefix_append events _

theorem Extends.bind
    {x y : Lowering α}
    {f g : α → Lowering β}
    (hx : Extends channel x y)
    (hf : ∀ a, Extends channel (f a) (g a)) :
    Extends channel (x >>= f) (y >>= g) := by
  obtain ⟨(e | _ | _) | a, events⟩ := x
  · obtain ⟨he, rfl | hevents⟩ := hx
    · exact ⟨he, .inl rfl⟩
    · exact ⟨he, .inr (hevents.trans (events_isPrefix_bind y g))⟩
  · obtain rfl : y = _ := hx
    rfl
  · obtain ⟨outcome, events'⟩ := y
    obtain rfl : outcome = .error .endless := hx
    rfl
  · obtain rfl : y = _ := hx
    exact (hf a).after events

/-- Runs of which the second goes on where the first ends with a fault. -/
def extending (channel : Nat) : LoweringRelation where
  rel := Extends channel
  pure := fun _ => rfl
  bind := Extends.bind

/-- Runs that are the same. -/
def same : LoweringRelation where
  rel := Eq
  pure := fun _ => rfl
  bind := by
    rintro α β x _ f g rfl hf
    rw [funext hf]

/-- Where the first run ends with a fault, a capture records the fault. -/
theorem Extends.guard
    {x y : Lowering α}
    (h : Extends channel x y) :
    Extends channel (Capture.passthrough.guard x) ((Capture.recoverable channel).guard y) := by
  obtain ⟨(f | _ | _) | a, events⟩ := x
  · obtain ⟨hf, hy⟩ := h
    rw [Capture.guard_of_not_accepts (Capture.not_accepts_passthrough f)]
    refine ⟨hf, .inr ?_⟩
    rcases hy with rfl | hevents
    · have haccepts : (Capture.recoverable channel).accepts f = true := by
        rw [Capture.accepts_recoverable, Bool.not_eq_true']
        exact hf
      rw [Capture.guard_of_accepts haccepts]
      exact List.prefix_rfl
    · refine hevents.trans ?_
      rw [← events_attempt y]
      exact events_isPrefix_bind y.attempt _
  · obtain rfl : y = _ := h
    rfl
  · obtain ⟨outcome, events'⟩ := y
    obtain rfl : outcome = .error .endless := h
    rfl
  · obtain rfl : y = _ := h
    rw [Capture.guard_ok, Capture.guard_ok]
    rfl

/-- An array goes on in the same way when its element is one run. -/
theorem Extends.element
    {x : Lowering α}
    {f g : Except Fault α → Lowering β}
    (hok : ∀ a, Extends channel (f (.ok a)) (g (.ok a)))
    (herror : ∀ e, Extends channel (f (.error e)) (g (.error e))) :
    Extends channel (x.attempt >>= f) (x.attempt >>= g) := by
  obtain ⟨(e | _ | _) | a, events⟩ := x
  · exact (herror e).after events
  · rfl
  · rfl
  · exact (hok a).after events

theorem extends_record
    (c : Capture)
    {f : Fault}
    (hf : f.fatal = false) :
    Extends channel (c.record f) (c.record f) := by
  refine Extends.refl _ fun e he => ?_
  unfold Capture.record at he
  split at he
  · cases he
  · cases he
    exact hf

end Rules

end Lowering

open Lowering (Extends extending same registered recordedOn)

section Runs

variable {s : Scope} {channel : Nat}

/-- With every fault let through and under a capture, a step does the same up to a fault. -/
theorem companions_extending
    (hcapture : s.capture = .recoverable channel) :
    Companions (extending channel) same s.passing s where
  nativeOnly := rfl
  raise := fun _ _ hcause => ⟨hcause, .inl rfl⟩
  emptyUnion := rfl
  register := fun _ => rfl
  guard := by
    intro α x y h
    rw [hcapture]
    exact h.guard
  element := by
    rintro α β x _ f g rfl hok herror
    exact Extends.element hok fun e => herror e e
  sink := fun _ _ _ => Lowering.extends_record s.sink rfl

/-- To any depth, the capturing run goes on where the other ends with a fault. -/
theorem lowerWithin_extends
    (hcapture : s.capture = .recoverable channel)
    (depth : Nat)
    (t : Ty) :
    Extends channel (lowerWithin depth s.passing t) (lowerWithin depth s t) := by
  induction depth generalizing t with
  | zero => rfl
  | succ depth ih =>
      have hsame : s.passing.SameFound s t := s.passing.sameFound_of_types s rfl t
      exact (companions_extending hcapture).lowerStep hsame fun u _ => ⟨ih u, rfl⟩

end Runs

/-- What the first run makes of a table and records is what the second does. -/
structure Lowering.Agree
    {α : Type}
    (channel : Nat)
    (table : Aliases)
    (x y : Lowering α) : Prop where
  outcome : y.outcome = x.outcome
  aliases : table.registerAll (registered y.events) = table.registerAll (registered x.events)
  faults : recordedOn channel y.events = recordedOn channel x.events

/-- The second run records what the first does and the fault, and keeps its table. -/
structure Lowering.Captures
    {α : Type}
    (channel : Nat)
    (table : Aliases)
    (f : Fault)
    (x y : Lowering α) : Prop where
  aliases : (table.registerAll (registered x.events)).entries <+:
    (table.registerAll (registered y.events)).entries
  faults : recordedOn channel x.events ++ [f] <+: recordedOn channel y.events

/--
Given a table to register in: the second run is the first, unless that ends with
a fault, which the second can capture.
-/
structure Lowering.Continues
    {α : Type}
    (channel : Nat)
    (table : Aliases)
    (x y : Lowering α) : Prop where
  returned : ∀ a, x.outcome = .ok a → x.Agree channel table y
  raised : ∀ f, x.outcome = .error (.fault f) →
    x.Agree channel table y ∨ x.Captures channel table f y
  terminates : y.Terminates → x.Terminates

section Tables

variable {α : Type} {channel : Nat} {x y : Lowering α}

theorem Lowering.Agree.of_eq
    (table : Aliases)
    (h : y = x) :
    x.Agree channel table y := by
  subst h
  exact ⟨rfl, rfl, rfl⟩

theorem Lowering.Captures.of_isPrefix
    {f : Fault}
    (table : Aliases)
    (h : x.events ++ [.recorded channel f] <+: y.events) :
    x.Captures channel table f y := by
  obtain ⟨es, hes⟩ := h
  constructor
  · rw [← hes, List.append_assoc, Lowering.registered_append, Aliases.registerAll_append]
    exact Aliases.entries_isPrefix_registerAll _ _
  · rw [← hes]
    simp [recordedOn]

theorem Lowering.Extends.continues
    (h : Extends channel x y)
    (table : Aliases) :
    x.Continues channel table y := by
  obtain ⟨(f | _ | _) | a, events⟩ := x
  · refine ⟨nofun, ?_, fun _ => nofun⟩
    rintro _ ⟨⟩
    exact h.2.imp (.of_eq table) (.of_isPrefix table)
  · exact ⟨nofun, nofun, fun _ => nofun⟩
  · exact ⟨nofun, nofun, fun hend => absurd h hend⟩
  · exact ⟨fun _ _ => .of_eq table h, nofun, fun _ => nofun⟩

end Tables

/-- A lowering that captures faults continues the one that lets every fault through. -/
theorem lower_continues
    (moduleName : String)
    (env : Environment)
    (nativeOnly : Bool)
    (channel : Nat)
    (table : Aliases)
    (t : Ty) :
    let s := freshScope moduleName env nativeOnly channel
    (lower s.passing t).Continues channel table (lower s t) :=
  (lowerWithin_extends rfl (depthBound env t) t).continues table

end ModuleSpec
