import ModuleSpec.Fault
import ModuleSpec.Schema.Aliases

/-!
# Lowerings

Lowering turns a type annotation into a schema type.  While it runs it
registers named objects and records faults, and nothing that it registers or
records is read again before it ends.  So a lowering is a value: how it ended,
and the list of what happened on the way, in order.

A lowering can end early with a fault, or because a union has no members to take
a kind from, or because the types it follows go on without end.

**Results.**  Lowerings form a monad whose events are appended.
-/

namespace ModuleSpec

/-- Why a lowering ends without a value. -/
inductive Halt
  | fault (f : Fault)
  | emptyUnion
  | endless

/-- What happens during a lowering. -/
inductive Event
  | registered
      (a : Alias)
  | recorded
      (channel : Nat)
      (f : Fault)

/-- How a lowering ends and what happens until then. -/
structure Lowering (α : Type) where
  outcome : Except Halt α
  events : List Event

namespace Lowering

instance : Monad Lowering where
  pure a := ⟨.ok a, []⟩
  bind x f :=
    match x.outcome with
    | .error h => ⟨.error h, x.events⟩
    | .ok a => ⟨(f a).outcome, x.events ++ (f a).events⟩

/-- Ends at once. -/
def halt {α : Type} (h : Halt) : Lowering α :=
  ⟨.error h, []⟩

/-- Ends at once with a fault. -/
def raise {α : Type} (f : Fault) : Lowering α :=
  halt (.fault f)

/-- Lets one event happen. -/
def emit (e : Event) : Lowering Unit :=
  ⟨.ok (), [e]⟩

/-- Gives a fault as a value instead of ending with it. -/
def attempt {α : Type} (x : Lowering α) : Lowering (Except Fault α) :=
  match x.outcome with
  | .ok a => ⟨.ok (.ok a), x.events⟩
  | .error (.fault f) => ⟨.ok (.error f), x.events⟩
  | .error h => ⟨.error h, x.events⟩

/-- The results, in order, of the entries that have one. -/
def collect
    {α β : Type}
    (f : α → Lowering (Option β)) :
    List α → Lowering (List β)
  | [] => pure []
  | a :: as => do
      let b ← f a
      let bs ← collect f as
      pure (b.toList ++ bs)

theorem pure_def
    {α : Type}
    (a : α) :
    (pure a : Lowering α) = ⟨.ok a, []⟩ :=
  rfl

theorem bind_ok
    {α β : Type}
    (a : α)
    (es : List Event)
    (f : α → Lowering β) :
    ((⟨.ok a, es⟩ : Lowering α) >>= f) =
      ⟨(f a).outcome, es ++ (f a).events⟩ :=
  rfl

theorem bind_error
    {α β : Type}
    (h : Halt)
    (es : List Event)
    (f : α → Lowering β) :
    ((⟨.error h, es⟩ : Lowering α) >>= f) = ⟨.error h, es⟩ :=
  rfl

theorem events_attempt
    {α : Type}
    (x : Lowering α) :
    x.attempt.events = x.events := by
  obtain ⟨(_ | _ | _) | _, _⟩ := x <;> rfl

instance : LawfulMonad Lowering :=
  LawfulMonad.mk'
    Lowering
    (fun x => by
      cases x with
      | mk outcome events =>
          cases outcome with
          | error h =>
              rfl
          | ok a =>
              change (⟨.ok a, events ++ []⟩ : Lowering _) = ⟨.ok a, events⟩
              rw [List.append_nil])
    (fun a f => rfl)
    (fun x f g => by
      cases x with
      | mk outcome events =>
          cases outcome with
          | error h =>
              rfl
          | ok a =>
              simp only [bind_ok]
              cases f a with
              | mk outcome' events' =>
                  cases outcome' with
                  | error h =>
                      rfl
                  | ok b =>
                      simp only [bind_ok, List.append_assoc])

/-- The objects registered, in order, also those whose name was taken. -/
def registered (events : List Event) : List Alias :=
  events.filterMap fun
    | .registered a => some a
    | .recorded .. => none

theorem mem_registered
    {events : List Event}
    {a : Alias} :
    a ∈ registered events ↔ .registered a ∈ events := by
  unfold registered
  rw [List.mem_filterMap]
  constructor
  · rintro ⟨e, he, heq⟩
    cases e with
    | registered b =>
        cases heq
        exact he
    | recorded channel f =>
        cases heq
  · intro h
    exact ⟨_, h, rfl⟩

theorem registered_append
    (es es' : List Event) :
    registered (es ++ es') = registered es ++ registered es' :=
  List.filterMap_append

/-- The faults recorded on a channel, in order. -/
def recordedOn
    (channel : Nat)
    (events : List Event) :
    List Fault :=
  events.filterMap fun
    | .registered _ => none
    | .recorded c f => if c = channel then some f else none

theorem mem_recordedOn
    {channel : Nat}
    {events : List Event}
    {f : Fault} :
    f ∈ recordedOn channel events ↔ .recorded channel f ∈ events := by
  unfold recordedOn
  rw [List.mem_filterMap]
  constructor
  · rintro ⟨e, he, heq⟩
    cases e with
    | registered a =>
        cases heq
    | recorded c g =>
        rw [Option.ite_none_right_eq_some] at heq
        obtain ⟨rfl, hfg⟩ := heq
        cases hfg
        exact he
  · intro h
    exact ⟨_, h, if_pos rfl⟩

end Lowering

end ModuleSpec
