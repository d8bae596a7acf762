import ModuleSpec.Lowering.Basic

/-!
# Captures

A capture decides which faults are recorded, and on which channel; a fault that
it does not accept ends the lowering.  The capture that accepts nothing lets
every fault through.
-/

namespace ModuleSpec

/-- A family of faults that a capture can accept. -/
inductive Family
  | any
  | shape
  | recoverable
  | kind (k : FaultKind)
  deriving DecidableEq, Repr

namespace Family

def holds (family : Family) (k : FaultKind) : Bool :=
  match family with
  | any => true
  | shape => k.fatal
  | recoverable => !k.fatal
  | kind k' => k == k'

end Family

/-- Which faults are recorded, and where. -/
structure Capture where
  channel : Nat
  accepted : List Family
  deriving DecidableEq, Repr

namespace Capture

/-- The capture that lets every fault through. -/
def passthrough : Capture := ⟨0, []⟩

/-- The capture of the faults after which a module can still be used. -/
def recoverable (channel : Nat) : Capture := ⟨channel, [.recoverable]⟩

def accepts (c : Capture) (f : Fault) : Bool :=
  c.accepted.any fun family => family.holds f.kind

/-- Records a fault that is accepted and raises any other. -/
def record (c : Capture) (f : Fault) : Lowering Unit :=
  if c.accepts f then
    .emit (.recorded c.channel f)
  else
    .raise f

/-- The value of a lowering, or nothing when it ends with a fault that is accepted. -/
def guard
    {α : Type}
    (c : Capture)
    (x : Lowering α) :
    Lowering (Option α) := do
  match ← x.attempt with
  | .ok a => pure (some a)
  | .error f =>
      c.record f
      pure none

theorem accepts_recoverable
    (channel : Nat)
    (f : Fault) :
    (recoverable channel).accepts f = !f.kind.fatal := by
  simp [recoverable, accepts, Family.holds]

theorem not_accepts_passthrough
    (f : Fault) :
    ¬ passthrough.accepts f = true :=
  nofun

section Outcomes

variable {α : Type} {c : Capture} {f : Fault} {es : List Event}

theorem record_of_accepts
    (h : c.accepts f = true) :
    c.record f = .emit (.recorded c.channel f) :=
  if_pos h

theorem record_of_not_accepts
    (h : ¬ c.accepts f = true) :
    c.record f = .raise f :=
  if_neg h

theorem guard_ok
    (a : α) :
    c.guard ⟨.ok a, es⟩ = ⟨.ok (some a), es⟩ := by
  change (⟨.ok (some a), es ++ []⟩ : Lowering (Option α)) = _
  rw [List.append_nil]

theorem guard_of_accepts
    (h : c.accepts f = true) :
    c.guard (⟨.error (.fault f), es⟩ : Lowering α) =
      ⟨.ok none, es ++ [.recorded c.channel f]⟩ := by
  simp only [guard, Lowering.attempt, Lowering.bind_ok, record_of_accepts h]
  rfl

theorem guard_of_not_accepts
    (h : ¬ c.accepts f = true) :
    c.guard (⟨.error (.fault f), es⟩ : Lowering α) = ⟨.error (.fault f), es⟩ := by
  simp only [guard, Lowering.attempt, Lowering.bind_ok, record_of_not_accepts h]
  change (⟨.error (.fault f), es ++ []⟩ : Lowering (Option α)) = _
  rw [List.append_nil]

/-- A capture gives the value of the lowering, or has recorded the fault it ends with. -/
theorem guard_eq_ok
    {x : Lowering α}
    {o : Option α}
    (h : (c.guard x).outcome = .ok o) :
    (∃ a, o = some a ∧ x.outcome = .ok a ∧ (c.guard x).events = x.events) ∨
      (o = none ∧ ∃ f, x.outcome = .error (.fault f) ∧ c.accepts f = true ∧
        .recorded c.channel f ∈ (c.guard x).events) := by
  obtain ⟨(f | _ | _) | a, events⟩ := x
  · by_cases hc : c.accepts f = true
    · rw [guard_of_accepts hc] at h ⊢
      cases h
      exact .inr ⟨rfl, f, rfl, hc, List.mem_append_right _ List.mem_cons_self⟩
    · rw [guard_of_not_accepts hc] at h
      cases h
  · cases h
  · cases h
  · rw [guard_ok] at h ⊢
    cases h
    exact .inl ⟨a, rfl, rfl, rfl⟩

/-- A capture keeps all events of the lowering. -/
theorem events_subset_guard
    (c : Capture)
    (x : Lowering α) :
    x.events ⊆ (c.guard x).events := by
  obtain ⟨(f | _ | _) | a, events⟩ := x
  · by_cases hc : c.accepts f = true
    · rw [guard_of_accepts hc]
      exact List.subset_append_left _ _
    · rw [guard_of_not_accepts hc]
      exact List.Subset.refl _
  · exact List.Subset.refl _
  · exact List.Subset.refl _
  · rw [guard_ok]
    exact List.Subset.refl _

/-- A capture registers nothing by itself. -/
theorem registered_mem_guard
    {x : Lowering α}
    {a : Alias} :
    .registered a ∈ (c.guard x).events ↔ .registered a ∈ x.events := by
  refine ⟨?_, fun h => c.events_subset_guard x h⟩
  obtain ⟨(f | _ | _) | v, events⟩ := x
  · by_cases hc : c.accepts f = true
    · rw [guard_of_accepts hc, List.mem_append, List.mem_singleton]
      rintro (h | h)
      · exact h
      · cases h
    · rw [guard_of_not_accepts hc]
      exact id
  · exact id
  · exact id
  · rw [guard_ok]
    exact id

end Outcomes

end Capture

end ModuleSpec
