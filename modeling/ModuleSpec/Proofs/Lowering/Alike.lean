import ModuleSpec.Proofs.Lowering.Form
import ModuleSpec.Proofs.Lowering.Weaken

/-!
# Lowerings that are alike

Two lowerings are alike when they end with the same value, or with faults of one
sort, and register the same objects and record faults of the same sorts on the way.
The faults themselves can be about other nodes and mention other names.

**Idea.**  A capture looks at the sort of a fault and at nothing else.  So lowerings
that are put together in the same way from lowerings that are alike are alike.

**Results.**  One step keeps lowerings alike (`lowerStep_alike`): annotations of one
form, in environments with declarations of the same forms, are lowered alike to every
depth (`lowerWithin_alike`).
-/

namespace ModuleSpec

/-! ## Sorts of ends and events -/

/-- How a lowering ends without a value, with the sort of the fault. -/
inductive HaltKind
  | fault (k : FaultKind)
  | emptyUnion
  | endless

def Halt.kind : Halt → HaltKind
  | .fault f => .fault f.kind
  | .emptyUnion => .emptyUnion
  | .endless => .endless

/-- What happens during a lowering, with the sorts of the faults. -/
inductive EventKind
  | registered (a : Alias)
  | recorded
      (channel : Nat)
      (k : FaultKind)

def Event.kind : Event → EventKind
  | .registered a => .registered a
  | .recorded channel f => .recorded channel f.kind

/-- The object that is registered, if any. -/
def EventKind.alias? : EventKind → Option Alias
  | .registered a => some a
  | .recorded .. => none

/-- The sort of the fault that is recorded on the channel, if any. -/
def EventKind.fault? (channel : Nat) : EventKind → Option FaultKind
  | .registered _ => none
  | .recorded c k => if c = channel then some k else none

namespace Lowering

/-- The second lowering is the first, but for what faults of one sort are about. -/
structure Alike
    {α : Type}
    (x y : Lowering α) : Prop where
  outcome : y.outcome.mapError Halt.kind = x.outcome.mapError Halt.kind
  events : y.events.map Event.kind = x.events.map Event.kind

section Rules

variable {α β κ : Type} {x y : Lowering α}

theorem Alike.refl
    (x : Lowering α) :
    x.Alike x :=
  ⟨rfl, rfl⟩

theorem alike_raise
    {e e' : Fault}
    (h : e'.kind = e.kind) :
    (raise e : Lowering α).Alike (raise e') :=
  ⟨congrArg (fun k => Except.error (HaltKind.fault k)) h, rfl⟩

theorem alike_emit_recorded
    {e e' : Fault}
    (h : e'.kind = e.kind)
    (channel : Nat) :
    (emit (.recorded channel e)).Alike (emit (.recorded channel e')) :=
  ⟨rfl, congrArg (fun k => [EventKind.recorded channel k]) h⟩

/-- Lowerings that are alike end with one value, with faults of one sort, or both without either. -/
theorem Alike.cases
    (h : x.Alike y) :
    (∃ a, x.outcome = .ok a ∧ y.outcome = .ok a) ∨
      (∃ e e', x.outcome = .error (.fault e) ∧ y.outcome = .error (.fault e') ∧
        e'.kind = e.kind) ∨
      ∃ halt, x.outcome = .error halt ∧ y.outcome = .error halt ∧ ∀ e, halt ≠ .fault e := by
  have houtcome := h.outcome
  obtain ⟨_ | a, events⟩ := x <;> obtain ⟨_ | b, events'⟩ := y
  case error.error halt halt' =>
    have hkind : halt'.kind = halt.kind := Except.error.inj houtcome
    cases halt with
    | fault e =>
        cases halt' with
        | fault e' => exact .inr (.inl ⟨e, e', rfl, rfl, HaltKind.fault.inj hkind⟩)
        | _ => cases hkind
    | emptyUnion =>
        cases halt' with
        | emptyUnion => exact .inr (.inr ⟨_, rfl, rfl, nofun⟩)
        | _ => cases hkind
    | endless =>
        cases halt' with
        | endless => exact .inr (.inr ⟨_, rfl, rfl, nofun⟩)
        | _ => cases hkind
  case ok.ok =>
    cases Except.ok.inj houtcome
    exact .inl ⟨a, rfl, rfl⟩
  all_goals cases houtcome

theorem Alike.bind
    {f g : α → Lowering β}
    (h : x.Alike y)
    (hf : ∀ a, (f a).Alike (g a)) :
    (x >>= f).Alike (y >>= g) := by
  obtain ⟨outcome, events⟩ := x
  obtain ⟨outcome', events'⟩ := y
  have hevents : events'.map Event.kind = events.map Event.kind := h.events
  cases outcome with
  | ok a =>
      cases outcome' with
      | ok b =>
          cases Except.ok.inj h.outcome
          rw [bind_ok, bind_ok]
          refine ⟨(hf a).outcome, ?_⟩
          rw [List.map_append, List.map_append, (hf a).events, hevents]
      | error halt => cases h.outcome
  | error halt =>
      cases outcome' with
      | ok b => cases h.outcome
      | error halt' =>
          rw [bind_error, bind_error]
          exact ⟨congrArg Except.error (Except.error.inj h.outcome), hevents⟩

/-- Of an event its kind already tells which object is registered. -/
theorem registered_eq_filterMap_kind
    (events : List Event) :
    registered events = (events.map Event.kind).filterMap EventKind.alias? := by
  rw [registered, List.filterMap_map]
  congr 1
  funext event
  cases event <;> rfl

/-- Of an event its kind already tells which sort of fault is recorded. -/
theorem map_kind_recordedOn
    (channel : Nat)
    (events : List Event) :
    (recordedOn channel events).map Fault.kind =
      (events.map Event.kind).filterMap (EventKind.fault? channel) := by
  rw [recordedOn, List.map_filterMap, List.filterMap_map]
  congr 1
  funext event
  cases event with
  | registered a => rfl
  | recorded c f => simp only [Function.comp_apply, Event.kind, EventKind.fault?, Option.map_if]

theorem Alike.registered
    (h : x.Alike y) :
    Lowering.registered y.events = Lowering.registered x.events := by
  rw [registered_eq_filterMap_kind, h.events, registered_eq_filterMap_kind]

theorem Alike.recordedOn
    (h : x.Alike y)
    (channel : Nat) :
    (Lowering.recordedOn channel y.events).map Fault.kind =
      (Lowering.recordedOn channel x.events).map Fault.kind := by
  rw [map_kind_recordedOn, h.events, map_kind_recordedOn]

/-- Where a lowering ends without a fault, so does an attempt at it. -/
theorem attempt_of_not_fault
    {halt : Halt}
    (h : x.outcome = .error halt)
    (hfault : ∀ e, halt ≠ .fault e) :
    x.attempt = ⟨.error halt, x.events⟩ := by
  cases halt with
  | fault e => exact absurd rfl (hfault e)
  | emptyUnion | endless => rw [attempt, h]

/-- Lowerings are alike that go on alike from a value and from faults of one sort. -/
theorem Alike.attempt_bind
    {f g : Except Fault α → Lowering β}
    (h : x.Alike y)
    (hok : ∀ a, (f (.ok a)).Alike (g (.ok a)))
    (herror : ∀ e e', e'.kind = e.kind → (f (.error e)).Alike (g (.error e'))) :
    (x.attempt >>= f).Alike (y.attempt >>= g) := by
  have hevents := h.events
  -- After the attempt both go on, unless both have ended without a fault.
  have hgo {r r' : Except Fault α} (hx : x.attempt = ⟨.ok r, x.events⟩)
      (hy : y.attempt = ⟨.ok r', y.events⟩) (hr : (f r).Alike (g r')) :
      (x.attempt >>= f).Alike (y.attempt >>= g) := by
    rw [hx, hy, bind_ok, bind_ok]
    refine ⟨hr.outcome, ?_⟩
    rw [List.map_append, List.map_append, hr.events, hevents]
  obtain ⟨a, hx, hy⟩ | ⟨e, e', hx, hy, hkind⟩ | ⟨halt, hx, hy, hfault⟩ := h.cases
  · exact hgo (by rw [attempt, hx]) (by rw [attempt, hy]) (hok a)
  · exact hgo (by rw [attempt, hx]) (by rw [attempt, hy]) (herror e e' hkind)
  · rw [attempt_of_not_fault hx hfault, attempt_of_not_fault hy hfault, bind_error, bind_error]
    exact ⟨rfl, hevents⟩

/-- Lists of entries that agree in what the lowerings look at are lowered alike. -/
theorem alike_collect
    {f g : α → Lowering (Option β)}
    {key : α → κ}
    (hf : ∀ a a', key a' = key a → (f a).Alike (g a'))
    {as as' : List α}
    (h : as'.map key = as.map key) :
    (collect f as).Alike (collect g as') := by
  induction as generalizing as' with
  | nil =>
      obtain rfl := List.map_eq_nil_iff.1 h
      exact .refl _
  | cons a as ih =>
      cases as' with
      | nil => cases h
      | cons a' as' =>
          obtain ⟨ha, has⟩ := List.cons.inj h
          exact (hf a a' ha).bind fun b => (ih has).bind fun bs => .refl _

end Rules

end Lowering

open Lowering (Alike alike_raise)

namespace Capture

section Rules

variable {α : Type} {x y : Lowering α} {e e' : Fault}

theorem accepts_of_kind
    (h : e'.kind = e.kind)
    (c : Capture) :
    c.accepts e' = c.accepts e := by
  rw [accepts, accepts, h]

theorem alike_record
    (h : e'.kind = e.kind)
    (c : Capture) :
    (c.record e).Alike (c.record e') := by
  unfold record
  rw [accepts_of_kind h]
  split
  · exact Lowering.alike_emit_recorded h c.channel
  · exact alike_raise h

theorem alike_guard
    (h : x.Alike y)
    (c : Capture) :
    (c.guard x).Alike (c.guard y) :=
  h.attempt_bind (fun _ => .refl _) fun _ _ hkind =>
    (c.alike_record hkind).bind fun _ => .refl _

end Rules

end Capture

/-! ## One step -/

/-- The lowerings beneath are alike, under the capture and with every fault let through. -/
def LowersAlike
    (f g : Lower)
    (s s' : Scope) : Prop :=
  ∀ u u' : Ty, u'.form = u.form →
    (f s u).Alike (g s' u') ∧ (f s.passing u).Alike (g s'.passing u')

section Step

variable {f g : Lower} {s : Scope} {env : Environment}

theorem lowerArray_alike
    {t t' : Ty}
    (array array' : String)
    (nullable : Bool)
    (h : (f s.passing t).Alike (g (s.inTypes env).passing t')) :
    (lowerArray f s array t nullable).Alike (lowerArray g (s.inTypes env) array' t' nullable) := by
  refine h.attempt_bind (fun found => ?_) fun e e' _ => .refl _
  cases hword : found.value.unstorable? with
  | some word =>
      simp only [hword]
      have hkind : ((s.inTypes env).fault (.type t') (.arrayElement array' word)).kind =
          (s.fault (.type t) (.arrayElement array word)).kind := rfl
      exact (Capture.alike_record hkind s.sink).bind fun _ => .refl _
  | none =>
      simp only [hword]
      exact .refl _

/-- References with as many type arguments have the only one, or a fault of the same sort. -/
theorem onlyTypeArg_bind_alike
    {α : Type}
    (n n' : Node)
    (name : String)
    {typeArgs typeArgs' : Option (List Ty)}
    {F G : Ty → Lowering α}
    (harity : (typeArgs'.getD []).length = (typeArgs.getD []).length)
    (hone : ∀ t t', (typeArgs.getD []).length = 1 → (F t).Alike (G t')) :
    (onlyTypeArg s n name typeArgs >>= F).Alike
      (onlyTypeArg (s.inTypes env) n' name typeArgs' >>= G) := by
  unfold onlyTypeArg
  generalize typeArgs.getD [] = ts at harity hone
  generalize typeArgs'.getD [] = ts' at harity
  rcases ts with _ | ⟨t, _ | ⟨u, ts⟩⟩ <;> rcases ts' with _ | ⟨t', _ | ⟨u', ts'⟩⟩ <;>
    simp only [List.length_cons, List.length_nil] at harity hone
  case nil.nil => exact alike_raise rfl
  case cons.nil.cons.nil => exact hone t t' trivial
  case cons.cons.cons.cons => exact alike_raise rfl
  all_goals omega

theorem enumKind_alike
    (n n' : Node)
    (decl : Enum) :
    (enumKind s n decl).Alike (enumKind (s.inTypes env) n' decl) := by
  unfold enumKind
  split
  · exact alike_raise rfl
  · split
    · exact .refl _
    · exact .refl _
    · exact .refl _
    · exact alike_raise rfl

theorem lowerReference_alike
    (henv : s.types.SameForms env)
    (n n' : Node)
    (name : String)
    {typeArgs typeArgs' : Option (List Ty)}
    (nullable : Bool)
    (harity : (typeArgs'.getD []).length = (typeArgs.getD []).length)
    (harray : (typeArgs.getD []).length = 1 → name ≠ "Array" ∧ name ≠ "ReadonlyArray") :
    (lowerReference f s n name typeArgs nullable).Alike
      (lowerReference g (s.inTypes env) n' name typeArgs' nullable) := by
  unfold lowerReference
  split_ifs with hpromise hlist
  · exact onlyTypeArg_bind_alike n n' name harity fun _ _ _ => .refl _
  · refine onlyTypeArg_bind_alike n n' name harity fun _ _ hone => ?_
    exact absurd hlist (not_or.2 (harray hone))
  · cases SchemaType.named? name with
    | some a => exact .refl _
    | none =>
        have hsame := henv.form name
        have hnative : (s.inTypes env).nativeOnly = s.nativeOnly := rfl
        have htypes : (s.inTypes env).types = env := rfl
        simp only [hnative, htypes]
        cases s.nativeOnly with
        | false => exact alike_raise rfl
        | true =>
            cases hd : s.types.find? name with
            | none =>
                rw [hd, Option.map_none, Option.map_eq_none_iff] at hsame
                rw [hsame]
                exact alike_raise rfl
            | some d =>
                rw [hd] at hsame
                obtain ⟨d', hd', hform⟩ := Option.map_eq_some_iff.1 hsame
                rw [hd']
                cases d <;> cases d'
                case enum.enum =>
                  cases DeclarationForm.enum.inj hform
                  exact (enumKind_alike n n' _).bind fun _ => .refl _
                case enum.interface | enum.typeAlias | interface.enum | typeAlias.enum =>
                  cases hform
                all_goals exact alike_raise rfl

theorem nodup_eraseDups
    {α : Type}
    [DecidableEq α] :
    ∀ as : List α, as.eraseDups.Nodup
  | [] => .nil
  | a :: as => by
      rw [List.eraseDups_cons]
      exact List.nodup_cons.2 ⟨by simp, nodup_eraseDups _⟩
termination_by as => as.length
decreasing_by
  have := List.length_filter_le (fun b => !b == a) as
  rw [List.length_cons]
  omega

theorem mem_kinds
    {members : List Ty}
    {kind : MemberKind} :
    kind ∈ members.map Ty.memberKind ↔ Ty.kinds members kind = true := by
  simp [Ty.kinds]

theorem lowerUnion_alike
    (n n' : Node)
    {members members' : List Ty}
    (nullable : Bool)
    (h : Ty.kinds members' = Ty.kinds members) :
    (lowerUnion s n members nullable).Alike (lowerUnion (s.inTypes env) n' members' nullable) := by
  have hperm : ((members'.map Ty.memberKind).eraseDups).Perm
      ((members.map Ty.memberKind).eraseDups) := by
    refine (List.perm_ext_iff_of_nodup (nodup_eraseDups _) (nodup_eraseDups _)).2 fun kind => ?_
    rw [List.mem_eraseDups, List.mem_eraseDups, mem_kinds, mem_kinds, h]
  unfold lowerUnion
  have hnative : (s.inTypes env).nativeOnly = s.nativeOnly := rfl
  rw [hnative]
  split_ifs with honly
  · generalize (members.map Ty.memberKind).eraseDups = ks at hperm ⊢
    generalize (members'.map Ty.memberKind).eraseDups = ks' at hperm ⊢
    rcases ks with _ | ⟨k, _ | ⟨l, ks⟩⟩
    · rw [List.perm_nil.1 hperm]
      exact .refl _
    · rw [List.perm_singleton.1 hperm]
      exact .refl _
    · have hlength := hperm.length_eq
      rcases ks' with _ | ⟨k', _ | ⟨l', ks'⟩⟩
      · cases hlength
      · cases hlength
      · exact alike_raise rfl
  · exact alike_raise rfl

/-- Only a typed property shows a property. -/
theorem exists_property_of_form
    {m : Member}
    {name : String}
    {u : Form}
    {optional : Bool}
    (h : m.form = .property name u optional) :
    ∃ t span, m = .property name (some t) optional span ∧ t.form = u := by
  obtain ⟨name, _ | t, optional, span⟩ | ⟨name, params, result, optional, span⟩ |
    ⟨kind, name, span⟩ := m
  · cases h
  · cases h
    exact ⟨t, span, rfl, rfl⟩
  · cases h
  · cases h

/-- What is no typed property is a fault of an object. -/
theorem lowerObjectMember_of_other
    (f : Lower)
    (s : Scope)
    {m : Member}
    (h : m.form = .other) :
    ∃ cause : Cause, cause.kind = .objectMember ∧
      lowerObjectMember f s m = .raise (s.fault (.member m) cause) := by
  obtain ⟨name, _ | t, optional, span⟩ | ⟨name, params, result, optional, span⟩ |
    ⟨kind, name, span⟩ := m
  · exact ⟨_, rfl, rfl⟩
  · cases h
  · exact ⟨_, rfl, rfl⟩
  · exact ⟨_, rfl, rfl⟩

theorem lowerObjectMember_alike
    (hsub : LowersAlike f g s (s.inTypes env))
    (m m' : Member)
    (h : m'.form = m.form) :
    (lowerObjectMember f s m).Alike (lowerObjectMember g (s.inTypes env) m') := by
  cases hm : m.form with
  | other =>
      obtain ⟨cause, hcause, hraise⟩ := lowerObjectMember_of_other f s hm
      obtain ⟨cause', hcause', hraise'⟩ :=
        lowerObjectMember_of_other g (s.inTypes env) (h.trans hm)
      rw [hraise, hraise']
      exact alike_raise (hcause'.trans hcause.symm)
  | property name u optional =>
      obtain ⟨t, span, rfl, ht⟩ := exists_property_of_form hm
      obtain ⟨t', span', rfl, ht'⟩ := exists_property_of_form (h.trans hm)
      refine (hsub t t' (ht'.trans ht.symm)).1.bind fun found => ?_
      cases hword : found.value.unstorable? with
      | some word => exact alike_raise rfl
      | none => exact .refl _

theorem lowerObject_alike
    (hsub : LowersAlike f g s (s.inTypes env))
    {members members' : List Member}
    (alias? : Option String)
    (nullable : Bool)
    (h : members'.map Member.form = members.map Member.form) :
    (lowerObject f s members alias? nullable).Alike
      (lowerObject g (s.inTypes env) members' alias? nullable) := by
  refine (Lowering.alike_collect (fun m m' hm =>
    Capture.alike_guard (lowerObjectMember_alike hsub m m' hm) _) h).bind fun properties => ?_
  cases alias? <;> exact .refl _

theorem lowerParam_alike
    (hsub : LowersAlike f g s (s.inTypes env))
    (p p' : Param)
    (h : p'.form = p.form) :
    (lowerParam f s p).Alike (lowerParam g (s.inTypes env) p') := by
  obtain ⟨name, type, optional, span⟩ := p
  obtain ⟨name', type', optional', span'⟩ := p'
  obtain ⟨rfl, htype, rfl⟩ := ParamForm.mk.inj h
  rw [Ty.formOption_eq_map, Ty.formOption_eq_map] at htype
  unfold lowerParam
  rcases type with _ | t <;> rcases type' with _ | t'
  · exact alike_raise rfl
  · cases htype
  · cases htype
  · refine (hsub t t' (Option.some.inj htype)).1.bind fun found => ?_
    cases hword : found.value.unpassable? with
    | some word => exact alike_raise rfl
    | none => exact .refl _

theorem lowerSignature_alike
    (hsub : LowersAlike f g s (s.inTypes env))
    (n n' : Node)
    {params params' : List Param}
    {result result' : Option Ty}
    (hparams : params'.map Param.form = params.map Param.form)
    (hresult : result'.map Ty.form = result.map Ty.form) :
    (lowerSignature f s ⟨n, params, result⟩).Alike
      (lowerSignature g (s.inTypes env) ⟨n', params', result'⟩) := by
  refine (Lowering.alike_collect (fun p p' hp =>
    Capture.alike_guard (lowerParam_alike hsub p p' hp) _) hparams).bind fun _ => ?_
  refine Alike.bind ?_ fun _ => .refl _
  unfold lowerResult
  rcases result with _ | t <;> rcases result' with _ | t'
  · exact alike_raise rfl
  · cases hresult
  · cases hresult
  · refine (hsub t t' (Option.some.inj hresult)).1.bind fun found => ?_
    have hnative : (s.inTypes env).nativeOnly = s.nativeOnly := rfl
    rw [hnative]
    split
    · exact alike_raise rfl
    · exact .refl _

/-- Words that count as one are the same, or neither is the keyword of a value. -/
theorem eq_or_absent_of_plainWord
    {word word' : String}
    (h : Ty.plainWord word' = Ty.plainWord word) :
    word' = word ∨
      (SchemaType.keyword? word = none ∧ word ≠ "unknown") ∧
        SchemaType.keyword? word' = none ∧ word' ≠ "unknown" := by
  have hnull : SchemaType.keyword? "null" = none ∧ "null" ≠ "unknown" := by
    decide
  have hundefined : SchemaType.keyword? "undefined" = none ∧ "undefined" ≠ "unknown" := by
    decide
  unfold Ty.plainWord at h
  split_ifs at h with hword' hword hword
  · exact .inl (hword'.trans hword.symm)
  · exact .inr ⟨h ▸ hnull, hword' ▸ hundefined⟩
  · exact .inr ⟨hword ▸ hundefined, h ▸ hnull⟩
  · exact .inl h

/-- A step is alike for annotations of one form when the lowerings beneath are. -/
theorem lowerStep_alike
    (henv : s.types.SameForms env)
    (harrays : s.types.LeavesArrays)
    (hsub : LowersAlike f g s (s.inTypes env))
    {t t' : Ty}
    (h : t'.form = t.form) :
    (lowerStep f s t).Alike (lowerStep g (s.inTypes env) t') := by
  obtain ⟨hnullable, halias, c, hshows, hshows'⟩ := henv.resolve harrays h
  have htypes : (s.inTypes env).types = env := rfl
  have hnative : (s.inTypes env).nativeOnly = s.nativeOnly := rfl
  simp only [lowerStep, htypes, hnative, hnullable, halias]
  generalize (s.types.resolve t).nullable = nullable
  generalize (s.types.resolve t).alias? = alias?
  generalize (s.types.resolve t).type = u at hshows ⊢
  generalize (env.resolve t').type = u' at hshows' ⊢
  cases hshows with
  | @keyword word _ span hword =>
      cases hshows' with
      | @keyword word' _ span' hword' =>
          obtain rfl | ⟨⟨hnone, hunknown⟩, hnone', hunknown'⟩ :=
            eq_or_absent_of_plainWord (hword'.trans hword.symm)
          · simp only []
            cases SchemaType.keyword? word' with
            | some a => exact .refl _
            | none =>
                simp only []
                split_ifs
                · exact .refl _
                · exact alike_raise rfl
          · simp only [hnone, hnone', hunknown, hunknown', false_and, if_false]
            exact alike_raise rfl
  | @reference name typeArgs arity span harity harray =>
      cases hshows' with
      | reference span' harity' harray' =>
          exact lowerReference_alike henv _ _ name nullable (harity'.trans harity.symm)
            fun hone => harray (harity ▸ hone)
  | @array element _ l helement =>
      cases hshows' with
      | @array element' _ l' helement' =>
          have hx := (hsub element element' (helement'.trans helement.symm)).2
          cases l <;> cases l' <;> exact lowerArray_alike _ _ nullable hx
  | operator span hoperand =>
      cases hshows' with
      | operator span' hoperand' =>
          simp only []
          split
          case h_1 hword => exact absurd (beq_iff_eq.1 hword) (hoperand _ _ rfl)
          case h_2 =>
            split
            case h_1 hword => exact absurd (beq_iff_eq.1 hword) (hoperand' _ _ rfl)
            case h_2 => exact alike_raise rfl
  | union span hkinds =>
      cases hshows' with
      | union span' hkinds' =>
          exact lowerUnion_alike _ _ nullable (hkinds'.trans hkinds.symm)
  | object span hmembers =>
      cases hshows' with
      | object span' hmembers' =>
          exact lowerObject_alike hsub alias? nullable (hmembers'.trans hmembers.symm)
  | function span hparams hresult =>
      cases hshows' with
      | function span' hparams' hresult' =>
          exact (lowerSignature_alike hsub _ _ (hparams'.trans hparams.symm)
            (hresult'.trans hresult.symm)).bind fun _ => .refl _
  | literal value span | other kind span =>
      cases hshows' <;> exact alike_raise rfl

end Step

/-- To every depth annotations of one form are lowered alike. -/
theorem lowerWithin_alike
    {s : Scope}
    {env : Environment}
    (henv : s.types.SameForms env)
    (harrays : s.types.LeavesArrays)
    (depth : Nat) :
    LowersAlike (lowerWithin depth) (lowerWithin depth) s (s.inTypes env) := by
  induction depth generalizing s with
  | zero => exact fun _ _ _ => ⟨.refl _, .refl _⟩
  | succ depth ih =>
      intro t t' h
      have hpassing : LowersAlike (lowerWithin depth) (lowerWithin depth) s.passing
          (s.passing.inTypes env) :=
        ih henv harrays
      exact ⟨lowerStep_alike henv harrays (ih henv harrays) h,
        lowerStep_alike (s := s.passing) henv harrays hpassing h⟩

end ModuleSpec
