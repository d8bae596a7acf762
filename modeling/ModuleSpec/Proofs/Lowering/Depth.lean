import ModuleSpec.Proofs.Lowering.Companion

/-!
# How deep a lowering goes

A lowering to a given depth is endless when it would have to go deeper.  Once it
ends, more depth changes nothing, and the depth that the sizes of the annotation
and of all declarations allow is enough for every lowering that ends at all.

**Idea.**  Take the least depth at which a lowering ends.  What it lowers beneath
ends at smaller depths.  Suppose that it follows a name that is already being
followed under the same capture: the two lowerings end at the same least depth,
while the inner one must end at a smaller one.  So each name is followed once on
the way down, and what it stands for is paid for once from the room that the
declarations of the names not yet followed take.

**Results.**
* `lowerWithin_below`: more depth keeps a lowering that ends.
* `lower_eq_lowerWithin`: a lowering that ends at some depth is the lowering.
* `lower_eq_lowerStep`: a lowering that ends is one step over all others.
-/

namespace ModuleSpec

namespace Lowering

/-- The lowering ends, with a value, a fault or an empty union. -/
def Terminates
    {α : Type}
    (x : Lowering α) : Prop :=
  x.outcome ≠ .error .endless

instance
    {α : Type}
    (x : Lowering α) :
    Decidable x.Terminates :=
  match h : x.outcome with
  | .ok _ => isTrue (fun hx => by rw [h] at hx; cases hx)
  | .error (.fault _) => isTrue (fun hx => by rw [h] at hx; cases hx)
  | .error .emptyUnion => isTrue (fun hx => by rw [h] at hx; cases hx)
  | .error .endless => isFalse (fun hx => hx h)

@[simp]
theorem terminates_map
    {α β : Type}
    (f : α → β)
    (x : Lowering α) :
    (f <$> x).Terminates ↔ x.Terminates := by
  obtain ⟨(_ | _ | _) | a, events⟩ := x <;>
    simp [Terminates, Functor.map]

theorem events_map
    {α β : Type}
    (f : α → β)
    (x : Lowering α) :
    (f <$> x).events = x.events := by
  obtain ⟨(_ | _ | _) | a, events⟩ := x <;>
    simp [Functor.map]

/-- A lowering that a map takes to what a value goes to gives a value as well. -/
theorem exists_of_map_eq_map
    {α β : Type}
    {f : α → β}
    {x : Lowering α}
    {b : α}
    {es : List Event}
    (h : f <$> x = f <$> (⟨.ok b, es⟩ : Lowering α)) :
    ∃ a, f a = f b ∧ x = ⟨.ok a, es⟩ := by
  have hevents : x.events = es := by
    rw [← events_map f x, h, events_map]
  obtain ⟨(_ | _ | _) | a, events⟩ := x
  · cases h
  · cases h
  · cases h
  · obtain rfl : events = es := hevents
    exact ⟨a, Except.ok.inj (congrArg Lowering.outcome h), rfl⟩

/-- The second lowering is the first, if the first terminates. -/
def Below
    {α : Type}
    (x y : Lowering α) : Prop :=
  x.Terminates → y = x

theorem Below.refl
    {α : Type}
    (x : Lowering α) :
    Below x x :=
  fun _ => rfl

theorem Below.trans
    {α : Type}
    {x y z : Lowering α}
    (hxy : Below x y)
    (hyz : Below y z) :
    Below x z := by
  intro hx
  have hy : y = x := hxy hx
  rw [hyz (by rwa [hy]), hy]

theorem Below.bind
    {α β : Type}
    {x y : Lowering α}
    {f g : α → Lowering β}
    (hx : Below x y)
    (hf : ∀ a, Below (f a) (g a)) :
    Below (x >>= f) (y >>= g) := by
  intro hend
  obtain ⟨outcome, events⟩ := x
  cases outcome with
  | error halt =>
      have hhalt : (⟨.error halt, events⟩ : Lowering α).Terminates := by
        intro h
        cases h
        exact hend rfl
      rw [hx hhalt]
      rfl
  | ok a =>
      have hga : g a = f a := hf a hend
      rw [hx nofun, bind_ok, bind_ok, hga]

theorem Below.attempt
    {α : Type}
    {x y : Lowering α}
    (h : Below x y) :
    Below x.attempt y.attempt := by
  intro hend
  rw [h]
  intro hx
  obtain ⟨outcome, events⟩ := x
  cases hx
  exact hend rfl

/-- Lowerings that agree unless the first is endless. -/
def below : LoweringRelation where
  rel := Below
  pure := fun a => Below.refl (Pure.pure a)
  bind := Below.bind

end Lowering

open Lowering (Below below terminates_map)

theorem companions_below
    (s : Scope) :
    Companions below below s s where
  nativeOnly := rfl
  raise := fun _ _ _ => Below.refl _
  emptyUnion := Below.refl _
  register := fun _ => Below.refl _
  guard := fun hx => hx.attempt.bind fun _ => Below.refl _
  element := by
    intro α β x y f g hx hok herror
    refine hx.attempt.bind fun r => ?_
    cases r with
    | ok a => exact hok a
    | error e => exact herror e e
  sink := fun _ _ _ => Below.refl _

/-- Ways to lower that agree beneath an annotation make the same step. -/
theorem lowerStep_below
    {f g : Lower}
    (s : Scope)
    (t : Ty)
    (h : ∀ u, u.Beneath (s.types.resolve t).type →
      Below (f s u) (g s u) ∧ Below (f s.passing u) (g s.passing u)) :
    Below (lowerStep f s t) (lowerStep g s t) :=
  (companions_below s).lowerStep (s.sameFound_of_types s rfl t) h

/-- More depth keeps a lowering that ends. -/
theorem lowerWithin_below
    {depth depth' : Nat}
    (hdepth : depth ≤ depth')
    (s : Scope)
    (t : Ty) :
    Below (lowerWithin depth s t) (lowerWithin depth' s t) := by
  induction depth generalizing depth' s t with
  | zero =>
      intro hend
      exact absurd rfl hend
  | succ depth ih =>
      cases depth' with
      | zero =>
          omega
      | succ depth' =>
          have hle : depth ≤ depth' := Nat.le_of_succ_le_succ hdepth
          exact lowerStep_below s t fun u _ => ⟨ih hle s u, ih hle s.passing u⟩

/-! ## What a step takes from its annotation -/

theorem lowerArray_value
    (f : Lower)
    (s : Scope)
    (array : String)
    (element : Ty)
    (n n' : Bool) :
    Nullable.value <$> lowerArray f s array element n =
      Nullable.value <$> lowerArray f s array element n' := by
  unfold lowerArray
  rw [map_bind, map_bind]
  congr 1
  funext r
  cases r with
  | error e =>
      rfl
  | ok found =>
      cases hword : found.value.unstorable? with
      | some word =>
          simp only [hword, map_bind, map_pure]
      | none =>
          simp only [hword, map_pure]

theorem lowerReference_value
    (f : Lower)
    (s : Scope)
    (node : Node)
    (name : String)
    (typeArgs : Option (List Ty))
    (n n' : Bool) :
    Nullable.value <$> lowerReference f s node name typeArgs n =
      Nullable.value <$> lowerReference f s node name typeArgs n' := by
  unfold lowerReference
  split_ifs with hpromise harray
  · simp only [map_bind, map_pure]
  · rw [map_bind, map_bind]
    congr 1
    funext element
    exact lowerArray_value f s name element n n'
  · split
    · rfl
    · split
      · simp only [map_bind, map_pure]
      · rfl

theorem lowerUnion_value
    (s : Scope)
    (node : Node)
    (members : List Ty)
    (n n' : Bool) :
    Nullable.value <$> lowerUnion s node members n =
      Nullable.value <$> lowerUnion s node members n' := by
  unfold lowerUnion
  split_ifs with hnative
  · split <;> rfl
  · rfl

theorem lowerObject_value
    (f : Lower)
    (s : Scope)
    (members : List Member)
    (alias? : Option String)
    (n n' : Bool) :
    Nullable.value <$> lowerObject f s members alias? n =
      Nullable.value <$> lowerObject f s members alias? n' := by
  unfold lowerObject
  rw [map_bind, map_bind]
  congr 1
  funext properties
  cases alias? <;> rfl

/-- The value depends only on what was found and on the last name followed. -/
theorem lowerStep_value
    (f : Lower)
    (s : Scope)
    {t t' : Ty}
    (htype : (s.types.resolve t').type = (s.types.resolve t).type)
    (halias : (s.types.resolve t').alias? = (s.types.resolve t).alias?) :
    Nullable.value <$> lowerStep f s t' = Nullable.value <$> lowerStep f s t := by
  simp only [lowerStep, htype, halias]
  generalize (s.types.resolve t').nullable = n'
  generalize (s.types.resolve t).nullable = n
  cases (s.types.resolve t).type with
  | array element span =>
      exact lowerArray_value ..
  | operator word operand span =>
      simp only []
      split
      · exact lowerArray_value ..
      · rfl
  | reference name typeArgs span =>
      exact lowerReference_value ..
  | object members span =>
      exact lowerObject_value ..
  | keyword word span =>
      simp only []
      split
      · rfl
      · split_ifs <;> rfl
  | function params result span =>
      simp only [map_bind, map_pure]
  | union members span =>
      exact lowerUnion_value ..
  | literal value span =>
      rfl
  | other kind span =>
      rfl

/-- Annotations for which the same was found terminate together. -/
theorem terminates_lowerStep_iff
    (f : Lower)
    (s : Scope)
    {t t' : Ty}
    (htype : (s.types.resolve t').type = (s.types.resolve t).type)
    (halias : (s.types.resolve t').alias? = (s.types.resolve t).alias?) :
    (lowerStep f s t').Terminates ↔ (lowerStep f s t).Terminates := by
  rw [← terminates_map Nullable.value, lowerStep_value f s htype halias, terminates_map]

/-! ## Room for the names not yet followed -/

namespace Environment

/-- The size of what a declaration stands for, unless its name is blocked. -/
def roomOf
    (blocked : List String)
    (d : Declaration) :
    Nat :=
  if d.name ∈ blocked then 0 else Ty.sizeOption d.type?

/-- The size of what all names stand for that are not blocked. -/
def room
    (env : Environment)
    (blocked : List String) :
    Nat :=
  env.declarations.foldr (fun d n => roomOf blocked d + n) 0

theorem room_nil
    (env : Environment) :
    env.room [] = env.size := by
  simp [room, roomOf, size]

theorem roomOf_cons_le
    (name : String)
    (blocked : List String)
    (d : Declaration) :
    roomOf (name :: blocked) d ≤ roomOf blocked d := by
  unfold roomOf
  by_cases h : d.name ∈ blocked
  · rw [if_pos (List.mem_cons_of_mem name h)]
    exact Nat.zero_le _
  · rw [if_neg h]
    split <;> omega

theorem room_cons_le
    (name : String)
    (blocked : List String)
    (ds : List Declaration) :
    room ⟨ds⟩ (name :: blocked) ≤ room ⟨ds⟩ blocked := by
  induction ds with
  | nil =>
      exact Nat.le_refl _
  | cons d ds ih =>
      exact Nat.add_le_add (roomOf_cons_le name blocked d) ih

/-- Blocking a name makes room for what it stands for. -/
theorem size_add_room_le
    {env : Environment}
    {name : String}
    {t : Ty}
    {blocked : List String}
    (h : env.typeOf? name = some t)
    (hname : name ∉ blocked) :
    t.size + env.room (name :: blocked) ≤ env.room blocked := by
  obtain ⟨d, hd, ht⟩ := Option.bind_eq_some_iff.1 h
  have hdname : d.name = name := by simpa using List.find?_some hd
  have hpaid : roomOf (name :: blocked) d = 0 := by
    simp [roomOf, hdname]
  have hfree : roomOf blocked d = t.size := by
    rw [roomOf, hdname, if_neg hname, ht, Ty.sizeOption]
  obtain ⟨ds⟩ := env
  have hmem : d ∈ ds := List.mem_of_find?_eq_some hd
  clear h hd
  induction ds with
  | nil =>
      cases hmem
  | cons e ds ih =>
      simp only [room, List.foldr_cons] at ih ⊢
      rcases List.mem_cons.1 hmem with rfl | hmem
      · have hrest : room ⟨ds⟩ (name :: blocked) ≤ room ⟨ds⟩ blocked :=
          room_cons_le name blocked ds
        simp only [room] at hrest
        omega
      · have hrest := ih hmem
        have hhead := roomOf_cons_le name blocked e
        omega

end Environment

/-! ## Enough depth -/

section Enough

variable {s : Scope} {k : Nat}

/-- The name is followed on the way to what takes more than the given depth. -/
def BlockedAt
    (s : Scope)
    (depth : Nat)
    (name : String) : Prop :=
  ∀ t, (s.types.resolve t).alias? = some name → ¬ (lowerWithin depth s t).Terminates

theorem BlockedAt.of_le
    {depth depth' : Nat}
    {name : String}
    (hdepth : depth ≤ depth')
    (h : BlockedAt s depth' name) :
    BlockedAt s depth name := by
  intro t ht hend
  refine h t ht ?_
  rwa [lowerWithin_below hdepth s t hend]

/-- A name that is followed to what does not terminate is blocked. -/
theorem blockedAt_of_not_terminates
    {depth : Nat}
    {name : String}
    {t : Ty}
    (hname : (s.types.resolve t).alias? = some name)
    (h : ¬ (lowerWithin depth s t).Terminates) :
    BlockedAt s depth name := by
  intro u hu
  cases depth with
  | zero =>
      exact fun hend => hend rfl
  | succ depth =>
      obtain ⟨v, hv, htype⟩ := Environment.resolve_type_of_alias_some hname
      obtain ⟨w, hw, hutype⟩ := Environment.resolve_type_of_alias_some hu
      obtain rfl : v = w := Option.some.inj (hv.symm.trans hw)
      rw [lowerWithin, terminates_lowerStep_iff _ s (htype.trans hutype.symm)
        (hname.trans hu.symm)] at h
      exact h

/--
What is beneath an annotation fits in the room that it leaves, once the name
that was followed from it is blocked.
-/
theorem room_beneath
    {depth : Nat}
    {t : Ty}
    {blocked : List String}
    (hblocked : ∀ name, name ∈ blocked → BlockedAt s (depth + 1) name)
    (hdeep : ¬ (lowerWithin depth s t).Terminates)
    (hend : (lowerWithin (depth + 1) s t).Terminates) :
    ∃ blocked', (∀ name, name ∈ blocked' → BlockedAt s depth name) ∧
      ∀ u : Ty, u.Beneath (s.types.resolve t).type →
        u.size + s.types.room blocked' < t.size + s.types.room blocked := by
  have hbefore : ∀ name, name ∈ blocked → BlockedAt s depth name :=
    fun name hname => (hblocked name hname).of_le (Nat.le_succ depth)
  cases halias : (s.types.resolve t).alias? with
  | none =>
      refine ⟨blocked, hbefore, ?_⟩
      intro u hu
      have hpeel := t.peelsTo_peel.size_le
      rw [← Environment.resolve_type_of_alias_none halias] at hpeel
      have := hu.size_lt
      omega
  | some name =>
      obtain ⟨v, hv, htype⟩ := Environment.resolve_type_of_alias_some halias
      have hname : name ∉ blocked := fun hmem => hblocked name hmem t halias hend
      have hroom := Environment.size_add_room_le hv hname
      refine ⟨name :: blocked, ?_, ?_⟩
      · intro n hn
        rcases List.mem_cons.1 hn with rfl | hn
        · exact blockedAt_of_not_terminates halias hdeep
        · exact hbefore n hn
      · intro u hu
        have hpeel := v.peelsTo_peel.size_le
        rw [← htype] at hpeel
        have := hu.size_lt
        omega

/--
If `k` more than its size is enough depth for what is lowered with every fault
let through, `k` more than its size and the room is enough for an annotation.
-/
theorem lowerWithin_room
    (hk : 0 < k)
    (hpassing : s.passing = s ∨ ∀ depth t,
      Below (lowerWithin depth s.passing t) (lowerWithin (t.size + k) s.passing t))
    (depth : Nat)
    (t : Ty)
    {blocked : List String}
    (hblocked : ∀ name, name ∈ blocked → BlockedAt s depth name) :
    Below (lowerWithin depth s t)
      (lowerWithin (t.size + s.types.room blocked + k) s t) := by
  induction depth generalizing t blocked with
  | zero =>
      exact fun hend => absurd rfl hend
  | succ depth ih =>
      by_cases hdeep : (lowerWithin depth s t).Terminates
      · have hshallow := ih t fun name hname =>
          (hblocked name hname).of_le (Nat.le_succ depth)
        rw [lowerWithin_below (Nat.le_succ depth) s t hdeep]
        exact hshallow
      intro hend
      obtain ⟨blocked', hblocked', hroom⟩ := room_beneath hblocked hdeep hend
      obtain ⟨m, hm⟩ : ∃ m, t.size + s.types.room blocked + k = m + 1 :=
        Nat.exists_eq_add_of_le' (by omega)
      rw [hm]
      refine lowerStep_below s t ?_ hend
      intro u hu
      have hfits := hroom u hu
      have hself : Below (lowerWithin depth s u) (lowerWithin m s u) :=
        (ih u hblocked').trans (lowerWithin_below (by omega) s u)
      refine ⟨hself, ?_⟩
      rcases hpassing with heq | hpassing
      · rwa [heq]
      · exact (hpassing depth u).trans (lowerWithin_below (by omega) s.passing u)

end Enough

/-- The bound is enough depth for every lowering that terminates at all. -/
theorem lower_eq_lowerWithin
    {s : Scope}
    {depth : Nat}
    {t : Ty}
    (h : (lowerWithin depth s t).Terminates) :
    lower s t = lowerWithin depth s t := by
  have hpassing : ∀ depth t, Below (lowerWithin depth s.passing t)
      (lowerWithin (t.size + (s.types.size + 1)) s.passing t) := by
    intro depth t
    have hroom : Below (lowerWithin depth s.passing t)
        (lowerWithin (t.size + s.types.room [] + 1) s.passing t) :=
      lowerWithin_room Nat.one_pos (.inl rfl) depth t nofun
    rwa [Environment.room_nil] at hroom
  have hroom : Below (lowerWithin depth s t)
      (lowerWithin (t.size + s.types.room [] + (s.types.size + 1)) s t) :=
    lowerWithin_room (Nat.succ_pos s.types.size) (.inr hpassing) depth t nofun
  rw [Environment.room_nil] at hroom
  have hbound : depthBound s.types t = t.size + s.types.size + (s.types.size + 1) := by
    unfold depthBound
    omega
  rw [lower, hbound]
  exact hroom h

/-- A lowering terminates if it does to any depth. -/
theorem terminates_lower_iff
    (s : Scope)
    (t : Ty) :
    (lower s t).Terminates ↔ ∃ depth, (lowerWithin depth s t).Terminates := by
  constructor
  · intro h
    exact ⟨_, h⟩
  · rintro ⟨depth, h⟩
    rwa [lower_eq_lowerWithin h]

/-- A lowering that terminates is one step over the lowerings beneath. -/
theorem lower_eq_lowerStep
    {s : Scope}
    {t : Ty}
    (h : (lower s t).Terminates) :
    lower s t = lowerStep lower s t := by
  have hbelow : Below (lowerStep (lowerWithin (t.size + 2 * s.types.size)) s t)
      (lowerStep lower s t) := by
    refine lowerStep_below s t fun u _ => ⟨?_, ?_⟩
    · exact fun hend => lower_eq_lowerWithin hend
    · exact fun hend => lower_eq_lowerWithin hend
  exact (hbelow h).symm

end ModuleSpec
