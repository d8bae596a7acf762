import Mathlib.Data.List.Perm.Subperm
import ModuleSpec.Proofs.Entries
import ModuleSpec.Proofs.Lowering.Passing
import ModuleSpec.Proofs.Lowering.Turn

/-!
# Lowering in a larger environment

Lowering an annotation looks up the names that the annotation refers to, the
names that their declarations refer to, and so on.  Declarations of any other
names can be added to the environment, taken out of it and moved about in it.

**Idea.**  Resolution follows names on a budget, the number of declarations, and
that number may change.  It does not matter, because the budget never ends what
it limits: no name is followed twice, so when it is used up every declared name
has been followed.

**Results.**  Two environments that agree on the names that occur resolve
annotations to the same (`Environment.AgreeOn.resolve`), and a lowering that ends
in the one is the lowering in the other (`lower_inTypes`).
-/

namespace ModuleSpec

/-! ## Names that occur -/

namespace Node

/-- The names of types that a node mentions: the one it refers to or declares. -/
def mentions : Node → List String
  | type (.reference name _ _) => [name]
  | statement (.declaration d) => [d.name]
  | _ => []

/-- Every name mentioned in the node or beneath it is known. -/
def Knows
    (known : String → Prop)
    (n : Node) : Prop :=
  n.Every fun m => ∀ name, name ∈ m.mentions → known name

end Node

/-- What a union has lost is not mentioned by the union itself. -/
theorem keepsRemaining_mentions
    (known : String → Prop) :
    KeepsRemaining fun m => ∀ name, name ∈ m.mentions → known name :=
  fun _ _ _ _ _ _ => nofun

/-! ## The budget of a resolution -/

namespace Environment

/-- The budget counts the declarations besides those of the names followed. -/
structure Affords
    (env : Environment)
    (budget : Nat)
    (followed : List String) : Prop where
  nodup : followed.Nodup
  declared : followed ⊆ env.names
  length : followed.length + budget = env.declarations.length

theorem affords_nil
    (env : Environment) :
    env.Affords env.declarations.length [] :=
  ⟨.nil, List.nil_subset _, Nat.zero_add _⟩

theorem mem_names_of_target?
    {env : Environment}
    {followed : List String}
    {t u : Ty}
    {name : String}
    (h : env.target? followed t = some (name, u)) :
    name ∈ env.names ∧ name ∉ followed := by
  cases t with
  | reference n typeArgs span =>
      rw [target?] at h
      split at h
      · cases h
      · rename_i hnew
        obtain ⟨v, hv, heq⟩ := Option.map_eq_some_iff.1 h
        cases heq
        obtain ⟨d, hd, -⟩ := Option.bind_eq_some_iff.1 hv
        have hname : d.name = name := by
          simpa using List.find?_some hd
        exact ⟨List.mem_map.2 ⟨d, List.mem_of_find?_eq_some hd, hname⟩,
          fun hmem => hnew (List.contains_iff_mem.2 hmem)⟩
  | _ => cases h

/-- There is something left of a budget as long as there is a name to follow. -/
theorem Affords.exists_succ
    {env : Environment}
    {budget : Nat}
    {followed : List String}
    (h : env.Affords budget followed)
    {t u : Ty}
    {name : String}
    (htarget : env.target? followed t = some (name, u)) :
    ∃ rest, budget = rest + 1 ∧ env.Affords rest (name :: followed) := by
  obtain ⟨hname, hnew⟩ := mem_names_of_target? htarget
  have hnodup : (name :: followed).Nodup := List.nodup_cons.2 ⟨hnew, h.nodup⟩
  have hdeclared : name :: followed ⊆ env.names := List.cons_subset.2 ⟨hname, h.declared⟩
  have hlength : (name :: followed).length ≤ env.names.length :=
    (hnodup.subperm hdeclared).length_le
  rw [List.length_cons, names, List.length_map, ← h.length] at hlength
  obtain ⟨rest, rfl⟩ : ∃ rest, budget = rest + 1 := Nat.exists_eq_add_of_le' (by omega)
  refine ⟨rest, rfl, hnodup, hdeclared, ?_⟩
  rw [List.length_cons, ← h.length]
  omega

/-! ## Two environments -/

/-- Two environments agree on the known names, and what these stand for mentions no others. -/
structure AgreeOn
    (known : String → Prop)
    (env env' : Environment) : Prop where
  find? : ∀ name, known name → env'.find? name = env.find? name
  closed : env.Every fun m => ∀ name, name ∈ m.mentions → known name

section Agree

variable {known : String → Prop} {env env' : Environment}

theorem AgreeOn.target?
    (h : env.AgreeOn known env')
    {t : Ty}
    (ht : (Node.type t).Knows known)
    (followed : List String) :
    env'.target? followed t = env.target? followed t := by
  cases t with
  | reference name typeArgs span =>
      rw [Environment.target?, Environment.target?,
        h.find? name (ht.self name List.mem_cons_self)]
  | _ => rfl

theorem AgreeOn.resolveWithin
    (h : env.AgreeOn known env')
    {budget budget' : Nat}
    {followed : List String}
    (hbudget : env.Affords budget followed)
    (hbudget' : env'.Affords budget' followed)
    {found : Resolved}
    (hfound : (Node.type found.type).Knows known) :
    env'.resolveWithin budget' followed found = env.resolveWithin budget followed found := by
  induction budget generalizing budget' followed found with
  | zero =>
      have hpeel : (Node.type found.type.peel.type).Knows known :=
        found.type.peelsTo_peel.every (keepsRemaining_mentions known) hfound
      have hnone : env.target? followed found.type.peel.type = none := by
        cases htarget : env.target? followed found.type.peel.type with
        | none =>
            rfl
        | some next =>
            obtain ⟨rest, hrest, -⟩ := hbudget.exists_succ htarget
            cases hrest
      rw [resolveWithin_stop _ hnone,
        resolveWithin_stop _ ((h.target? hpeel followed).trans hnone)]
  | succ budget ih =>
      have hpeel : (Node.type found.type.peel.type).Knows known :=
        found.type.peelsTo_peel.every (keepsRemaining_mentions known) hfound
      cases htarget : env.target? followed found.type.peel.type with
      | none =>
          rw [resolveWithin_stop _ htarget,
            resolveWithin_stop _ ((h.target? hpeel followed).trans htarget)]
      | some next =>
          obtain ⟨name, t⟩ := next
          have htarget' := (h.target? hpeel followed).trans htarget
          obtain ⟨rest, hrest, hafford⟩ := hbudget.exists_succ htarget
          obtain ⟨rest', rfl, hafford'⟩ := hbudget'.exists_succ htarget'
          cases hrest
          rw [resolveWithin_follow _ htarget, resolveWithin_follow _ htarget']
          exact ih hafford hafford' (h.closed name t (target?_eq_some htarget))

/-- Environments that agree on what is mentioned resolve an annotation to the same. -/
theorem AgreeOn.resolve
    (h : env.AgreeOn known env')
    {t : Ty}
    (ht : (Node.type t).Knows known) :
    env'.resolve t = env.resolve t :=
  h.resolveWithin env.affords_nil env'.affords_nil ht

end Agree

end Environment

/-! ## Lowering -/

/-- The scope with other declarations. -/
def Scope.inTypes
    (s : Scope)
    (env : Environment) :
    Scope :=
  { s with types := env }

open Lowering (Below same)

/-- What a step does besides looking up names does not depend on the declarations. -/
theorem Companions.inTypes
    {R P : LoweringRelation}
    {s : Scope}
    (h : Companions R P s s)
    (env : Environment) :
    Companions R P s (s.inTypes env) :=
  ⟨rfl, h.raise, h.emptyUnion, h.register, h.guard, h.element, h.sink⟩

theorem companions_same
    (s : Scope) :
    Companions same same s s where
  nativeOnly := rfl
  raise := fun _ _ _ => rfl
  emptyUnion := rfl
  register := fun _ => rfl
  guard := by
    rintro α x _ rfl
    rfl
  element := by
    rintro α β x _ f g rfl hok herror
    refine congrArg (x.attempt >>= ·) (funext fun r => ?_)
    cases r with
    | ok a => exact hok a
    | error e => exact herror e e
  sink := fun _ _ _ => rfl

section Weaken

variable {known : String → Prop} {s : Scope} {env : Environment}

theorem sameFound_inTypes
    (h : s.types.AgreeOn known env)
    {t : Ty}
    (ht : (Node.type t).Knows known) :
    s.SameFound (s.inTypes env) t where
  resolve := h.resolve ht
  enum := by
    intro name typeArgs span htype
    have hfound : (Node.type (s.types.resolve t).type).Knows known :=
      Environment.every_resolve (keepsRemaining_mentions known) h.closed ht
    rw [htype] at hfound
    exact h.find? name (hfound.self name List.mem_cons_self)

/-- To each depth a lowering is the same where the names that occur stand for the same. -/
theorem lowerWithin_inTypes
    (h : s.types.AgreeOn known env)
    (depth : Nat)
    {t : Ty}
    (ht : (Node.type t).Knows known) :
    lowerWithin depth (s.inTypes env) t = lowerWithin depth s t ∧
      lowerWithin depth (s.passing.inTypes env) t = lowerWithin depth s.passing t := by
  induction depth generalizing t with
  | zero =>
      exact ⟨rfl, rfl⟩
  | succ depth ih =>
      have hbeneath {u : Ty} (hu : u.Beneath (s.types.resolve t).type) :
          (Node.type u).Knows known :=
        hu.every (Environment.every_resolve (keepsRemaining_mentions known) h.closed ht)
      have hsub {u : Ty} (hu : u.Beneath (s.types.resolve t).type) :
          lowerWithin depth s u = lowerWithin depth (s.inTypes env) u ∧
            lowerWithin depth s.passing u = lowerWithin depth (s.passing.inTypes env) u :=
        ⟨(ih (hbeneath hu)).1.symm, (ih (hbeneath hu)).2.symm⟩
      have hpassing : s.passing.types.AgreeOn known env := h
      constructor
      · exact (((companions_same s).inTypes env).lowerStep (sameFound_inTypes h ht)
          fun u hu => hsub hu).symm
      · exact (((companions_same s.passing).inTypes env).lowerStep (sameFound_inTypes hpassing ht)
          fun u hu => ⟨(hsub hu).2, (hsub hu).2⟩).symm

/-- A lowering that ends is the same where the names that occur stand for the same. -/
theorem lower_inTypes
    (h : s.types.AgreeOn known env)
    {t : Ty}
    (ht : (Node.type t).Knows known) :
    Below (lower s t) (lower (s.inTypes env) t) := by
  intro hend
  have hsame : lowerWithin (depthBound s.types t) (s.inTypes env) t = lower s t :=
    (lowerWithin_inTypes h (depthBound s.types t) ht).1
  rw [← hsame] at hend ⊢
  exact lower_eq_lowerWithin hend

/-! ## Members of an interface -/

theorem memberSignature_inTypes
    (h : s.types.AgreeOn known env)
    {m : Member}
    (hm : (Node.member m).Knows known) :
    memberSignature (s.inTypes env) m = memberSignature s m := by
  cases m with
  | property name type optional span =>
      cases type with
      | none =>
          rfl
      | some t =>
          have ht : (Node.type t).Knows known := hm.child List.mem_cons_self
          have hresolve : (s.inTypes env).types.resolve t = s.types.resolve t := h.resolve ht
          simp only [memberSignature, hresolve]
          rfl
  | _ => rfl

/-- The parameters and the result of what a member stands for mention known names. -/
theorem knows_memberSignature
    (hclosed : s.types.Every fun m => ∀ name, name ∈ m.mentions → known name)
    {m : Member}
    (hm : (Node.member m).Knows known)
    {found : Nullable Signature}
    (h : (memberSignature s m).outcome = .ok found) :
    (∀ p, p ∈ found.value.params → ∀ t, p.type = some t → (Node.type t).Knows known) ∧
      ∀ t, found.value.result = some t → (Node.type t).Knows known := by
  cases m with
  | method name params result optional span =>
      cases h
      constructor
      · intro p hp t ht
        have hparam : (Node.param p).Knows known :=
          hm.child (List.mem_append_left _ (List.mem_map.2 ⟨p, hp, rfl⟩))
        exact hparam.child (by simp [Node.children, ht])
      · rintro t rfl
        exact hm.child (List.mem_append_right _ List.mem_cons_self)
  | property name type optional span =>
      cases type with
      | none =>
          cases h
      | some t =>
          have ht : (Node.type (s.types.resolve t).type).Knows known :=
            Environment.every_resolve (keepsRemaining_mentions known) hclosed
              (hm.child List.mem_cons_self)
          simp only [memberSignature] at h
          split at h
          · rename_i params result inner htype
            cases h
            rw [htype] at ht
            exact ⟨fun p hp u hu => (Ty.Beneath.param result inner hp hu).every ht,
              fun u hu => by
                obtain rfl := hu
                exact (Ty.Beneath.result params u inner).every ht⟩
          · cases h
  | other kind name span =>
      cases h

theorem lowerProperty_inTypes
    (h : s.types.AgreeOn known env)
    {m : Member}
    (hm : (Node.member m).Knows known) :
    Below (lowerProperty s m) (lowerProperty (s.inTypes env) m) := by
  unfold lowerProperty
  rw [memberSignature_inTypes h hm]
  cases hfound : memberSignature s m with
  | mk outcome events =>
      cases outcome with
      | error halt =>
          exact fun _ => rfl
      | ok found =>
          obtain ⟨hparams, hresult⟩ :=
            knows_memberSignature h.closed hm (congrArg Lowering.outcome hfound)
          have hsignature : Below (lowerSignature lower s found.value)
              (lowerSignature lower (s.inTypes env) found.value) :=
            ((companions_below s).inTypes env).lowerSignature found.value
              (fun p hp t ht => lower_inTypes h (hparams p hp t ht))
              (fun t ht => lower_inTypes h (hresult t ht))
          have hrest := hsignature.bind fun a => Below.refl
            (pure ⟨m.name, m.optional, ⟨found.nullable, a⟩⟩ : Lowering Shape)
          intro hend
          rw [Lowering.bind_ok, Lowering.bind_ok, hrest hend]

/-- What a member gives does not depend on declarations of names that do not occur. -/
theorem buildEntry_inTypes
    (h : s.types.AgreeOn known env)
    {m : Member}
    (hm : (Node.member m).Knows known)
    {e : Entry}
    (he : buildEntry s m = .ok e) :
    buildEntry (s.inTypes env) m = .ok e := by
  have hend : (lowerProperty s m).Terminates := by
    refine (Lowering.terminates_guard s.capture).1 fun hendless => ?_
    cases (entry_of_buildEntry he).property.symm.trans hendless
  have hsame : lowerProperty (s.inTypes env) m = lowerProperty s m :=
    lowerProperty_inTypes h hm hend
  rw [← he, buildEntry, buildEntry, hsame]
  rfl

end Weaken

end ModuleSpec
