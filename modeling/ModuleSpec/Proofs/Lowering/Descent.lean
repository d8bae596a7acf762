import Mathlib.Logic.Relation
import ModuleSpec.Resolution
import ModuleSpec.Tree.Size
import ModuleSpec.Tree.Walk

/-!
# What lowering descends to

Lowering resolves an annotation and then turns to the annotations beneath what
it found.  This file describes both moves by relations, so that a fact about all
annotations that a lowering meets is proved one step at a time.

* `Ty.PeelStep` is one step of peeling; `Ty.peel` makes a chain of them.
* `Ty.Beneath` holds of an annotation and one that lowering turns to from it.
* `Node.Every` says that a property holds of a node and of all nodes under it.

**Results.**  The resolution of an annotation is what the annotation itself, or
the declaration of the last name followed, peels to.  A property of all nodes is
kept by both moves, and the size of an annotation does not grow under the first
and shrinks under the second.
-/

namespace ModuleSpec

/-! ## All nodes of a tree -/

/-- The property holds of the node and of every node under it. -/
def Node.Every
    (P : Node → Prop)
    (n : Node) : Prop :=
  ∀ m, m ∈ n.walk → P m

section Every

variable {P : Node → Prop}

theorem Node.every_iff
    (n : Node) :
    n.Every P ↔ P n ∧ ∀ c, c ∈ n.children → c.Every P := by
  unfold Node.Every
  rw [Node.walk_eq_cons]
  simp only [List.mem_cons, List.mem_flatMap]
  constructor
  · intro h
    exact ⟨h n (.inl rfl), fun c hc m hm => h m (.inr ⟨c, hc, hm⟩)⟩
  · rintro ⟨hn, hc⟩ m (rfl | ⟨c, hmem, hm⟩)
    · exact hn
    · exact hc c hmem m hm

theorem Node.Every.self
    {n : Node}
    (h : n.Every P) :
    P n :=
  ((Node.every_iff n).1 h).1

theorem Node.Every.child
    {n c : Node}
    (h : n.Every P)
    (hc : c ∈ n.children) :
    c.Every P :=
  ((Node.every_iff n).1 h).2 c hc

end Every

/-! ## Peeling -/

/-- One step of peeling. -/
inductive Ty.PeelStep : Ty → Ty → Prop
  | readonly
      (inner : Ty)
      (span : Span) :
      PeelStep (.reference "Readonly" (some [inner]) span) inner
  | member
      {members : List Ty}
      {m : Ty}
      (span : Span)
      (hm : m ∈ members) :
      PeelStep (.union members span) m
  | remaining
      {members rest : List Ty}
      (span : Span)
      (hsub : rest.Sublist members)
      (hne : rest ≠ []) :
      PeelStep (.union members span) (.union rest span)

/-- Any number of steps of peeling. -/
def Ty.PeelsTo : Ty → Ty → Prop :=
  Relation.ReflTransGen Ty.PeelStep

/-- Peeling makes steps of peeling. -/
theorem Ty.peelsTo_peel
    (t : Ty) :
    t.PeelsTo t.peel.type := by
  -- The second claim is about the only member of a union that is not null.
  refine Ty.peel.induct
    (fun t => t.PeelsTo t.peel.type)
    (fun ts => ∀ m, ts.filter (fun m => !m.isNull) = [m] →
      m ∈ ts ∧ m.PeelsTo (Ty.peelPresent ts).type)
    ?readonly ?reference ?allNull ?empty ?one ?several ?plain ?other ?nil ?skip ?take t
  case readonly =>
      intro inner span ih
      rw [Ty.peel, if_pos rfl]
      exact Relation.ReflTransGen.head (.readonly inner span) ih
  case reference =>
      intro name inner span hname
      rw [Ty.peel, if_neg hname]
      exact .refl
  case allNull =>
      intro span first tail hany hfilter
      simp only [Ty.peel, hany, hfilter, if_true]
      exact .single (.member span List.mem_cons_self)
  case empty =>
      intro span hany
      simp at hany
  case one =>
      intro members span hany m hfilter ih
      simp only [Ty.peel, hany, hfilter, if_true]
      obtain ⟨hm, hpeel⟩ := ih m hfilter
      exact .head (.member span hm) hpeel
  case several =>
      intro members span hany hone hnone hempty
      unfold Ty.peel
      simp only [hany, if_true]
      refine .single (.remaining span List.filter_sublist ?_)
      intro hall
      cases members with
      | nil => simp at hany
      | cons first tail => exact hnone first tail hall rfl
  case plain =>
      intro members span hany
      unfold Ty.peel
      rw [if_neg hany]
      exact .refl
  case other =>
      intro t hreference hunion
      cases t with
      | union members span => exact absurd rfl (hunion members span)
      | reference name typeArgs span =>
          obtain _ | (_ | ⟨a, _ | ⟨b, l⟩⟩) := typeArgs
          · exact .refl
          · exact .refl
          · exact absurd rfl (hreference name a span)
          · exact .refl
      | _ => exact .refl
  case nil =>
      intro m h
      simp at h
  case skip =>
      intro t ts hnull ih m h
      rw [Ty.peelPresent, if_pos hnull]
      rw [List.filter_cons_of_neg (by simp [hnull])] at h
      exact ⟨List.mem_cons_of_mem t (ih m h).1, (ih m h).2⟩
  case take =>
      intro t ts hnull ih m h
      rw [Ty.peelPresent, if_neg hnull]
      rw [List.filter_cons_of_pos (by simp [hnull])] at h
      obtain ⟨rfl, -⟩ := List.cons.inj h
      exact ⟨List.mem_cons_self, ih⟩

/-! ## Resolution -/

namespace Environment

/-- The type that a declared name stands for; an enum stands for none. -/
def typeOf?
    (env : Environment)
    (name : String) :
    Option Ty :=
  (env.find? name).bind Declaration.type?

/-- The target of a reference is what its name stands for. -/
theorem target?_eq_some
    {env : Environment}
    {followed : List String}
    {t u : Ty}
    {name : String}
    (h : env.target? followed t = some (name, u)) :
    env.typeOf? name = some u := by
  cases t with
  | reference n typeArgs span =>
      simp only [target?] at h
      by_cases hseen : followed.contains n = true
      · rw [if_pos hseen] at h
        cases h
      · rw [if_neg hseen, Option.map_eq_some_iff] at h
        obtain ⟨v, hv, heq⟩ := h
        cases heq
        exact hv
  | _ => cases h

theorem resolveWithin_follow
    {env : Environment}
    {followed : List String}
    {found : Resolved}
    {name : String}
    {t : Ty}
    (budget : Nat)
    (h : env.target? followed found.type.peel.type = some (name, t)) :
    env.resolveWithin (budget + 1) followed found =
      env.resolveWithin budget (name :: followed)
        ⟨found.nullable || found.type.peel.nullable, t, some name⟩ := by
  rw [resolveWithin.eq_def]
  simp only [h]

theorem resolveWithin_stop
    {env : Environment}
    {followed : List String}
    {found : Resolved}
    (budget : Nat)
    (h : env.target? followed found.type.peel.type = none) :
    env.resolveWithin budget followed found =
      ⟨found.nullable || found.type.peel.nullable, found.type.peel.type, found.alias?⟩ := by
  rw [resolveWithin.eq_def]
  simp only [h]

/-- A resolution ends by peeling what it started from or what the last name stands for. -/
theorem resolveWithin_cases
    (env : Environment)
    (budget : Nat)
    (followed : List String)
    (found : Resolved) :
    let r := env.resolveWithin budget followed found
    (r.alias? = found.alias? ∧ r.type = found.type.peel.type) ∨
      ∃ name t,
        r.alias? = some name ∧ env.typeOf? name = some t ∧ r.type = t.peel.type := by
  intro r
  induction budget generalizing followed found with
  | zero =>
      refine .inl ⟨?_, ?_⟩ <;>
        simp [r, resolveWithin]
  | succ budget ih =>
      cases htarget : env.target? followed found.type.peel.type with
      | none =>
          refine .inl ⟨?_, ?_⟩ <;>
            simp only [r, resolveWithin_stop _ htarget]
      | some target =>
          obtain ⟨name, t⟩ := target
          have hname : env.typeOf? name = some t := target?_eq_some htarget
          have hr : r = env.resolveWithin budget (name :: followed)
              ⟨found.nullable || found.type.peel.nullable, t, some name⟩ :=
            resolveWithin_follow budget htarget
          rw [hr]
          obtain ⟨halias, htype⟩ | hlater := ih (name :: followed)
            ⟨found.nullable || found.type.peel.nullable, t, some name⟩
          · exact .inr ⟨name, t, halias, hname, htype⟩
          · exact .inr hlater

/-- An annotation for which no name is followed is only peeled. -/
theorem resolve_type_of_alias_none
    {env : Environment}
    {t : Ty}
    (h : (env.resolve t).alias? = none) :
    (env.resolve t).type = t.peel.type := by
  obtain ⟨-, htype⟩ | ⟨name, u, halias, -⟩ :=
    env.resolveWithin_cases env.declarations.length [] ⟨false, t, none⟩
  · exact htype
  · exact absurd (h.symm.trans halias) (by simp)

/-- An annotation for which names are followed is what the last of them peels to. -/
theorem resolve_type_of_alias_some
    {env : Environment}
    {t : Ty}
    {name : String}
    (h : (env.resolve t).alias? = some name) :
    ∃ u, env.typeOf? name = some u ∧ (env.resolve t).type = u.peel.type := by
  obtain ⟨halias, -⟩ | ⟨name', u, halias, hu, htype⟩ :=
    env.resolveWithin_cases env.declarations.length [] ⟨false, t, none⟩
  · exact absurd (h.symm.trans halias) (by simp)
  · obtain rfl : name = name' := Option.some.inj (h.symm.trans halias)
    exact ⟨u, hu, htype⟩

theorem length_pos_of_typeOf?
    {env : Environment}
    {name : String}
    {t : Ty}
    (h : env.typeOf? name = some t) :
    0 < env.declarations.length := by
  unfold typeOf? find? at h
  cases hd : env.declarations with
  | nil =>
      rw [hd] at h
      cases h
  | cons d ds =>
      simp

/-- A function type resolves to itself. -/
theorem resolve_function
    (env : Environment)
    (params : List Param)
    (result : Option Ty)
    (span : Span) :
    (env.resolve (.function params result span)).type = .function params result span := by
  have hpeel : (Ty.function params result span).peel.type = .function params result span := by
    simp [Ty.peel]
  have hstop : env.target? [] (Ty.function params result span).peel.type = none := by
    rw [hpeel]
    rfl
  rw [resolve, resolveWithin_stop _ hstop, hpeel]

/-- A reference to a declared name is followed to what the name stands for. -/
theorem resolve_follow
    {env : Environment}
    {name : String}
    {typeArgs : Option (List Ty)}
    {span : Span}
    {t u : Ty}
    (hpeel : t.peel.type = .reference name typeArgs span)
    (h : env.typeOf? name = some u) :
    ∃ budget, env.resolve t =
      env.resolveWithin budget [name] ⟨t.peel.nullable, u, some name⟩ := by
  obtain ⟨n, hn⟩ := Nat.exists_eq_succ_of_ne_zero (Nat.ne_of_gt (length_pos_of_typeOf? h))
  have htarget : env.target? [] t.peel.type = some (name, u) := by
    unfold typeOf? at h
    simp [hpeel, target?, h]
  refine ⟨n, ?_⟩
  unfold resolve
  rw [hn, Nat.succ_eq_add_one, resolveWithin_follow n htarget]
  simp

/-- A reference resolves to what its name stands for when that is no reference. -/
theorem resolve_reference
    {env : Environment}
    {name : String}
    {typeArgs : Option (List Ty)}
    {span : Span}
    {t u : Ty}
    (hpeel : t.peel.type = .reference name typeArgs span)
    (h : env.typeOf? name = some u)
    (hstop : env.target? [name] u.peel.type = none) :
    env.resolve t = ⟨t.peel.nullable || u.peel.nullable, u.peel.type, some name⟩ := by
  obtain ⟨budget, hfollow⟩ := resolve_follow hpeel h
  rw [hfollow, resolveWithin_stop budget hstop]

end Environment

/-! ## The annotations beneath -/

/-- An annotation that lowering turns to from the second annotation. -/
inductive Ty.Beneath : Ty → Ty → Prop
  | element
      (t : Ty)
      (span : Span) :
      Beneath t (.array t span)
  | operand
      (word : String)
      (t : Ty)
      (inner outer : Span) :
      Beneath t (.operator word (.array t inner) outer)
  | typeArg
      (name : String)
      (t : Ty)
      (span : Span) :
      Beneath t (.reference name (some [t]) span)
  | property
      {members : List Member}
      {name : String}
      {t : Ty}
      {optional : Bool}
      {inner : Span}
      (outer : Span)
      (hm : .property name (some t) optional inner ∈ members) :
      Beneath t (.object members outer)
  | param
      {params : List Param}
      {p : Param}
      {t : Ty}
      (result : Option Ty)
      (span : Span)
      (hp : p ∈ params)
      (ht : p.type = some t) :
      Beneath t (.function params result span)
  | result
      (params : List Param)
      (t : Ty)
      (span : Span) :
      Beneath t (.function params (some t) span)

/-! ## What the moves keep -/

section Every

variable {P : Node → Prop}

/-- The property is kept when a union loses members but not all of them. -/
def KeepsRemaining (P : Node → Prop) : Prop :=
  ∀ members rest span, rest.Sublist members → rest ≠ [] →
    P (.type (.union members span)) → P (.type (.union rest span))

/-- The property holds of all nodes that a declared name stands for. -/
def Environment.Every
    (P : Node → Prop)
    (env : Environment) : Prop :=
  ∀ name t, env.typeOf? name = some t → (Node.type t).Every P

theorem Ty.PeelStep.every
    {t u : Ty}
    (hrest : KeepsRemaining P)
    (h : Ty.PeelStep t u)
    (ht : (Node.type t).Every P) :
    (Node.type u).Every P := by
  cases h with
  | readonly inner span =>
      exact ht.child (by simp [Node.children, Ty.children])
  | member span hm =>
      exact ht.child (by simpa [Node.children, Ty.children] using hm)
  | @remaining members rest span hsub hne =>
      rw [Node.every_iff]
      refine ⟨hrest members rest span hsub hne ht.self, ?_⟩
      intro c hc
      obtain ⟨m, hm, rfl⟩ := List.mem_map.1 hc
      exact ht.child (List.mem_map.2 ⟨m, hsub.subset hm, rfl⟩)

theorem Ty.PeelsTo.every
    {t u : Ty}
    (hrest : KeepsRemaining P)
    (h : t.PeelsTo u)
    (ht : (Node.type t).Every P) :
    (Node.type u).Every P := by
  induction h with
  | refl => exact ht
  | tail _ hstep ih => exact hstep.every hrest ih

theorem Environment.every_resolve
    {env : Environment}
    {t : Ty}
    (hrest : KeepsRemaining P)
    (henv : env.Every P)
    (ht : (Node.type t).Every P) :
    (Node.type (env.resolve t).type).Every P := by
  cases halias : (env.resolve t).alias? with
  | none =>
      rw [resolve_type_of_alias_none halias]
      exact t.peelsTo_peel.every hrest ht
  | some name =>
      obtain ⟨u, hu, htype⟩ := resolve_type_of_alias_some halias
      rw [htype]
      exact u.peelsTo_peel.every hrest (henv name u hu)

theorem Ty.Beneath.every
    {t u : Ty}
    (h : Ty.Beneath u t)
    (ht : (Node.type t).Every P) :
    (Node.type u).Every P := by
  cases h with
  | element span =>
      exact ht.child (by simp [Node.children, Ty.children])
  | @operand word _ inner outer =>
      have harray : (Node.type (.array u inner)).Every P :=
        ht.child (by simp [Node.children, Ty.children])
      exact harray.child (by simp [Node.children, Ty.children])
  | typeArg name span =>
      exact ht.child (by simp [Node.children, Ty.children])
  | @property members name _ optional inner outer hm =>
      have hmember : (Node.member (.property name (some u) optional inner)).Every P :=
        ht.child (List.mem_map.2 ⟨_, hm, rfl⟩)
      exact hmember.child (by simp [Node.children, Member.children])
  | @param params p _ result span hp hu =>
      have hparam : (Node.param p).Every P :=
        ht.child (List.mem_append_left _ (List.mem_map.2 ⟨p, hp, rfl⟩))
      exact hparam.child (by simp [Node.children, hu])
  | result params span =>
      exact ht.child (by simp [Node.children, Ty.children])

end Every

/-! ## Sizes -/

theorem Ty.size_le_sizeAll
    {ts : List Ty}
    {t : Ty}
    (ht : t ∈ ts) :
    t.size ≤ Ty.sizeAll ts := by
  induction ts with
  | nil =>
      cases ht
  | cons u ts ih =>
      rw [Ty.sizeAll]
      rcases List.mem_cons.1 ht with rfl | ht
      · omega
      · have := ih ht
        omega

theorem Ty.sizeAll_le_of_sublist
    {ts us : List Ty}
    (h : ts.Sublist us) :
    Ty.sizeAll ts ≤ Ty.sizeAll us := by
  induction h with
  | slnil =>
      exact Nat.le_refl _
  | cons u _ ih =>
      rw [Ty.sizeAll]
      omega
  | cons_cons u _ ih =>
      rw [Ty.sizeAll, Ty.sizeAll]
      omega

theorem Param.size_le_sizeAll
    {params : List Param}
    {p : Param}
    (hp : p ∈ params) :
    p.size ≤ Param.sizeAll params := by
  induction params with
  | nil =>
      cases hp
  | cons q params ih =>
      rw [Param.sizeAll]
      rcases List.mem_cons.1 hp with rfl | hp
      · omega
      · have := ih hp
        omega

theorem Member.size_le_sizeAll
    {members : List Member}
    {m : Member}
    (hm : m ∈ members) :
    m.size ≤ Member.sizeAll members := by
  induction members with
  | nil =>
      cases hm
  | cons q members ih =>
      rw [Member.sizeAll]
      rcases List.mem_cons.1 hm with rfl | hm
      · omega
      · have := ih hm
        omega

/-- Peeling does not make an annotation larger. -/
theorem Ty.PeelStep.size_le
    {t u : Ty}
    (h : Ty.PeelStep t u) :
    u.size ≤ t.size := by
  cases h with
  | readonly inner span =>
      simp only [Ty.size, Ty.sizeAll]
      omega
  | member span hm =>
      rw [Ty.size]
      have := Ty.size_le_sizeAll hm
      omega
  | remaining span hsub hne =>
      rw [Ty.size, Ty.size]
      have := Ty.sizeAll_le_of_sublist hsub
      omega

theorem Ty.PeelsTo.size_le
    {t u : Ty}
    (h : t.PeelsTo u) :
    u.size ≤ t.size := by
  induction h with
  | refl => exact Nat.le_refl _
  | tail _ hstep ih => exact Nat.le_trans hstep.size_le ih

/-- What lowering turns to is smaller. -/
theorem Ty.Beneath.size_lt
    {t u : Ty}
    (h : Ty.Beneath u t) :
    u.size < t.size := by
  cases h with
  | element span =>
      rw [Ty.size]
      omega
  | operand word inner outer =>
      rw [Ty.size, Ty.size]
      omega
  | typeArg name span =>
      simp only [Ty.size, Ty.sizeAll]
      omega
  | property outer hm =>
      have := Member.size_le_sizeAll hm
      simp only [Member.size, Ty.sizeOption] at this
      rw [Ty.size]
      omega
  | @param params p _ result span hp hu =>
      have := Param.size_le_sizeAll hp
      obtain ⟨name, type, optional, inner⟩ := p
      simp only at hu
      subst hu
      simp only [Param.size, Ty.sizeOption] at this
      rw [Ty.size]
      omega
  | result params span =>
      simp only [Ty.size, Ty.sizeOption]
      omega

end ModuleSpec
