import ModuleSpec.Proofs.Lowering.Peel
import ModuleSpec.Proofs.Lowering.Weaken

/-!
# Resolution ends in a normal form

A resolution takes turns.  In each it takes off one layer of what says only
whether a value may be absent, or it follows one name that it has not followed
before.  Nothing else is left to do at the end, and this is the normal form of
the annotation.

**Idea.**  Peeling makes the type smaller, and following a name, however large
what it stands for, leaves one name fewer to follow.  A reference that is left at
the end names what was followed before.  To resolve it again is to go round the
cycle once more, from the turn in which its name was followed, and to come back
to the same reference.

**Results.**  Every resolution has an end, which is a normal form and its own
normal form (`resolve_ends`).
-/

namespace ModuleSpec

/-! ## Turns -/

/-- Where a resolution is: the names followed, the last one first, and the type at hand. -/
structure Stage where
  followed : List String
  type : Ty

namespace Environment

/-- The next turn of a resolution; there is none at its end. -/
def turn?
    (env : Environment)
    (s : Stage) :
    Option Stage :=
  match s.type.peelOnce? with
  | some t => some ⟨s.followed, t⟩
  | none =>
      (env.target? s.followed s.type).map fun next => ⟨next.1 :: s.followed, next.2⟩

/-- The stages that a resolution goes through from the first to the last. -/
inductive Way (env : Environment) : Stage → List Stage → Stage → Prop
  | stop
      {s : Stage}
      (h : env.turn? s = none) :
      Way env s [s] s
  | turn
      {s next last : Stage}
      {stages : List Stage}
      (h : env.turn? s = some next)
      (hrest : Way env next stages last) :
      Way env s (s :: stages) last

section Turns

variable {env : Environment} {s next last : Stage} {stages : List Stage}

theorem turn?_of_peelOnce?
    {t : Ty}
    (followed : List String)
    (h : s.type.peelOnce? = some t) :
    env.turn? ⟨followed, s.type⟩ = some ⟨followed, t⟩ := by
  rw [turn?, h]

theorem turn?_of_target?
    {followed : List String}
    {t u : Ty}
    {name : String}
    (hpeel : t.peelOnce? = none)
    (h : env.target? followed t = some (name, u)) :
    env.turn? ⟨followed, t⟩ = some ⟨name :: followed, u⟩ := by
  rw [turn?, hpeel]
  simp only [h]
  rfl

theorem turn?_eq_none_iff
    {s : Stage} :
    env.turn? s = none ↔ s.type.peelOnce? = none ∧ env.target? s.followed s.type = none := by
  rw [turn?]
  cases s.type.peelOnce? with
  | some t => simp
  | none => simp

/-- A turn takes off a layer or follows a name. -/
theorem turn?_cases
    (h : env.turn? s = some next) :
    (s.type.peelOnce? = some next.type ∧ next.followed = s.followed) ∨
      ∃ name, s.type.peelOnce? = none ∧
        env.target? s.followed s.type = some (name, next.type) ∧
        next.followed = name :: s.followed := by
  rw [turn?] at h
  cases hpeel : s.type.peelOnce? with
  | some t =>
      rw [hpeel] at h
      cases h
      exact .inl ⟨rfl, rfl⟩
  | none =>
      rw [hpeel] at h
      obtain ⟨target, htarget, rfl⟩ := Option.map_eq_some_iff.1 h
      exact .inr ⟨target.1, rfl, htarget, rfl⟩

theorem Way.turn?_last
    (h : env.Way s stages last) :
    env.turn? last = none := by
  induction h with
  | stop h => exact h
  | turn _ _ ih => exact ih

/-- There is one way from a stage, and one end. -/
theorem Way.unique
    {stages' : List Stage}
    {last' : Stage}
    (h : env.Way s stages last)
    (h' : env.Way s stages' last') :
    stages = stages' ∧ last = last' := by
  induction h generalizing stages' with
  | stop hstop =>
      cases h' with
      | stop => exact ⟨rfl, rfl⟩
      | turn hturn _ =>
          rw [hstop] at hturn
          cases hturn
  | turn hturn _ ih =>
      cases h' with
      | stop hstop =>
          rw [hstop] at hturn
          cases hturn
      | turn hturn' hrest =>
          obtain rfl := Option.some.inj (hturn.symm.trans hturn')
          obtain ⟨rfl, rfl⟩ := ih hrest
          exact ⟨rfl, rfl⟩

end Turns

/-! ## The end of a resolution -/

section End

variable {env : Environment}

/-- To take off a layer first changes nothing. -/
theorem resolveWithin_of_peelOnce?
    {t u : Ty}
    (h : t.peelOnce? = some u)
    (budget : Nat)
    (followed : List String)
    (nullable : Bool)
    (alias? : Option String) :
    env.resolveWithin budget followed ⟨nullable, t, alias?⟩ =
      env.resolveWithin budget followed ⟨nullable || t.hasNull, u, alias?⟩ := by
  rw [resolveWithin.eq_def, resolveWithin.eq_def env budget followed ⟨nullable || t.hasNull, u, _⟩]
  simp only [Ty.peel_of_peelOnce? h, Bool.or_assoc]

/--
With a budget for all names left, a resolution goes its way to the end.  It has
met a null where one of the unions on the way has one.
-/
theorem Affords.exists_way
    {budget : Nat}
    {followed : List String}
    (h : env.Affords budget followed)
    (t : Ty) :
    ∃ stages last, env.Way ⟨followed, t⟩ stages last ∧ last.followed.Nodup ∧
      last.followed ⊆ env.names ∧
      ∀ nullable, env.resolveWithin budget followed ⟨nullable, t, followed.head?⟩ =
        ⟨nullable || stages.any fun s => s.type.hasNull, last.type, last.followed.head?⟩ := by
  cases hpeel : t.peelOnce? with
  | some u =>
      obtain ⟨stages, last, hway, hnodup, hnames, hresolve⟩ := h.exists_way u
      refine ⟨_, last, .turn (turn?_of_peelOnce? (s := ⟨followed, t⟩) followed hpeel) hway,
        hnodup, hnames, ?_⟩
      intro nullable
      rw [resolveWithin_of_peelOnce? hpeel, hresolve, List.any_cons, Bool.or_assoc]
  | none =>
      obtain ⟨hplain, hnull⟩ := Ty.peel_of_peelOnce?_eq_none hpeel
      cases htarget : env.target? followed t with
      | none =>
          refine ⟨_, _, .stop (turn?_eq_none_iff.2 ⟨hpeel, htarget⟩), h.nodup, h.declared, ?_⟩
          intro nullable
          rw [resolveWithin_stop budget (by rw [hplain]; exact htarget), hplain]
          simp [hnull]
      | some target =>
          obtain ⟨name, u⟩ := target
          obtain ⟨rest, hbudget, hrest⟩ := h.exists_succ htarget
          obtain ⟨stages, last, hway, hnodup, hnames, hresolve⟩ := hrest.exists_way u
          subst hbudget
          refine ⟨_, last, .turn (turn?_of_target? hpeel htarget) hway, hnodup, hnames, ?_⟩
          intro nullable
          rw [resolveWithin_follow rest (by rw [hplain]; exact htarget), hplain,
            List.any_cons, hnull]
          simpa using hresolve nullable
termination_by (budget, t.size)
decreasing_by
  · exact Prod.Lex.left _ _ (by omega)
  · exact Prod.Lex.right _ (Ty.size_lt_of_peelOnce? hpeel)

/-- An annotation resolves to the type that its way ends at. -/
theorem Way.resolve_type
    {t : Ty}
    {stages : List Stage}
    {last : Stage}
    (h : env.Way ⟨[], t⟩ stages last) :
    (env.resolve t).type = last.type := by
  obtain ⟨stages', last', hway, -, -, hresolve⟩ := env.affords_nil.exists_way t
  obtain ⟨-, rfl⟩ := h.unique hway
  exact congrArg Resolved.type (hresolve false)

end End

/-! ## Going round a cycle -/

section Cycle

variable {env : Environment} {s last : Stage} {stages : List Stage}

theorem target?_reference
    (env : Environment)
    (followed : List String)
    (name : String)
    (typeArgs : Option (List Ty))
    (span : Span) :
    env.target? followed (.reference name typeArgs span) =
      if name ∈ followed then none else (env.typeOf? name).map fun t => (name, t) := by
  simp only [target?, List.contains_iff_mem, typeOf?]

/-- What is followed is a reference to a name that stands for something and is new. -/
theorem exists_reference_of_target?
    {followed : List String}
    {t u : Ty}
    {name : String}
    (h : env.target? followed t = some (name, u)) :
    ∃ typeArgs span, t = .reference name typeArgs span ∧ name ∉ followed ∧
      env.typeOf? name = some u := by
  cases t with
  | reference n typeArgs span =>
      rw [target?_reference, Option.ite_none_left_eq_some] at h
      obtain ⟨hnew, hmap⟩ := h
      obtain ⟨v, hv, heq⟩ := Option.map_eq_some_iff.1 hmap
      cases heq
      exact ⟨typeArgs, span, rfl, hnew, hv⟩
  | _ => cases h

theorem target?_of_subset
    {followed followed' : List String}
    {t u : Ty}
    {name : String}
    (hsub : followed' ⊆ followed)
    (h : env.target? followed t = some (name, u)) :
    env.target? followed' t = some (name, u) := by
  obtain ⟨typeArgs, span, rfl, hnew, hu⟩ := exists_reference_of_target? h
  rw [target?_reference, if_neg fun hmem => hnew (hsub hmem), hu]
  rfl

/-- At the end of a resolution a reference that stands for something was followed before. -/
theorem mem_of_target?_eq_none
    {followed : List String}
    {name : String}
    {typeArgs : Option (List Ty)}
    {span : Span}
    {t : Ty}
    (h : env.target? followed (.reference name typeArgs span) = none)
    (ht : env.typeOf? name = some t) :
    name ∈ followed := by
  by_contra hnew
  rw [target?_reference, if_neg hnew, ht] at h
  cases h

/-- A name that has been followed on the way was followed in one of its turns. -/
theorem Way.exists_of_followed
    {name : String}
    (h : env.Way s stages last)
    (hlast : name ∈ last.followed)
    (hnew : name ∉ s.followed) :
    ∃ u followed stages', env.typeOf? name = some u ∧
      env.Way ⟨name :: followed, u⟩ stages' last := by
  induction h with
  | stop => exact absurd hlast hnew
  | @turn s next last stages hturn hrest ih =>
      rcases turn?_cases hturn with ⟨-, hfollowed⟩ | ⟨name', -, htarget, hfollowed⟩
      · exact ih hlast (by rwa [hfollowed])
      · by_cases hname : name = name'
        · subst hname
          refine ⟨next.type, s.followed, stages, target?_eq_some htarget, ?_⟩
          rwa [← hfollowed]
        · exact ih hlast (by rw [hfollowed]; simp [hname, hnew])

/--
The way is the same when fewer names have been followed before it, if the type at
its end is still one to stop at.
-/
theorem Way.forget
    {followed forgotten : List String}
    (h : env.Way s stages last)
    (hfollowed : s.followed = followed ++ forgotten)
    (hstop : ∀ names, followed ⊆ names → env.target? names last.type = none) :
    ∃ stages' names, env.Way ⟨followed, s.type⟩ stages' ⟨names, last.type⟩ := by
  induction h generalizing followed with
  | stop h =>
      have hpeel := (turn?_eq_none_iff.1 h).1
      exact ⟨_, _, .stop (turn?_eq_none_iff.2 ⟨hpeel, hstop followed (List.Subset.refl _)⟩)⟩
  | @turn s next last stages hturn hrest ih =>
      rcases turn?_cases hturn with ⟨hpeel, hsame⟩ | ⟨name, hpeel, htarget, hmore⟩
      · obtain ⟨stages', names, hway⟩ := ih (hsame.trans hfollowed) hstop
        exact ⟨_, names, .turn (turn?_of_peelOnce? followed hpeel) hway⟩
      · have hnext : next.followed = (name :: followed) ++ forgotten := by
          rw [hmore, hfollowed, List.cons_append]
        obtain ⟨stages', names, hway⟩ := ih hnext fun names hsub =>
          hstop names (List.subset_of_cons_subset hsub)
        have hfirst : env.target? followed s.type = some (name, next.type) := by
          refine target?_of_subset ?_ htarget
          rw [hfollowed]
          exact List.subset_append_left _ _
        exact ⟨_, names, .turn (turn?_of_target? hpeel hfirst) hway⟩

/-- What an annotation resolves to resolves to itself. -/
theorem Way.resolve_last
    {t : Ty}
    (h : env.Way ⟨[], t⟩ stages last) :
    (env.resolve last.type).type = last.type := by
  obtain ⟨hpeel, hend⟩ := turn?_eq_none_iff.1 h.turn?_last
  cases hfirst : env.target? [] last.type with
  | none =>
      have hway : env.Way ⟨[], last.type⟩ [⟨[], last.type⟩] ⟨[], last.type⟩ :=
        .stop (turn?_eq_none_iff.2 ⟨hpeel, hfirst⟩)
      exact hway.resolve_type
  | some target =>
      -- The reference was followed before, and from there the way leads back to it.
      obtain ⟨name, u⟩ := target
      obtain ⟨typeArgs, span, hreference, -, hu⟩ := exists_reference_of_target? hfirst
      rw [hreference] at hend
      obtain ⟨v, followed, stages', hv, hround⟩ :=
        h.exists_of_followed (mem_of_target?_eq_none hend hu) List.not_mem_nil
      obtain rfl : u = v := Option.some.inj (hu.symm.trans hv)
      have hstop : ∀ names, [name] ⊆ names → env.target? names last.type = none := by
        intro names hsub
        rw [hreference, target?_reference, if_pos (hsub List.mem_cons_self)]
      have hsplit : name :: followed = [name] ++ followed := rfl
      obtain ⟨stages'', names, hway⟩ := hround.forget hsplit hstop
      exact (Way.turn (turn?_of_target? hpeel hfirst) hway).resolve_type

end Cycle

/-! ## Normal forms -/

/--
There is nothing left to do: no Readonly to take off, no null in a union, and no
declared name to follow that has not been followed.
-/
structure IsNormal
    (env : Environment)
    (followed : List String)
    (t : Ty) : Prop where
  readonly : ∀ inner span, t ≠ .reference "Readonly" (some [inner]) span
  union : ∀ members span, t = .union members span → ∀ m, m ∈ members → m.isNull = false
  reference : ∀ name typeArgs span u,
    t = .reference name typeArgs span → env.typeOf? name = some u → name ∈ followed

theorem isNormal_of_turn?
    {env : Environment}
    {s : Stage}
    (h : env.turn? s = none) :
    env.IsNormal s.followed s.type := by
  obtain ⟨hpeel, htarget⟩ := turn?_eq_none_iff.1 h
  refine ⟨?_, ?_, ?_⟩
  · intro inner span heq
    simp [heq, Ty.peelOnce?] at hpeel
  · intro members span heq m hm
    have hnull := (Ty.peel_of_peelOnce?_eq_none hpeel).2
    rw [heq, Ty.hasNull, List.any_eq_false] at hnull
    simpa using hnull m hm
  · intro name typeArgs span u heq hu
    rw [heq] at htarget
    exact mem_of_target?_eq_none htarget hu

/--
The resolution of an annotation goes its way to an end.  No name is followed
twice, and only declared names are.  The end is a normal form, and resolves to
itself.  The annotation is nullable when a union on the way has a null, and its
alias is the last name followed.
-/
structure ResolvesAlong
    (env : Environment)
    (t : Ty)
    (stages : List Stage)
    (last : Stage) : Prop where
  way : env.Way ⟨[], t⟩ stages last
  once : last.followed.Nodup
  declared : last.followed ⊆ env.names
  type : (env.resolve t).type = last.type
  nullable : (env.resolve t).nullable = true ↔ ∃ s, s ∈ stages ∧ s.type.hasNull = true
  lastName : (env.resolve t).alias? = last.followed.head?
  normal : env.IsNormal last.followed (env.resolve t).type
  again : (env.resolve (env.resolve t).type).type = (env.resolve t).type

end Environment

theorem resolve_ends
    (env : Environment)
    (t : Ty) :
    ∃ stages last, env.ResolvesAlong t stages last := by
  obtain ⟨stages, last, hway, hnodup, hnames, hresolve⟩ := env.affords_nil.exists_way t
  have hresolve : env.resolve t =
      ⟨false || stages.any fun s => s.type.hasNull, last.type, last.followed.head?⟩ :=
    hresolve false
  refine ⟨stages, last, hway, hnodup, hnames, hway.resolve_type, ?_, ?_, ?_, ?_⟩
  · rw [hresolve, Bool.false_or, List.any_eq_true]
  · rw [hresolve]
  · rw [hway.resolve_type]
    exact Environment.isNormal_of_turn? hway.turn?_last
  · rw [hway.resolve_type]
    exact hway.resolve_last

/-- A cycle that is entered from outside ends where it was entered. -/
example :
    let left : Ty := .reference "Left" none Span.none
    let right : Ty := .reference "Right" none Span.none
    let env : Environment :=
      ⟨[.typeAlias ⟨"Outside", left, Span.none⟩,
        .typeAlias ⟨"Left", .union [right, .keyword "null" Span.none] Span.none, Span.none⟩,
        .typeAlias ⟨"Right", .reference "Readonly" (some [left]) Span.none, Span.none⟩]⟩
    env.resolve (.reference "Outside" none Span.none) = ⟨true, left, some "Right"⟩ := by
  cbv

end ModuleSpec
