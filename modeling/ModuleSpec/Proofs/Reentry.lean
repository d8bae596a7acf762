import ModuleSpec.Proofs.FaultContract
import ModuleSpec.Proofs.Lowering.Turn

/-!
# Which lowerings are endless

A lowering is endless exactly when it enters a declared name again: when it
follows a name while what the same name stands for is still being lowered under
the same capture.

**Idea.**  What is lowered for a name depends on the name and the capture alone,
so that a name that is entered again is entered again and again, each time with
less depth left.  Conversely, an endless lowering turns to an endless one, and
this one to another.  As long as no name is entered again, each name followed
pays for the annotations beneath it from the room that the declarations take,
and the chain has an end.

**Results.**
* `Frame.endless_iff_reenters`: the two are the same.
* `lowering_ends`: with that, lowerings end where no name reaches itself
  and at cycles of aliases, and an interface with a property of its own type is
  lowered without end.
-/

namespace ModuleSpec

namespace Frame

/-- The lowering goes deeper than any depth. -/
def Endless (a : Frame) : Prop :=
  ∀ depth, ¬ (lowerWithin depth a.scope a.type).Terminates

/--
On the way down from the frame a name is followed while what the same name
stands for is being lowered under the same capture.
-/
def Reenters (a : Frame) : Prop :=
  ∃ outer inner name,
    Relation.ReflTransGen (TurnsTo lower) a outer ∧
    Relation.TransGen (TurnsTo lower) outer inner ∧
    inner.scope.capture = outer.scope.capture ∧
    outer.name? = some name ∧ inner.name? = some name

section Chains

variable {a b : Frame}

theorem endless_iff :
    a.Endless ↔ ¬ a.run.Terminates := by
  have hrun : a.run.Terminates ↔ _ := terminates_lower_iff a.scope a.type
  rw [hrun, not_exists]
  rfl

/-- An endless lowering turns to an endless one. -/
theorem Endless.exists_turnsTo
    (h : a.Endless) :
    ∃ b, TurnsTo lower a b ∧ b.Endless := by
  simp only [endless_iff] at h ⊢
  rw [terminates_iff] at h
  push Not at h
  exact h

/-- All that a lowering with an end comes to has an end. -/
theorem terminates_of_reaches
    (h : Relation.ReflTransGen (TurnsTo lower) a b)
    (hend : a.run.Terminates) :
    b.run.Terminates := by
  induction h with
  | refl => exact hend
  | tail _ hstep ih => exact terminates_iff.1 ih _ hstep

/-- On the way down lowering stays in its scope, or has come to let every fault through. -/
theorem scope_eq_of_reaches
    (h : Relation.ReflTransGen (TurnsTo lower) a b) :
    b.scope = a.scope ∨ b.scope = a.scope.passing := by
  induction h with
  | refl => exact .inl rfl
  | tail _ hstep ih =>
      rcases hstep.scope_eq with hc | hc <;> rcases ih with hb | hb <;>
        rw [hc, hb]
      · exact .inl rfl
      · exact .inr rfl
      · exact .inr rfl
      · exact .inr rfl

theorem scope_eq_of_capture_eq
    (h : Relation.ReflTransGen (TurnsTo lower) a b)
    (hcapture : b.scope.capture = a.scope.capture) :
    b.scope = a.scope := by
  rcases scope_eq_of_reaches h with hb | hb
  · exact hb
  · rw [hb] at hcapture ⊢
    obtain ⟨⟨moduleName, types, nativeOnly, capture, sink⟩, t⟩ := a
    obtain rfl : Capture.passthrough = capture := hcapture
    rfl

/-! ## From a name that is entered again -/

/-- What a lowering comes to takes less depth. -/
theorem terminates_within_of_reaches
    {depth : Nat}
    (h : Relation.TransGen (TurnsTo lower) a b)
    (hend : (lowerWithin (depth + 1) a.scope a.type).Terminates) :
    (lowerWithin depth b.scope b.type).Terminates := by
  induction h with
  | single hstep => exact hstep.terminates_within hend
  | @tail b c _ hstep ih =>
      refine hstep.terminates_within ?_
      rw [lowerWithin_below (Nat.le_succ depth) b.scope b.type ih]
      exact ih

/-- For frames that follow one name in one scope, the same is found. -/
theorem found_type_eq_of_name
    {name : String}
    (hscope : b.scope = a.scope)
    (ha : a.name? = some name)
    (hb : b.name? = some name) :
    b.found.type = a.found.type := by
  obtain ⟨u, hu, hatype⟩ := Environment.resolve_type_of_alias_some ha
  obtain ⟨v, hv, hbtype⟩ := Environment.resolve_type_of_alias_some hb
  rw [hscope, hu] at hv
  obtain rfl : u = v := Option.some.inj hv
  exact hbtype.trans hatype.symm

/-- Frames that follow one name in one scope terminate at the same depths. -/
theorem terminates_within_iff_of_name
    {name : String}
    (hscope : b.scope = a.scope)
    (ha : a.name? = some name)
    (hb : b.name? = some name)
    (depth : Nat) :
    (lowerWithin depth b.scope b.type).Terminates ↔
      (lowerWithin depth a.scope a.type).Terminates := by
  have hfound := found_type_eq_of_name hscope ha hb
  obtain ⟨scope, t⟩ := b
  obtain rfl : scope = a.scope := hscope
  cases depth with
  | zero => exact Iff.rfl
  | succ depth => exact terminates_lowerStep_iff _ a.scope hfound (hb.trans ha.symm)

theorem endless_of_reenters
    (h : a.Reenters) :
    a.Endless := by
  obtain ⟨outer, inner, name, hreach, hagain, hcapture, houter, hinner⟩ := h
  have hscope : inner.scope = outer.scope :=
    scope_eq_of_capture_eq hagain.to_reflTransGen hcapture
  have hdeep : outer.Endless := by
    intro depth
    induction depth with
    | zero => exact fun hend => hend rfl
    | succ depth ih =>
        intro hend
        have hless := terminates_within_of_reaches hagain hend
        exact ih ((terminates_within_iff_of_name hscope houter hinner depth).1 hless)
  rw [endless_iff] at hdeep ⊢
  exact fun hend => hdeep (terminates_of_reaches hreach hend)

/-! ## From an endless lowering -/

/-- The names are being followed on the way from the first frame to the second. -/
def InProgress
    (a b : Frame)
    (names : List String) : Prop :=
  ∀ name, name ∈ names → ∃ outer,
    Relation.ReflTransGen (TurnsTo lower) a outer ∧
    Relation.TransGen (TurnsTo lower) outer b ∧
    outer.scope = b.scope ∧ outer.name? = some name

theorem InProgress.turn
    {c : Frame}
    {names : List String}
    (h : InProgress a b names)
    (hturn : TurnsTo lower b c)
    (hscope : c.scope = b.scope) :
    InProgress a c names := by
  intro name hname
  obtain ⟨outer, hreach, hagain, houter, hfollowed⟩ := h name hname
  exact ⟨outer, hreach, hagain.tail hturn, houter.trans hscope.symm, hfollowed⟩

theorem InProgress.cons
    {c : Frame}
    {names : List String}
    {name : String}
    (h : InProgress a c names)
    (hreach : Relation.ReflTransGen (TurnsTo lower) a b)
    (hturn : TurnsTo lower b c)
    (hscope : c.scope = b.scope)
    (hname : b.name? = some name) :
    InProgress a c (name :: names) := by
  intro n hn
  rcases List.mem_cons.1 hn with rfl | hn
  · exact ⟨b, hreach, .single hturn, hscope.symm, hname⟩
  · exact h n hn

/-- What lowering turns to fits in the room that is left when the name followed is blocked. -/
theorem room_of_turnsTo
    {c : Frame}
    {names : List String}
    (hturn : TurnsTo lower b c)
    (hname : ∀ name, b.name? = some name → name ∉ names) :
    c.type.size + b.scope.types.room (b.name?.toList ++ names) <
      b.type.size + b.scope.types.room names := by
  have hsize := hturn.descendsTo.beneath.size_lt
  cases hfollowed : b.name? with
  | none =>
      have hpeel := b.type.peelsTo_peel.size_le
      have htype : b.found.type = b.type.peel.type :=
        Environment.resolve_type_of_alias_none hfollowed
      rw [← htype] at hpeel
      change c.type.size + b.scope.types.room names < _
      omega
  | some name =>
      obtain ⟨u, hu, htype⟩ := Environment.resolve_type_of_alias_some hfollowed
      have htype : b.found.type = u.peel.type := htype
      have hpeel := u.peelsTo_peel.size_le
      rw [← htype] at hpeel
      have hroom := Environment.size_add_room_le hu (hname name hfollowed)
      change c.type.size + b.scope.types.room (name :: names) < _
      omega

/--
In a scope that lowering does not leave, or leaves only for what is not endless
without a name that is entered again, an endless lowering enters a name again.
-/
theorem reenters_of_endless_in
    {s : Scope}
    (hpassing : s.passing = s ∨
      ∀ c, Relation.ReflTransGen (TurnsTo lower) a c → c.scope = s.passing →
        c.Endless → a.Reenters)
    {names : List String}
    (hreach : Relation.ReflTransGen (TurnsTo lower) a b)
    (hscope : b.scope = s)
    (hprogress : InProgress a b names)
    (hend : b.Endless) :
    a.Reenters := by
  -- The measure is what is left of the annotation and of the names not yet followed.
  induction hn : b.type.size + b.scope.types.room names using Nat.strongRecOn
    generalizing b names with
  | _ n ih =>
  subst hn
  by_cases hagain : ∃ name, b.name? = some name ∧ name ∈ names
  · obtain ⟨name, hname, hmem⟩ := hagain
    obtain ⟨outer, houter, hchain, hsame, hfollowed⟩ := hprogress name hmem
    exact ⟨outer, b, name, houter, hchain, by rw [hsame], hfollowed, hname⟩
  · have hfresh : ∀ name, b.name? = some name → name ∉ names :=
      fun name hname hmem => hagain ⟨name, hname, hmem⟩
    obtain ⟨c, hturn, hc⟩ := hend.exists_turnsTo
    have hreachc := hreach.tail hturn
    by_cases hstay : c.scope = b.scope
    · have hroom := room_of_turnsTo hturn hfresh
      have hless : c.type.size + c.scope.types.room (b.name?.toList ++ names) <
          b.type.size + b.scope.types.room names := by
        rwa [hstay]
      refine ih _ hless hreachc (hstay.trans hscope) ?_ hc rfl
      cases hname : b.name? with
      | none => exact hprogress.turn hturn hstay
      | some name => exact (hprogress.turn hturn hstay).cons hreach hturn hstay hname
    · have hleave : c.scope = s.passing := by
        rw [← hscope]
        exact hturn.scope_eq.resolve_left hstay
      rcases hpassing with heq | hpassing
      · exact absurd (hleave.trans (heq.trans hscope.symm)) hstay
      · exact hpassing c hreachc hleave hc

theorem reenters_of_endless
    (h : a.Endless) :
    a.Reenters := by
  have hpassing : ∀ c, Relation.ReflTransGen (TurnsTo lower) a c →
      c.scope = a.scope.passing → c.Endless → a.Reenters :=
    fun c hreach hscope hc =>
      reenters_of_endless_in (.inl rfl) hreach hscope (nofun : InProgress a c []) hc
  exact reenters_of_endless_in (.inr hpassing) .refl rfl (nofun : InProgress a a []) h

/-- A lowering is endless exactly when it enters a name again. -/
theorem endless_iff_reenters :
    a.Endless ↔ a.Reenters :=
  ⟨reenters_of_endless, endless_of_reenters⟩

end Chains

end Frame

/-! ## Where no name reaches itself -/

namespace Environment

/-- Lowering the first annotation descends to the second, if it gets that far. -/
def LeadsTo
    (env : Environment)
    (t u : Ty) : Prop :=
  (env.resolve t).type.DescendsTo u

/-- Below the annotation, what a name stands for leads to the name again. -/
def Recurs
    (env : Environment)
    (t : Ty)
    (name : String) : Prop :=
  ∃ outer inner,
    Relation.ReflTransGen env.LeadsTo t outer ∧
    Relation.TransGen env.LeadsTo outer inner ∧
    (env.resolve outer).alias? = some name ∧ (env.resolve inner).alias? = some name

end Environment

namespace Frame

variable {a b : Frame}

theorem leadsTo_of_reaches
    (h : Relation.ReflTransGen (TurnsTo lower) a b) :
    b.scope.types = a.scope.types ∧
      Relation.ReflTransGen a.scope.types.LeadsTo a.type b.type := by
  induction h with
  | refl => exact ⟨rfl, .refl⟩
  | tail _ hstep ih =>
      obtain ⟨htypes, hleads⟩ := ih
      refine ⟨hstep.types_eq.trans htypes, hleads.tail ?_⟩
      rw [← htypes]
      exact hstep.descendsTo

theorem recurs_of_reenters
    (h : a.Reenters) :
    ∃ name, a.scope.types.Recurs a.type name := by
  obtain ⟨outer, inner, name, hreach, hagain, -, houter, hinner⟩ := h
  obtain ⟨mid, hturn, hrest⟩ := Relation.TransGen.head'_iff.1 hagain
  obtain ⟨htypes, hleads⟩ := leadsTo_of_reaches hreach
  obtain ⟨hmidtypes, hmidleads⟩ := leadsTo_of_reaches hrest
  have hrestTypes : inner.scope.types = a.scope.types :=
    hmidtypes.trans (hturn.types_eq.trans htypes)
  refine ⟨name, outer.type, inner.type, hleads, ?_, htypes ▸ houter, hrestTypes ▸ hinner⟩
  rw [hturn.types_eq, htypes] at hmidleads
  refine Relation.TransGen.head' ?_ hmidleads
  rw [← htypes]
  exact hturn.descendsTo

end Frame

/-! ## Cycles of aliases -/

namespace Environment

/-- Each of the names is an alias of one of them, nullable or not. -/
def AliasCycle
    (env : Environment)
    (names : List String) : Prop :=
  ∀ name, name ∈ names → ∃ decl next span,
    env.find? name = some (.typeAlias decl) ∧
    decl.type.peel.type = .reference next none span ∧ next ∈ names

/-- Following aliases of each other ends at a reference to one of them. -/
theorem AliasCycle.resolveWithin_type
    {env : Environment}
    {names : List String}
    (h : env.AliasCycle names)
    (budget : Nat)
    (followed : List String)
    {found : Resolved}
    {name : String}
    {span : Span}
    (hpeel : found.type.peel.type = .reference name none span)
    (hname : name ∈ names) :
    ∃ last inner,
      (env.resolveWithin budget followed found).type = .reference last none inner := by
  induction budget generalizing followed found name span with
  | zero =>
      refine ⟨name, span, ?_⟩
      simp [resolveWithin, hpeel]
  | succ budget ih =>
      cases htarget : env.target? followed found.type.peel.type with
      | none =>
          rw [resolveWithin_stop _ htarget]
          exact ⟨name, span, hpeel⟩
      | some target =>
          obtain ⟨n, t⟩ := target
          have htype := target?_eq_some htarget
          obtain rfl : name = n := by
            rw [hpeel] at htarget
            simp only [target?] at htarget
            split at htarget
            · cases htarget
            · obtain ⟨v, -, heq⟩ := Option.map_eq_some_iff.1 htarget
              exact congrArg Prod.fst heq
          obtain ⟨decl, next, inner, hdecl, hnext, hmem⟩ := h name hname
          obtain rfl : decl.type = t := by
            rw [typeOf?, hdecl] at htype
            exact Option.some.inj htype
          rw [resolveWithin_follow budget htarget]
          exact ih (name :: followed) hnext hmem

/-- A reference to an alias in a cycle stands for a reference. -/
theorem AliasCycle.resolve_type
    {env : Environment}
    {names : List String}
    (h : env.AliasCycle names)
    {t : Ty}
    {name : String}
    {typeArgs : Option (List Ty)}
    {span : Span}
    (hpeel : t.peel.type = .reference name typeArgs span)
    (hname : name ∈ names) :
    ∃ last inner, (env.resolve t).type = .reference last none inner := by
  obtain ⟨decl, next, inner, hdecl, hnext, hmem⟩ := h name hname
  have htype : env.typeOf? name = some decl.type := by
    rw [typeOf?, hdecl]
    rfl
  obtain ⟨budget, hfollow⟩ := resolve_follow hpeel htype
  rw [hfollow]
  exact h.resolveWithin_type budget [name] hnext hmem

end Environment

/-! ## Interfaces with a property of their own type -/

section SelfReference

variable {s : Scope} {channel : Nat}

open FaultContract (invariant invariant_sound)

/-- Where faults are captured, members that are lowered to an end give properties. -/
theorem exists_lowerMembers_eq_ok
    (hunions : s.types.Every (invariant s.moduleName).node)
    (hcapture : s.capture = .recoverable channel)
    {members : List Member}
    (hmembers : ∀ m, m ∈ members → (Node.member m).Every (invariant s.moduleName).node)
    (hend : (lowerMembers lower s members).Terminates) :
    ∃ shapes, (lowerMembers lower s members).outcome = .ok shapes := by
  have hsound := invariant_sound hunions
  unfold lowerMembers at hend ⊢
  rw [hcapture] at hend ⊢
  induction members with
  | nil =>
      exact ⟨[], rfl⟩
  | cons m members ih =>
      obtain ⟨hm, hrest⟩ := Lowering.terminates_collect_cons_iff.1 hend
      have hkeeps : (invariant s.moduleName).Keeps (invariant s.moduleName).Stored
          (lowerObjectMember lower s m) := by
        refine hsound.keeps_lowerObjectMember (hmembers m List.mem_cons_self) ?_
        rintro name u optional span rfl
        refine hsound.keeps_lower ((hmembers _ List.mem_cons_self).child ?_)
        simp [Node.children, Member.children]
      rw [Lowering.terminates_guard] at hm
      obtain ⟨o, ho⟩ := exists_guard_eq_ok channel hkeeps hm
      obtain ⟨shapes, hshapes⟩ :=
        ih (fun m' hm' => hmembers m' (List.mem_cons_of_mem m hm')) (hrest o ho)
      exact ⟨_, Lowering.outcome_collect_cons_iff.2 ⟨o, shapes, ho, hshapes, rfl⟩⟩

/-- A reference to an interface resolves to its members. -/
theorem resolve_interface
    {env : Environment}
    {name : String}
    {i : Interface}
    {t : Ty}
    {typeArgs : Option (List Ty)}
    {span : Span}
    (hname : env.find? name = some (.interface i))
    (hpeel : t.peel.type = .reference name typeArgs span) :
    (env.resolve t).type = .object i.members i.span ∧ (env.resolve t).alias? = some name := by
  have htype : env.typeOf? name = some (.object i.members i.span) := by
    rw [Environment.typeOf?, hname]
    rfl
  have hobject : (Ty.object i.members i.span).peel = ⟨false, .object i.members i.span⟩ := by
    simp [Ty.peel]
  rw [Environment.resolve_reference hpeel htype (by rw [hobject]; rfl), hobject]
  exact ⟨rfl, rfl⟩

/-- Where faults are captured, an interface with a property of its own type is endless. -/
theorem Frame.endless_of_selfReference
    (hunions : s.types.Every (invariant s.moduleName).node)
    (hcapture : s.capture = .recoverable channel)
    {name property : String}
    {i : Interface}
    {t u : Ty}
    {typeArgs typeArgs' : Option (List Ty)}
    {optional : Bool}
    {span span' inner : Span}
    (hname : s.types.find? name = some (.interface i))
    (hmem : .property property (some u) optional inner ∈ i.members)
    (hu : u.peel.type = .reference name typeArgs span)
    (ht : t.peel.type = .reference name typeArgs' span') :
    Frame.Endless ⟨s, t⟩ := by
  obtain ⟨htype, hfollowed⟩ := resolve_interface hname ht
  obtain ⟨-, hagain⟩ := resolve_interface hname hu
  by_contra hends
  rw [Frame.endless_iff, not_not] at hends
  have hall : (lowerMembers lower s i.members).Terminates := by
    have hstep : lower s t = lowerStep lower s t := lower_eq_lowerStep hends
    rw [← terminates_lowerMembers_iff htype, ← hstep]
    exact hends
  have hevery : ∀ m, m ∈ i.members → (Node.member m).Every (invariant s.moduleName).node := by
    intro m hm
    refine (hunions name (.object i.members i.span) ?_).child (List.mem_map.2 ⟨m, hm, rfl⟩)
    rw [Environment.typeOf?, hname]
    rfl
  obtain ⟨before, after, hsplit⟩ := List.append_of_mem hmem
  rw [hsplit] at hall htype
  obtain ⟨shapes, hshapes⟩ := exists_lowerMembers_eq_ok hunions hcapture
    (fun m hm => hevery m (hsplit ▸ List.mem_append_left _ hm))
    (Lowering.terminates_collect_of_append hall)
  have hturn : Frame.TurnsTo lower ⟨s, t⟩ ⟨s, u⟩ := .property htype hshapes
  refine Frame.endless_iff.1 (Frame.endless_of_reenters ?_) hends
  exact ⟨⟨s, t⟩, ⟨s, u⟩, name, .refl, .single hturn, rfl, hfollowed, hagain⟩

end SelfReference

/-! ## Termination -/

/--
Which lowerings in a scope are endless: those that enter a name again.  So none
is where no name reaches itself, nor at a cycle of aliases; but where faults are
captured, and no union is without members, an interface with a property of its
own type is.
-/
structure Scope.LoweringEnds (s : Scope) : Prop where
  outcome_iff : ∀ t, (lower s t).outcome = .error .endless ↔ Frame.Endless ⟨s, t⟩
  endless_iff : ∀ t, Frame.Endless ⟨s, t⟩ ↔ Frame.Reenters ⟨s, t⟩
  acyclic : ∀ t, (∀ name, ¬ s.types.Recurs t name) → ¬ Frame.Endless ⟨s, t⟩
  aliasCycle : ∀ names, s.types.AliasCycle names →
    ∀ t name typeArgs span, t.peel.type = .reference name typeArgs span → name ∈ names →
      ¬ Frame.Endless ⟨s, t⟩
  selfReference : ∀ channel, s.capture = .recoverable channel →
    s.types.Every (fun n => n.isEmptyUnion = false) →
    ∀ name i, s.types.find? name = some (.interface i) →
    ∀ property u optional inner, .property property (some u) optional inner ∈ i.members →
    ∀ typeArgs span, u.peel.type = .reference name typeArgs span →
    ∀ t typeArgs' span', t.peel.type = .reference name typeArgs' span' →
      Frame.Endless ⟨s, t⟩

theorem lowering_ends
    (s : Scope) :
    s.LoweringEnds where
  outcome_iff := by
    intro t
    rw [Frame.endless_iff]
    exact not_not.symm
  endless_iff := fun t => Frame.endless_iff_reenters
  acyclic := by
    intro t hnone hendless
    obtain ⟨name, hname⟩ := Frame.recurs_of_reenters (Frame.reenters_of_endless hendless)
    exact hnone name hname
  aliasCycle := by
    intro names hcycle t name typeArgs span hpeel hname hendless
    obtain ⟨last, inner, htype⟩ := hcycle.resolve_type hpeel hname
    obtain ⟨b, hturn, -⟩ := hendless.exists_turnsTo
    have hfound : (⟨s, t⟩ : Frame).found.type = .reference last none inner := htype
    refine Frame.not_turnsTo ?_ hturn
    rw [hfound]
    rfl
  selfReference := by
    intro channel hcapture hunions name i hname property u optional inner hmem typeArgs span hu
      t typeArgs' span' ht
    exact Frame.endless_of_selfReference hunions hcapture hname hmem hu ht

namespace TreeSpec

/-- An interface with a property that has a fault and one of its own type. -/
def tree : Interface :=
  ⟨"Tree", [],
    [.property "label" (some (.keyword "any" Span.none)) false Span.none,
      .property "child" (some (.reference "Tree" none Span.none)) true Span.none],
    Span.none⟩

/-- The interface, and two aliases of each other. -/
def program : Program :=
  ⟨[.declaration (.interface tree),
    .declaration (.typeAlias ⟨"Left", .reference "Right" none Span.none, Span.none⟩),
    .declaration (.typeAlias ⟨"Right", .reference "Left" none Span.none, Span.none⟩)],
    Span.none⟩

def scope : Scope :=
  memberScope "NativeTree" (Environment.ofProgram program) false

theorem aliasCycle :
    scope.types.AliasCycle ["Left", "Right"] := by
  intro name hname
  simp only [List.mem_cons, List.not_mem_nil, or_false] at hname
  rcases hname with rfl | rfl
  · exact ⟨⟨"Left", .reference "Right" none Span.none, Span.none⟩, "Right", Span.none,
      rfl, by simp [Ty.peel], by simp⟩
  · exact ⟨⟨"Right", .reference "Left" none Span.none, Span.none⟩, "Left", Span.none,
      rfl, by simp [Ty.peel], by simp⟩

theorem unionsInhabited :
    scope.types.Every fun n => n.isEmptyUnion = false := by
  have hunions : program.UnionsInhabited := by
    decide +kernel
  exact Environment.every_ofProgram hunions fun _ _ => rfl

end TreeSpec

/-- The interface is endless unless the fault is let through, and the aliases are not. -/
theorem treeSpec_lowering_ends :
    Frame.Endless ⟨TreeSpec.scope, .reference "Tree" none Span.none⟩ ∧
      Frame.Reenters ⟨TreeSpec.scope, .reference "Tree" none Span.none⟩ ∧
      ¬ Frame.Endless ⟨TreeSpec.scope.passing, .reference "Tree" none Span.none⟩ ∧
      ¬ Frame.Endless ⟨TreeSpec.scope, .reference "Left" none Span.none⟩ := by
  have hname : ∀ n, (Ty.reference n none Span.none).peel.type = .reference n none Span.none := by
    intro n
    simp [Ty.peel]
  have hcapturing := lowering_ends TreeSpec.scope
  have hendless : Frame.Endless ⟨TreeSpec.scope, .reference "Tree" none Span.none⟩ :=
    hcapturing.selfReference fileChannel rfl TreeSpec.unionsInhabited "Tree" TreeSpec.tree rfl
      "child" _ true Span.none (by simp [TreeSpec.tree]) none Span.none (hname "Tree")
      _ none Span.none (hname "Tree")
  refine ⟨hendless, (hcapturing.endless_iff _).1 hendless, ?_, ?_⟩
  · rw [← (lowering_ends TreeSpec.scope.passing).outcome_iff]
    have hend : (lower TreeSpec.scope.passing (.reference "Tree" none Span.none)).Terminates := by
      decide +kernel
    exact hend
  · exact hcapturing.aliasCycle _ TreeSpec.aliasCycle _ "Left" none Span.none (hname "Left")
      (by simp)

end ModuleSpec
