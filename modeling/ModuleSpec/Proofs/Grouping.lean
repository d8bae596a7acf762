import ModuleSpec.Proofs.Concrete.Bases
import ModuleSpec.Resolution

/-!
# Groups in unions

A union of several types is a tree of unions of two in the source, and there may be
parentheses anywhere in it.  The members of a union are read through the unions in
it.  Parentheses are left out where a type is read, but no union is looked for inside
them, so a union in parentheses becomes one member of the union around it.

**Idea.**  Two lists of nodes are compared: the operands of a union, which are
reached through unions alone, and its leaves, which are reached through parentheses
too.  The members are the readings of the operands, one for one.

**Results.**  `grouped_union` says what a union is read as, and that it has the
readings of its leaves for its members when no operand is a union in parentheses.
With such an operand it has not (`not_forall_members_are_leaves`).
-/

namespace ModuleSpec

/-! ## Members of unions within unions -/

mutual

/-- The members of a union, with those of the unions among them in their place. -/
def Ty.spread : Ty → List Ty
  | .union members _ => Ty.spreadAll members
  | t => [t]

def Ty.spreadAll : List Ty → List Ty
  | [] => []
  | t :: ts => t.spread ++ Ty.spreadAll ts

end

def Ty.isUnion : Ty → Bool
  | .union .. => true
  | _ => false

theorem Ty.spreadAll_eq_flatMap
    (ts : List Ty) :
    Ty.spreadAll ts = ts.flatMap Ty.spread := by
  induction ts with
  | nil => rfl
  | cons t ts ih => rw [Ty.spreadAll, ih, List.flatMap_cons]

namespace Concrete

namespace Node

/-! ## Operands and leaves -/

mutual

/-- The nodes that are reached through those that a test picks, in order. -/
def through (opens : Node → Bool) : Node → List Node
  | n@(.mk _ _ _ _ _ children) => if opens n then throughAll opens children else [n]

def throughAll (opens : Node → Bool) : List Node → List Node
  | [] => []
  | c :: cs =>
      if c.isNamed && c.kind != "comment" then
        c.through opens ++ throughAll opens cs
      else
        throughAll opens cs

end

def isUnion (n : Node) : Bool := n.kind == "union_type"

/-- Whether the node is a pair of parentheses around one type. -/
def isGroup (n : Node) : Bool :=
  n.kind == "parenthesized_type" && n.namedChildren.length == 1

/-- The operands of a union, those of the unions in it in their place. -/
def operands (n : Node) : List Node := n.through isUnion

/-- What unions and parentheses are around, in the order of the source. -/
def leaves (n : Node) : List Node := n.through fun m => m.isUnion || m.isGroup

/-- What the parentheses around a type are around. -/
def core (n : Node) : Node := (n.through isGroup).headD n

theorem throughAll_eq_flatMap
    (opens : Node → Bool)
    (cs : List Node) :
    throughAll opens cs =
      (cs.filter fun c => c.isNamed && c.kind != "comment").flatMap (through opens) := by
  induction cs with
  | nil => rfl
  | cons c cs ih =>
      rw [throughAll, ih]
      by_cases hc : (c.isNamed && c.kind != "comment") = true
      · rw [if_pos hc, List.filter_cons_of_pos (by exact hc), List.flatMap_cons]
      · rw [if_neg hc, List.filter_cons_of_neg (by exact hc)]

theorem through_eq
    (opens : Node → Bool)
    (n : Node) :
    n.through opens = if opens n then n.namedChildren.flatMap (through opens) else [n] := by
  obtain ⟨kind, named, field, start, stop, children⟩ := n
  rw [through, throughAll_eq_flatMap]
  rfl

section Through

variable {opens : Node → Bool} {n c : Node}

theorem through_of_opens
    (h : opens n = true) :
    n.through opens = n.namedChildren.flatMap (through opens) := by
  rw [through_eq, if_pos h]

theorem through_of_not_opens
    (h : opens n = false) :
    n.through opens = [n] := by
  rw [through_eq, if_neg (by simp [h])]

theorem mem_children_of_mem_namedChildren
    (h : c ∈ n.namedChildren) :
    c ∈ n.children :=
  (List.mem_filter.1 h).1

theorem exists_inner_of_isGroup
    (h : n.isGroup = true) :
    n.kind = "parenthesized_type" ∧ ∃ c, n.namedChildren = [c] := by
  simp only [isGroup, Bool.and_eq_true, beq_iff_eq] at h
  exact ⟨h.1, List.length_eq_one_iff.1 h.2⟩

/-- A node is no pair of parentheses, or there is a node inside. -/
theorem group_induction
    {motive : Node → Prop}
    (plain : ∀ n, n.isGroup = false → motive n)
    (group : ∀ n c, n.isGroup = true → n.namedChildren = [c] → motive c → motive n)
    (n : Node) :
    motive n := by
  induction n using Node.induction with
  | h n ih =>
      cases hn : n.isGroup with
      | false => exact plain n hn
      | true =>
          obtain ⟨-, c, hc⟩ := exists_inner_of_isGroup hn
          have hmem : c ∈ n.namedChildren := hc ▸ List.mem_cons_self
          exact group n c hn hc (ih c (mem_children_of_mem_namedChildren hmem))

/-- Through parentheses alone one node is reached. -/
theorem through_isGroup
    (n : Node) :
    n.through isGroup = [n.core] := by
  induction n using group_induction with
  | plain n hn => rw [core, through_of_not_opens hn, List.headD_cons]
  | group n c hn hc ih =>
      rw [core, through_of_opens hn, hc, List.flatMap_singleton, ih, List.headD_cons]

theorem core_of_group
    (h : n.isGroup = true)
    (hc : n.namedChildren = [c]) :
    n.core = c.core := by
  have hthrough := n.through_isGroup
  rw [through_of_opens h, hc, List.flatMap_singleton, through_isGroup] at hthrough
  exact (List.cons.inj hthrough).1.symm

theorem core_of_not_group
    (h : n.isGroup = false) :
    n.core = n := by
  rw [core, through_of_not_opens h, List.headD_cons]

/-- The leaves of a union are those of its operands. -/
theorem leaves_eq_flatMap_operands
    (n : Node) :
    n.leaves = n.operands.flatMap leaves := by
  induction n using Node.induction with
  | h n ih =>
      cases hn : n.isUnion with
      | false => rw [operands, through_of_not_opens hn, List.flatMap_singleton]
      | true =>
          rw [operands, through_of_opens hn, leaves, through_of_opens (by simp [hn]),
            List.flatMap_assoc, List.flatMap_def, List.flatMap_def]
          refine congrArg List.flatten (List.map_congr_left fun c hc => ?_)
          exact ih c (mem_children_of_mem_namedChildren hc)

theorem leaves_of_group
    (h : n.isGroup = true)
    (hc : n.namedChildren = [c]) :
    n.leaves = c.leaves := by
  rw [leaves, through_of_opens (by simp [h]), hc, List.flatMap_singleton]
  rfl

/-- Parentheses that are not around a union are around one leaf. -/
theorem leaves_of_core
    (h : n.core.isUnion = false) :
    n.leaves = [n.core] := by
  induction n using group_induction with
  | plain n hn =>
      rw [core_of_not_group hn] at h ⊢
      rw [leaves, through_of_not_opens (by simp [h, hn])]
  | group n c hn hc ih =>
      rw [core_of_group hn hc] at h ⊢
      rw [leaves_of_group hn hc]
      exact ih h

theorem isGroup_core
    (n : Node) :
    n.core.isGroup = false := by
  induction n using group_induction with
  | plain n hn => rwa [core_of_not_group hn]
  | group n c hn hc ih => rwa [core_of_group hn hc]

end Through

/-! ## What operands and leaves are read as -/

/-- What nodes are read as, one after the other. -/
def readTypes (source : Source) (ns : List Node) : Read (List Ty) :=
  ns.mapM fun n => (n.read source).type

section Reading

variable {source : Source} {n c : Node}

theorem readTypes_flatMap
    (g : Node → List Node)
    (ns : List Node) :
    readTypes source (ns.flatMap g) =
      (ns.mapM fun n => readTypes source (g n)).map List.flatten :=
  mapM_flatMap _ g ns

theorem spread_readTypes_flatMap
    (g : Node → List Node)
    (ns : List Node) :
    (readTypes source (ns.flatMap g)).map (List.flatMap Ty.spread) =
      (ns.mapM fun n => (readTypes source (g n)).map (List.flatMap Ty.spread)).map
        List.flatten := by
  rw [readTypes_flatMap, mapM_map]
  cases ns.mapM fun n => readTypes source (g n) with
  | error e => rfl
  | ok tss =>
      refine congrArg Except.ok ?_
      rw [← List.flatMap_id, List.flatMap_assoc]
      rfl

theorem readTypes_singleton
    (n : Node) :
    readTypes source [n] = (n.read source).type.map fun t => [t] := by
  rw [readTypes, List.mapM_cons, List.mapM_nil]
  cases (n.read source).type <;> rfl

theorem type_group
    (hn : n.isGroup = true)
    (hc : n.namedChildren = [c]) :
    (n.read source).type = (c.read source).type := by
  have hkind := (exists_inner_of_isGroup hn).1
  rw [read_eq]
  change readType _ _ = _
  simp only [readType, kind_head, hkind, named_map_read, hc, List.map_cons, List.map_nil]

/-- Parentheses are left out where a type is read. -/
theorem type_core
    (source : Source)
    (n : Node) :
    (n.core.read source).type = (n.read source).type := by
  induction n using group_induction with
  | plain n hn => rw [core_of_not_group hn]
  | group n c hn hc ih => rw [core_of_group hn hc, type_group hn hc, ih]

/-- The members of a union are what its operands are read as. -/
theorem unionMembers_eq
    (h : n.isUnion = true) :
    (n.read source).unionMembers = readTypes source n.operands := by
  induction n using Node.induction with
  | h n ih =>
      have hgroup : ∀ c, c ∈ n.namedChildren →
          (if (c.read source).kind = "union_type" then (c.read source).unionMembers
            else (c.read source).type.map fun t => [t]) = readTypes source c.operands := by
        intro c hc
        rw [kind_read]
        cases hunion : c.isUnion with
        | true =>
            rw [if_pos (by simpa [isUnion] using hunion)]
            exact ih c (mem_children_of_mem_namedChildren hc) hunion
        | false =>
            rw [if_neg (by simpa [isUnion] using hunion), operands, through_of_not_opens hunion,
              readTypes_singleton]
      rw [read_eq]
      change readUnionMembers _ = _
      rw [readUnionMembers, Children.readNamed, named_map_read, List.mapM_map, operands,
        through_of_opens h, readTypes_flatMap]
      exact congrArg (· >>= fun groups => .ok groups.flatten) (mapM_congr hgroup)

/-- A union is read as the union of what its operands are read as. -/
theorem type_union
    (h : n.isUnion = true) :
    (n.read source).type = (readTypes source n.operands).map (.union · (n.span source)) := by
  have hkind : n.kind = "union_type" := by simpa [isUnion] using h
  rw [← unionMembers_eq h, read_eq]
  change readType _ _ = _
  simp only [readType, kind_head, hkind]
  rfl

theorem isUnion_of_map
    {α : Type}
    {x : Read α}
    {f : α → Ty}
    {t : Ty}
    (h : x.map f = .ok t)
    (hf : ∀ a, (f a).isUnion = false) :
    t.isUnion = false := by
  obtain ⟨a, -, rfl⟩ := map_eq_ok_iff.1 h
  exact hf a

theorem isUnion_of_readLiteralType
    {head : Head}
    {children : Children}
    {t : Ty}
    (h : readLiteralType head children = .ok t) :
    t.isUnion = false := by
  unfold readLiteralType at h
  split at h
  · cases h
    rfl
  · split at h
    · cases h
      rfl
    · exact isUnion_of_map h fun _ => rfl

/-- Nothing is read as a union but unions and what is around a single type. -/
theorem isUnion_of_type
    {t : Ty}
    (hn : n.isUnion = false)
    (hgroup : n.isGroup = false)
    (hplain : n.kind ≠ "type_annotation")
    (ht : (n.read source).type = .ok t) :
    t.isUnion = false := by
  rw [read_eq] at ht
  change readType _ _ = _ at ht
  unfold readType at ht
  simp only [kind_head, named_map_read] at ht
  split at ht
  case h_6 | h_7 | h_8 =>
    split at ht
    · cases ht
      rfl
    · exact isUnion_of_map ht fun _ => rfl
  case h_9 => exact isUnion_of_readLiteralType ht
  case h_10 hkind => simp [isUnion, hkind] at hn
  case h_11 hkind =>
    split at ht
    · rename_i inner hinner
      have hlength : n.namedChildren.length = 1 := by
        simpa using congrArg List.length hinner
      simp [isGroup, hkind, hlength] at hgroup
    · cases ht
      rfl
  case h_13 =>
    obtain ⟨params, -, ht⟩ := bind_eq_ok_iff.1 ht
    obtain ⟨result, -, ht⟩ := bind_eq_ok_iff.1 ht
    cases ht
    rfl
  case h_14 hkind => exact absurd hkind hplain
  case h_15 =>
    cases ht
    rfl
  all_goals exact isUnion_of_map ht fun _ => rfl

/-! ## Flat unions -/

/-- What a type spreads to is what its operands spread to. -/
theorem spread_type_eq_operands
    (source : Source)
    (n : Node) :
    (n.read source).type.map Ty.spread =
      (readTypes source n.operands).map (List.flatMap Ty.spread) := by
  cases hn : n.isUnion with
  | false =>
      rw [operands, through_of_not_opens hn, readTypes_singleton]
      cases (n.read source).type with
      | error e => rfl
      | ok t => exact congrArg Except.ok (List.flatMap_singleton Ty.spread t).symm
  | true =>
      rw [type_union hn]
      cases readTypes source n.operands with
      | error e => rfl
      | ok ts => exact congrArg Except.ok (Ty.spreadAll_eq_flatMap ts)

/-- Whatever its groups, a type spreads to what its leaves spread to, in order. -/
theorem spread_type
    (source : Source)
    (n : Node) :
    (n.read source).type.map Ty.spread =
      (readTypes source n.leaves).map (List.flatMap Ty.spread) := by
  induction n using Node.induction with
  | h n ih =>
      cases hn : n.isUnion with
      | true =>
          have hchildren : ∀ c, c ∈ n.namedChildren →
              (readTypes source c.operands).map (List.flatMap Ty.spread) =
                (readTypes source c.leaves).map (List.flatMap Ty.spread) := by
            intro c hc
            rw [← spread_type_eq_operands, ih c (mem_children_of_mem_namedChildren hc)]
          rw [spread_type_eq_operands, operands, leaves, through_of_opens hn,
            through_of_opens (by simp [hn]), spread_readTypes_flatMap, spread_readTypes_flatMap]
          exact congrArg (Except.map List.flatten) (mapM_congr hchildren)
      | false =>
          cases hgroup : n.isGroup with
          | true =>
              obtain ⟨-, c, hc⟩ := exists_inner_of_isGroup hgroup
              rw [type_group hgroup hc, leaves_of_group hgroup hc]
              exact ih c (mem_children_of_mem_namedChildren (hc ▸ List.mem_cons_self))
          | false =>
              rw [spread_type_eq_operands, operands, leaves, through_of_not_opens hn,
                through_of_not_opens (by simp [hn, hgroup])]

/-- What a union is read as, by its operands and by its leaves. -/
structure GroupedUnion
    (source : Source)
    (n : Node) : Prop where
  members : (n.read source).type =
    (readTypes source n.operands).map (.union · (n.span source))
  operand : ∀ c, c ∈ n.operands → (c.read source).type = (c.core.read source).type
  spread : (n.read source).type.map Ty.spread =
    (readTypes source n.leaves).map (List.flatMap Ty.spread)
  flat : (∀ c, c ∈ n.operands → c.core.isUnion = false) →
    (n.read source).type = (readTypes source n.leaves).map (.union · (n.span source))
  nested : (∀ l, l ∈ n.leaves → l.kind ≠ "type_annotation") →
    ∀ ts span, (n.read source).type = .ok (.union ts span) →
      ((∃ t, t ∈ ts ∧ t.isUnion = true) ↔ ∃ c, c ∈ n.operands ∧ c.core.isUnion = true)

/-- Without unions in parentheses the members of a union are what its leaves are read as. -/
theorem type_union_of_flat
    (hn : n.isUnion = true)
    (hflat : ∀ c, c ∈ n.operands → c.core.isUnion = false) :
    (n.read source).type = (readTypes source n.leaves).map (.union · (n.span source)) := by
  have hleaves : n.leaves = n.operands.map core := by
    rw [leaves_eq_flatMap_operands, List.map_eq_flatMap, List.flatMap_def, List.flatMap_def]
    exact congrArg List.flatten (List.map_congr_left fun c hc => leaves_of_core (hflat c hc))
  have hsame : readTypes source n.leaves = readTypes source n.operands := by
    rw [hleaves, readTypes, List.mapM_map]
    exact mapM_congr fun c _ => type_core source c
  rw [hsame, type_union hn]

/-- A member of a union is a union just when it is read from a union in parentheses. -/
theorem exists_isUnion_iff
    (hn : n.isUnion = true)
    (hleaves : ∀ l, l ∈ n.leaves → l.kind ≠ "type_annotation")
    {ts : List Ty}
    {span : Span}
    (h : (n.read source).type = .ok (.union ts span)) :
    (∃ t, t ∈ ts ∧ t.isUnion = true) ↔ ∃ c, c ∈ n.operands ∧ c.core.isUnion = true := by
  rw [type_union hn] at h
  obtain ⟨ts', hts, heq⟩ := map_eq_ok_iff.1 h
  cases heq
  constructor
  · rintro ⟨t, ht, hunion⟩
    obtain ⟨c, hc, hread⟩ := exists_of_mem_mapM hts ht
    refine ⟨c, hc, ?_⟩
    cases hcore : c.core.isUnion with
    | true => rfl
    | false =>
        have hmem : c.core ∈ n.leaves := by
          rw [leaves_eq_flatMap_operands]
          exact List.mem_flatMap.2 ⟨c, hc, leaves_of_core hcore ▸ List.mem_cons_self⟩
        rw [← type_core] at hread
        rw [isUnion_of_type hcore c.isGroup_core (hleaves _ hmem) hread] at hunion
        cases hunion
  · rintro ⟨c, hc, hcore⟩
    obtain ⟨t, ht, hread⟩ := exists_mem_of_mapM hts hc
    rw [← type_core, type_union hcore] at hread
    obtain ⟨us, -, rfl⟩ := map_eq_ok_iff.1 hread
    exact ⟨_, ht, rfl⟩

/--
The members of a union are read through unions and not through parentheses; spread out, they are
those of the leaves in order.
-/
theorem grouped_union
    (source : Source)
    (n : Node)
    (hn : n.isUnion = true) :
    GroupedUnion source n where
  members := type_union hn
  operand := fun c _ => (type_core source c).symm
  spread := spread_type source n
  flat := type_union_of_flat hn
  nested := fun hleaves _ _ h => exists_isUnion_iff hn hleaves h

end Reading

end Node

/-! ## A union in parentheses -/

namespace GroupSpec

def source : Source :=
  .ofString "string | (number | null)"

def word (text : String) (start stop : Nat) : Node :=
  .mk "predefined_type" true none start stop [.mk text false none start stop []]

def bar (start : Nat) : Node :=
  .mk "|" false none start (start + 1) []

def absent : Node :=
  .mk "literal_type" true none 19 23 [.mk "null" true none 19 23 []]

def group : Node :=
  .mk "parenthesized_type" true none 9 24
    [.mk "(" false none 9 10 [],
      .mk "union_type" true none 10 23 [word "number" 10 16, bar 17, absent],
      .mk ")" false none 23 24 []]

/-- A union whose second operand is a union in parentheses. -/
def root : Node :=
  .mk "union_type" true none 0 24 [word "string" 0 6, bar 7, group]

/-- The kinds of the members of a union. -/
def memberKinds : Ty → List String
  | .union members _ => members.map Ty.kind
  | _ => []

end GroupSpec

theorem groupSpec_grouped :
    GroupSpec.root.isUnion = true ∧ Node.GroupedUnion GroupSpec.source GroupSpec.root ∧
      GroupSpec.root.operands.map Node.kind = ["predefined_type", "parenthesized_type"] ∧
      GroupSpec.root.leaves.map Node.kind =
        ["predefined_type", "predefined_type", "literal_type"] := by
  have hunion : GroupSpec.root.isUnion = true := by
    decide
  exact ⟨hunion, Node.grouped_union _ _ hunion, by decide, by decide⟩

/-- A union in parentheses is one member, and the null in it does not count for the whole. -/
theorem not_forall_members_are_leaves :
    (¬ ∀ (source : Source) (n : Node) (ts : List Ty) (span : Span), n.isUnion = true →
      (n.read source).type = .ok (.union ts span) →
        Node.readTypes source n.leaves = .ok ts) ∧
      ∃ t, (GroupSpec.root.read GroupSpec.source).type = .ok t ∧ t.peel.nullable = false := by
  have hnullable : (GroupSpec.root.read GroupSpec.source).type.toOption.map
      (fun t => t.peel.nullable) = some false := by
    decide +kernel
  refine ⟨fun hall => ?_, exists_eq_ok_of_toOption hnullable⟩
  have hkinds : (GroupSpec.root.read GroupSpec.source).type.toOption.map GroupSpec.memberKinds =
      some ["KeywordType", "UnionType"] := by
    decide +kernel
  have hleaves : (Node.readTypes GroupSpec.source GroupSpec.root.leaves).toOption.map
      (List.map Ty.kind) = some ["KeywordType", "KeywordType", "KeywordType"] := by
    decide +kernel
  obtain ⟨t, ht, hmembers⟩ := exists_eq_ok_of_toOption hkinds
  cases t with
  | union ts span =>
      have hread := hall _ _ ts span (by decide) ht
      rw [hread] at hleaves
      exact absurd ((Option.some.inj hleaves).symm.trans hmembers) (by decide)
  | _ => cases hmembers

end Concrete

end ModuleSpec
