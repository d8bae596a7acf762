import ModuleSpec.Proofs.Bare.Tree
import ModuleSpec.Proofs.Lowering.Descent

/-!
# Bare trees and the comparison of trees

The comparison of trees passes over spans, and it compares numerals by value.  A
numeral that is not a number is the same as nothing, not even as itself.

**Results.**  Trees that are bare the same are the same to the comparison, as long
as no numeral in them is not a number (`Program.same_of_bare_eq`).
-/

namespace ModuleSpec

/-- Whether a node is a numeral that is not a number. -/
def Node.isNotANumber : Node → Bool
  | expr (.number x _) => x.isNotANumber
  | _ => false

/-- No numeral in the node or beneath it is not a number. -/
def Node.Numeric (n : Node) : Prop :=
  n.Every fun m => m.isNotANumber = false

/-- No numeral of the file is not a number. -/
def Program.Numeric (program : Program) : Prop :=
  (Node.program program).Numeric

section Lists

variable {α : Type} {same : α → α → Bool} {bare : α → α}

/-- Lists are compared entry by entry. -/
theorem sameAll_of_map_eq
    {sameAll : List α → List α → Bool}
    (hnil : sameAll [] [] = true)
    (hcons : ∀ a as b bs, sameAll (a :: as) (b :: bs) = (same a b && sameAll as bs))
    {as bs : List α}
    (h : as.map bare = bs.map bare)
    (hsame : ∀ a, a ∈ as → ∀ b, bare a = bare b → same a b = true) :
    sameAll as bs = true := by
  induction as generalizing bs with
  | nil =>
      cases bs with
      | nil => exact hnil
      | cons b bs => cases h
  | cons a as ih =>
      cases bs with
      | nil => cases h
      | cons b bs =>
          obtain ⟨hhead, htail⟩ := List.cons.inj h
          rw [hcons, hsame a List.mem_cons_self b hhead, Bool.true_and]
          exact ih htail fun c hc => hsame c (List.mem_cons_of_mem a hc)

/-- Optional nodes are compared when they are there. -/
theorem sameOption_of_map_eq
    {sameOption : Option α → Option α → Bool}
    (hnone : sameOption none none = true)
    (hsome : ∀ a b, sameOption (some a) (some b) = same a b)
    {o o' : Option α}
    (h : o.map bare = o'.map bare)
    (hsame : ∀ a, a ∈ o.toList → ∀ b, bare a = bare b → same a b = true) :
    sameOption o o' = true := by
  cases o with
  | none =>
      cases o' with
      | none => exact hnone
      | some b => cases h
  | some a =>
      cases o' with
      | none => cases h
      | some b =>
          rw [hsome]
          exact hsame a List.mem_cons_self b (Option.some.inj h)

end Lists

/-- The children of a node are the same as those that are bare the same. -/
def Node.ChildrenSame (n : Node) : Prop :=
  ∀ c, c ∈ n.children → ∀ c', c.bare = c'.bare → c.same c' = true

namespace Node.ChildrenSame

variable {n : Node}

theorem expr
    (h : n.ChildrenSame)
    {e e' : Expr}
    (he : .expr e ∈ n.children)
    (hbare : e.bare = e'.bare) :
    e.same e' = true := by
  have hsame := h _ he (.expr e') (congrArg Node.expr hbare)
  rwa [Node.same] at hsame

theorem type
    (h : n.ChildrenSame)
    {t t' : Ty}
    (ht : .type t ∈ n.children)
    (hbare : t.bare = t'.bare) :
    t.same t' = true := by
  have hsame := h _ ht (.type t') (congrArg Node.type hbare)
  rwa [Node.same] at hsame

theorem typeAll
    (h : n.ChildrenSame)
    {ts ts' : List Ty}
    (hts : ∀ t, t ∈ ts → .type t ∈ n.children)
    (hbare : ts.map Ty.bare = ts'.map Ty.bare) :
    Ty.sameAll ts ts' = true :=
  sameAll_of_map_eq (by rw [Ty.sameAll]) (fun _ _ _ _ => by rw [Ty.sameAll]) hbare
    fun t ht _ htbare => h.type (hts t ht) htbare

theorem typeArgs
    (h : n.ChildrenSame)
    {o o' : Option (List Ty)}
    (ho : ∀ t, t ∈ o.getD [] → .type t ∈ n.children)
    (hbare : o.map (List.map Ty.bare) = o'.map (List.map Ty.bare)) :
    Ty.sameArgs o o' = true := by
  cases o <;> cases o' <;> simp only [Option.map_none, Option.map_some, reduceCtorEq,
    Option.some.injEq] at hbare <;> rw [Ty.sameArgs]
  exact h.typeAll ho hbare

theorem typeOption
    (h : n.ChildrenSame)
    {o o' : Option Ty}
    (ho : ∀ t, t ∈ o.toList → .type t ∈ n.children)
    (hbare : o.map Ty.bare = o'.map Ty.bare) :
    Ty.sameOption o o' = true :=
  sameOption_of_map_eq (by rw [Ty.sameOption]) (fun _ _ => by rw [Ty.sameOption]) hbare
    fun t ht _ htbare => h.type (ho t ht) htbare

theorem exprOption
    (h : n.ChildrenSame)
    {o o' : Option Expr}
    (ho : ∀ e, e ∈ o.toList → .expr e ∈ n.children)
    (hbare : o.map Expr.bare = o'.map Expr.bare) :
    Expr.sameOption o o' = true :=
  sameOption_of_map_eq (by rw [Expr.sameOption]) (fun _ _ => by rw [Expr.sameOption]) hbare
    fun e he _ hebare => h.expr (ho e he) hebare

theorem paramAll
    (h : n.ChildrenSame)
    {ps ps' : List Param}
    (hps : ∀ p, p ∈ ps → .param p ∈ n.children)
    (hbare : ps.map Param.bare = ps'.map Param.bare) :
    Param.sameAll ps ps' = true := by
  refine sameAll_of_map_eq (by rw [Param.sameAll]) (fun _ _ _ _ => by rw [Param.sameAll]) hbare ?_
  intro p hp p' hpbare
  have hsame := h _ (hps p hp) (.param p') (congrArg Node.param hpbare)
  rwa [Node.same] at hsame

theorem memberAll
    (h : n.ChildrenSame)
    {ms ms' : List Member}
    (hms : ∀ m, m ∈ ms → .member m ∈ n.children)
    (hbare : ms.map Member.bare = ms'.map Member.bare) :
    Member.sameAll ms ms' = true := by
  refine sameAll_of_map_eq (by rw [Member.sameAll]) (fun _ _ _ _ => by rw [Member.sameAll]) hbare ?_
  intro m hm m' hmbare
  have hsame := h _ (hms m hm) (.member m') (congrArg Node.member hmbare)
  rwa [Node.same] at hsame

theorem nodeAll
    (h : n.ChildrenSame)
    {ns ns' : List Node}
    (hns : ∀ m, m ∈ ns → m ∈ n.children)
    (hbare : ns.map Node.bare = ns'.map Node.bare) :
    Node.sameAll ns ns' = true :=
  sameAll_of_map_eq (by rw [Node.sameAll]) (fun _ _ _ _ => by rw [Node.sameAll]) hbare
    fun m hm m' hmbare => h m (hns m hm) m' hmbare

end Node.ChildrenSame

/-! ## Sorts of nodes -/

theorem Expr.same_of_bare_eq
    {e e' : Expr}
    (hchildren : (Node.expr e).ChildrenSame)
    (hnumeric : (Node.expr e).isNotANumber = false)
    (h : e.bare = e'.bare) :
    e.same e' = true := by
  cases e <;> cases e' <;>
    simp only [Expr.bare, Expr.identifier.injEq, Expr.string.injEq, Expr.number.injEq,
      Expr.boolean.injEq, Expr.member.injEq, Expr.call.injEq, Expr.other.injEq,
      Expr.bareAll_eq_map, Ty.bareArgs_eq_map, Node.bareAll_eq_map, reduceCtorEq, and_true] at h
  case identifier | string | boolean => simp [Expr.same, h]
  case number =>
      simp only [Node.isNotANumber] at hnumeric
      simp [Expr.same, ← h, Double.sameNumber, hnumeric]
  case member object property computed span object' property' computed' span' =>
      obtain ⟨hobject, hproperty, rfl⟩ := h
      have hobject := hchildren.expr (by simp [Node.children, Expr.children]) hobject
      have hproperty := hchildren.expr (by simp [Node.children, Expr.children]) hproperty
      simp [Expr.same, hobject, hproperty]
  case call callee arguments typeArgs span callee' arguments' typeArgs' span' =>
      obtain ⟨hcallee, harguments, htypeArgs⟩ := h
      have hcallee := hchildren.expr (by simp [Node.children, Expr.children]) hcallee
      have harguments : Expr.sameAll arguments arguments' = true :=
        sameAll_of_map_eq (by rw [Expr.sameAll]) (fun _ _ _ _ => by rw [Expr.sameAll]) harguments
          fun a ha _ habare =>
            hchildren.expr (by simp [Node.children, Expr.children, ha]) habare
      have htypeArgs := hchildren.typeArgs
        (fun t ht => by simp [Node.children, Expr.children, ht]) htypeArgs
      simp [Expr.same, hcallee, harguments, htypeArgs]
  case other kind children span kind' children' span' =>
      obtain ⟨rfl, hnodes⟩ := h
      have hnodes := hchildren.nodeAll (fun m hm => by simpa [Node.children, Expr.children]) hnodes
      simp [Expr.same, hnodes]

theorem Ty.same_of_bare_eq
    {t t' : Ty}
    (hchildren : (Node.type t).ChildrenSame)
    (h : t.bare = t'.bare) :
    t.same t' = true := by
  cases t <;> cases t' <;>
    simp only [Ty.bare, Ty.keyword.injEq, Ty.reference.injEq, Ty.array.injEq, Ty.operator.injEq,
      Ty.literal.injEq, Ty.union.injEq, Ty.object.injEq, Ty.function.injEq, Ty.other.injEq,
      Ty.bareAll_eq_map, Ty.bareArgs_eq_map, Ty.bareOption_eq_map, Member.bareAll_eq_map,
      Param.bareAll_eq_map, reduceCtorEq, and_true] at h
  case keyword | other => simp [Ty.same, h]
  case reference name typeArgs span name' typeArgs' span' =>
      obtain ⟨rfl, htypeArgs⟩ := h
      have htypeArgs := hchildren.typeArgs
        (fun t ht => by simp [Node.children, Ty.children, ht]) htypeArgs
      simp [Ty.same, htypeArgs]
  case array element span element' span' =>
      have helement := hchildren.type (by simp [Node.children, Ty.children]) h
      simp [Ty.same, helement]
  case operator word operand span word' operand' span' =>
      obtain ⟨rfl, hoperand⟩ := h
      have hoperand := hchildren.type (by simp [Node.children, Ty.children]) hoperand
      simp [Ty.same, hoperand]
  case literal value span value' span' =>
      have hvalue := hchildren.expr (by simp [Node.children, Ty.children]) h
      simp [Ty.same, hvalue]
  case union members span members' span' =>
      have hmembers := hchildren.typeAll
        (fun t ht => by simp [Node.children, Ty.children, ht]) h
      simp [Ty.same, hmembers]
  case object members span members' span' =>
      have hmembers := hchildren.memberAll
        (fun m hm => by simp [Node.children, Ty.children, hm]) h
      simp [Ty.same, hmembers]
  case function params result span params' result' span' =>
      obtain ⟨hparams, hresult⟩ := h
      have hparams := hchildren.paramAll
        (fun p hp => by simp [Node.children, Ty.children, hp]) hparams
      have hresult := hchildren.typeOption
        (fun t ht => by simp [Node.children, Ty.children, Option.mem_toList.1 ht]) hresult
      simp [Ty.same, hparams, hresult]

theorem Member.same_of_bare_eq
    {m m' : Member}
    (hchildren : (Node.member m).ChildrenSame)
    (h : m.bare = m'.bare) :
    m.same m' = true := by
  cases m <;> cases m' <;>
    simp only [Member.bare, Member.property.injEq, Member.method.injEq, Member.other.injEq,
      Ty.bareOption_eq_map, Param.bareAll_eq_map, reduceCtorEq, and_true] at h
  case property name type optional span name' type' optional' span' =>
      obtain ⟨rfl, htype, rfl⟩ := h
      have htype := hchildren.typeOption
        (fun t ht => by simp [Node.children, Member.children, Option.mem_toList.1 ht]) htype
      simp [Member.same, htype]
  case method name params result optional span name' params' result' optional' span' =>
      obtain ⟨rfl, hparams, hresult, rfl⟩ := h
      have hparams := hchildren.paramAll
        (fun p hp => by simp [Node.children, Member.children, hp]) hparams
      have hresult := hchildren.typeOption
        (fun t ht => by simp [Node.children, Member.children, Option.mem_toList.1 ht]) hresult
      simp [Member.same, hparams, hresult]
  case other => simp [Member.same, h]

theorem Declaration.same_of_bare_eq
    {d d' : Declaration}
    (hchildren : (Node.statement (.declaration d)).ChildrenSame)
    (h : d.bare = d'.bare) :
    d.same d' = true := by
  obtain ⟨name, bases, members, span⟩ | ⟨name, type, span⟩ | ⟨name, members, span⟩ := d <;>
  obtain ⟨name', bases', members', span'⟩ | ⟨name', type', span'⟩ | ⟨name', members', span'⟩ := d' <;>
    simp only [Declaration.bare, Declaration.interface.injEq, Declaration.typeAlias.injEq,
      Declaration.enum.injEq, Interface.mk.injEq, TypeAlias.mk.injEq, Enum.mk.injEq,
      Base.bareAll_eq_map, Member.bareAll_eq_map, EnumMember.bareAll_eq_map, reduceCtorEq,
      and_true] at h
  case interface.interface =>
      obtain ⟨rfl, hbases, hmembers⟩ := h
      have hbases : Base.sameAll bases bases' = true := by
        refine sameAll_of_map_eq (by rw [Base.sameAll]) (fun _ _ _ _ => by rw [Base.sameAll])
          hbases ?_
        intro b hb b' hbbare
        have hsame := hchildren (.base b)
          (by simp [Node.children, Statement.children, Declaration.children, hb]) (.base b')
          (congrArg Node.base hbbare)
        rwa [Node.same] at hsame
      have hmembers := hchildren.memberAll
        (fun m hm => by simp [Node.children, Statement.children, Declaration.children, hm]) hmembers
      simp [Declaration.same, hbases, hmembers]
  case typeAlias.typeAlias =>
      obtain ⟨rfl, htype⟩ := h
      have htype := hchildren.type
        (by simp [Node.children, Statement.children, Declaration.children]) htype
      simp [Declaration.same, htype]
  case enum.enum =>
      obtain ⟨rfl, hmembers⟩ := h
      have hmembers : EnumMember.sameAll members members' = true := by
        refine sameAll_of_map_eq (by rw [EnumMember.sameAll])
          (fun _ _ _ _ => by rw [EnumMember.sameAll]) hmembers ?_
        intro m hm m' hmbare
        have hsame := hchildren (.enumMember m)
          (by simp [Node.children, Statement.children, Declaration.children, hm]) (.enumMember m')
          (congrArg Node.enumMember hmbare)
        rwa [Node.same] at hsame
      simp [Declaration.same, hmembers]

theorem Statement.same_of_bare_eq
    {s s' : Statement}
    (hchildren : (Node.statement s).ChildrenSame)
    (h : s.bare = s'.bare) :
    s.same s' = true := by
  cases s <;> cases s' <;>
    simp only [Statement.bare, Statement.declaration.injEq, Statement.expression.injEq,
      Statement.bindings.injEq, Statement.exportDefault.injEq, Statement.other.injEq,
      Declarator.bareAll_eq_map, Node.bareAll_eq_map, reduceCtorEq, and_true] at h
  case declaration => simp [Statement.same, Declaration.same_of_bare_eq hchildren h]
  case expression | exportDefault =>
      have hvalue := hchildren.expr (by simp [Node.children, Statement.children]) h
      simp [Statement.same, hvalue]
  case bindings declarators span declarators' span' =>
      have hdeclarators : Declarator.sameAll declarators declarators' = true := by
        refine sameAll_of_map_eq (by rw [Declarator.sameAll])
          (fun _ _ _ _ => by rw [Declarator.sameAll]) h ?_
        intro d hd d' hdbare
        have hsame := hchildren (.declarator d)
          (by simp [Node.children, Statement.children, hd]) (.declarator d')
          (congrArg Node.declarator hdbare)
        rwa [Node.same] at hsame
      simp [Statement.same, hdeclarators]
  case other kind children span kind' children' span' =>
      obtain ⟨rfl, hnodes⟩ := h
      have hnodes := hchildren.nodeAll
        (fun m hm => by simpa [Node.children, Statement.children]) hnodes
      simp [Statement.same, hnodes]

/-- Nodes that are bare the same are the same to the comparison. -/
theorem Node.same_of_bare_eq
    {n n' : Node}
    (h : n.bare = n'.bare)
    (hnumeric : n.Numeric) :
    n.same n' = true := by
  induction n using Node.induction generalizing n' with
  | h n ih =>
      have hchildren : n.ChildrenSame :=
        fun c hc c' hbare => ih c hc hbare (hnumeric.child hc)
      cases n <;> cases n' <;>
        simp only [Node.bare, Node.expr.injEq, Node.type.injEq, Node.param.injEq,
          Node.member.injEq, Node.base.injEq, Node.enumMember.injEq, Node.declarator.injEq,
          Node.statement.injEq, Node.program.injEq, reduceCtorEq] at h <;>
        rw [Node.same]
      case expr => exact Expr.same_of_bare_eq hchildren hnumeric.self h
      case type => exact Ty.same_of_bare_eq hchildren h
      case member => exact Member.same_of_bare_eq hchildren h
      case statement => exact Statement.same_of_bare_eq hchildren h
      case param p p' =>
          obtain ⟨name, type, optional, span⟩ := p
          obtain ⟨name', type', optional', span'⟩ := p'
          simp only [Param.bare, Param.mk.injEq, Ty.bareOption_eq_map, and_true] at h
          obtain ⟨rfl, htype, rfl⟩ := h
          have htype := hchildren.typeOption (fun t ht => by simpa [Node.children] using ht) htype
          simp [Param.same, htype]
      case base b b' =>
          obtain ⟨name, typeArgs, span⟩ := b
          obtain ⟨name', typeArgs', span'⟩ := b'
          simp only [Base.bare, Base.mk.injEq, Ty.bareArgs_eq_map, and_true] at h
          obtain ⟨rfl, htypeArgs⟩ := h
          have htypeArgs := hchildren.typeArgs
            (fun t ht => by simpa [Node.children] using ht) htypeArgs
          simp [Base.same, htypeArgs]
      case enumMember m m' =>
          obtain ⟨name, value, span⟩ := m
          obtain ⟨name', value', span'⟩ := m'
          simp only [EnumMember.bare, EnumMember.mk.injEq, Expr.bareOption_eq_map, and_true] at h
          obtain ⟨rfl, hvalue⟩ := h
          have hvalue := hchildren.exprOption
            (fun e he => by simpa [Node.children] using he) hvalue
          simp [EnumMember.same, hvalue]
      case declarator d d' =>
          obtain ⟨name, value, span⟩ := d
          obtain ⟨name', value', span'⟩ := d'
          simp only [Declarator.bare, Declarator.mk.injEq, Expr.bareOption_eq_map, and_true] at h
          obtain ⟨rfl, hvalue⟩ := h
          have hvalue := hchildren.exprOption
            (fun e he => by simpa [Node.children] using he) hvalue
          simp [Declarator.same, hvalue]
      case program p p' =>
          obtain ⟨body, span⟩ := p
          obtain ⟨body', span'⟩ := p'
          simp only [Program.bare, Program.mk.injEq, Statement.bareAll_eq_map, and_true] at h
          rw [Program.same]
          refine sameAll_of_map_eq (by rw [Statement.sameAll])
            (fun _ _ _ _ => by rw [Statement.sameAll]) h ?_
          intro s hs s' hsbare
          have hsame := hchildren (.statement s) (by simpa [Node.children] using hs) (.statement s')
            (congrArg Node.statement hsbare)
          rwa [Node.same] at hsame

/-- Files that are bare the same are the same to the comparison. -/
theorem Program.same_of_bare_eq
    {program program' : Program}
    (h : program.bare = program'.bare)
    (hnumeric : program.Numeric) :
    program.same program' = true := by
  have hbare : (Node.program program).bare = (Node.program program').bare :=
    congrArg Node.program h
  have hsame := Node.same_of_bare_eq hbare hnumeric
  rwa [Node.same] at hsame

end ModuleSpec
