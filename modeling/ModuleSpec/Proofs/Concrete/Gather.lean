import ModuleSpec.Proofs.Concrete.Kept
import ModuleSpec.Proofs.Result

/-!
# The calls that a reading gathers

**Results.**  The calls in what a node is read as are those in what its kept
children are read as, in order, and before them the node itself if it is a call
(`gathers_kept`).  There is one lemma for each rule of reading.
-/

namespace ModuleSpec

namespace Concrete

open ModuleSpec.Node (calls calls_singleton callSpan?)

/-! ## Gathering calls -/

/-- The calls in what some parts are read as, one part after the other. -/
inductive Gathers : List Part → List Span → Prop
  | nil :
      Gathers [] []
  | cons
      {p : Part}
      {ps : List Part}
      {ns : List ModuleSpec.Node}
      {spans : List Span}
      (hp : p.nodes = .ok ns)
      (hps : Gathers ps spans) :
      Gathers (p :: ps) (calls ns ++ spans)

namespace Gathers

section Rules

variable {α : Type} {role : Role} {f : Reading → Read α} {tree : α → List ModuleSpec.Node}

theorem append
    {ps qs : List Part}
    {spans spans' : List Span}
    (hps : Gathers ps spans)
    (hqs : Gathers qs spans') :
    Gathers (ps ++ qs) (spans ++ spans') := by
  induction hps with
  | nil =>
      exact hqs
  | cons hp _ ih =>
      rw [List.cons_append, List.append_assoc]
      exact .cons hp ih

theorem one
    {p : Part}
    {ns : List ModuleSpec.Node}
    (hp : p.nodes = .ok ns) :
    Gathers [p] (calls ns) := by
  have hgathers := Gathers.cons hp .nil
  rwa [List.append_nil] at hgathers

theorem of_mapM
    {part : Reading → Part}
    (hpart : ∀ r, (part r).nodes = (f r).map tree)
    {rs : List Reading}
    {as : List α}
    (h : rs.mapM f = .ok as) :
    Gathers (rs.map part) (calls (as.flatMap tree)) := by
  induction rs generalizing as with
  | nil =>
      cases h
      exact .nil
  | cons r rs ih =>
      obtain ⟨a, as, ha, has, rfl⟩ := mapM_cons_eq_ok_iff.1 h
      rw [List.map_cons, List.flatMap_cons, Node.calls_append]
      exact .cons ((hpart r).trans (congrArg (Except.map tree) ha)) (ih has)

/-- Some children in one role, each read as one abstract node. -/
theorem of_each
    {node : α → ModuleSpec.Node}
    (hpart : ∀ r, (Part.mk role r).nodes = (f r).map fun a => [node a])
    {rs : List Reading}
    {as : List α}
    (h : rs.mapM f = .ok as) :
    Gathers (rs.map (Part.mk role)) (calls (as.map node)) := by
  have hgathers := of_mapM hpart h
  rwa [← List.map_eq_flatMap] at hgathers

/-- An optional child that is read as one abstract node. -/
theorem of_optional
    {node : α → ModuleSpec.Node}
    (hpart : ∀ r, (Part.mk role r).nodes = (f r).map fun a => [node a])
    {r : Option Reading}
    {o : Option α}
    (h : readOption r f = .ok o) :
    Gathers (Part.optional role r) (calls (o.toList.map node)) := by
  cases r with
  | none =>
      cases h
      exact .nil
  | some r =>
      obtain ⟨a, ha, rfl⟩ := map_eq_ok_iff.1 h
      exact one ((hpart r).trans (congrArg (Except.map fun a => [node a]) ha))

/-- An optional child that is read as a list of abstract nodes. -/
theorem of_clause
    {node : α → ModuleSpec.Node}
    {g : Reading → Read (List α)}
    (hpart : ∀ r, (Part.mk role r).nodes = (g r).map fun as => as.map node)
    {r : Option Reading}
    {o : Option (List α)}
    (h : readOption r g = .ok o) :
    Gathers (Part.optional role r) (calls ((o.getD []).map node)) := by
  cases r with
  | none =>
      cases h
      exact .nil
  | some r =>
      obtain ⟨as, has, rfl⟩ := map_eq_ok_iff.1 h
      exact one ((hpart r).trans (congrArg (Except.map fun as => as.map node) has))

end Rules

end Gathers

section Rules

variable {head : Head} {children : Children}

/-! ### Expressions -/

theorem gathers_otherExpression
    {e : Expr}
    (h : readOtherExpression head children = .ok e) :
    callSpan? (.expr e) = none ∧
      Gathers (Part.named .expression children) (calls e.children) := by
  obtain ⟨es, hes, ⟨⟩⟩ := bind_eq_ok_iff.1 h
  exact ⟨rfl, .of_each (fun _ => rfl) hes⟩

theorem gathers_unary
    {e : Expr}
    (h : readUnary head children = .ok e) :
    callSpan? (.expr e) = none ∧ Gathers (keptUnary children) (calls e.children) := by
  -- Here and below the rule is split first: what is kept is found by the same matches, and
  -- would be split along with it.
  unfold readUnary at h
  split at h
  · rename_i operand operator hoperand hoperator
    rw [keptUnary, hoperand, hoperator]
    split at h
    · rename_i hnumber
      obtain ⟨sign, hsign, h⟩ := bind_eq_ok_iff.1 h
      simp only [hnumber, if_true, hsign]
      split at h
      · rename_i hminus
        obtain ⟨text, -, h⟩ := bind_eq_ok_iff.1 h
        obtain ⟨x, -, ⟨⟩⟩ := bind_eq_ok_iff.1 h
        rw [if_pos hminus]
        exact ⟨rfl, .nil⟩
      · rename_i hminus
        rw [if_neg hminus]
        exact gathers_otherExpression h
    · rename_i hnumber
      simp only [hnumber, if_false]
      exact gathers_otherExpression h
  · rename_i hnone
    unfold keptUnary
    split
    · rename_i operand operator hoperand hoperator
      exact absurd hoperator (hnone operand operator hoperand)
    · exact gathers_otherExpression h

theorem gathers_access
    {key : String}
    {computed : Bool}
    {e : Expr}
    (h : readAccess head children key computed = .ok e) :
    callSpan? (.expr e) = none ∧ Gathers (keptAccess children key) (calls e.children) := by
  unfold readAccess at h
  split at h
  · rename_i object property hobject hproperty
    rw [keptAccess, hobject, hproperty]
    obtain ⟨o, ho, h⟩ := bind_eq_ok_iff.1 h
    obtain ⟨p, hp, ⟨⟩⟩ := bind_eq_ok_iff.1 h
    have hfirst : (Part.mk .expression object).nodes = .ok [.expr o] :=
      map_eq_ok_iff.2 ⟨o, ho, rfl⟩
    have hsecond : (Part.mk .expression property).nodes = .ok [.expr p] :=
      map_eq_ok_iff.2 ⟨p, hp, rfl⟩
    refine ⟨rfl, ?_⟩
    rw [Expr.children, ← List.singleton_append, Node.calls_append]
    exact .cons hfirst (.one hsecond)
  · rename_i hnone
    unfold keptAccess
    split
    · rename_i object property hobject hproperty
      exact absurd hproperty (hnone object property hobject)
    · exact gathers_otherExpression h

theorem gathers_call
    {e : Expr}
    (h : readCall head children = .ok e) :
    callSpan? (.expr e) =
        (if (children.field? "function").isSome then some head.span else none) ∧
      Gathers (keptCall children) (calls e.children) := by
  unfold readCall at h
  split at h
  · rename_i hcallee
    rw [keptCall, hcallee]
    cases h
    exact ⟨rfl, .nil⟩
  · rename_i callee hcallee
    rw [keptCall, hcallee]
    obtain ⟨arguments, harguments, h⟩ := bind_eq_ok_iff.1 h
    obtain ⟨typeArgs, htypeArgs, h⟩ := bind_eq_ok_iff.1 h
    obtain ⟨f, hf, ⟨⟩⟩ := bind_eq_ok_iff.1 h
    have hfirst : (Part.mk .expression callee).nodes = .ok [.expr f] :=
      map_eq_ok_iff.2 ⟨f, hf, rfl⟩
    have hsecond : Gathers (Part.optional .expressions (children.field? "arguments"))
        (calls ((arguments.getD []).map .expr)) :=
      .of_clause (fun _ => rfl) harguments
    have hthird : Gathers (Part.optional .types (children.field? "type_arguments"))
        (calls ((typeArgs.getD []).map .type)) :=
      .of_clause (fun _ => rfl) htypeArgs
    refine ⟨rfl, ?_⟩
    rw [Expr.children, ← List.singleton_append, Node.calls_append, Node.calls_append]
    exact .cons hfirst (hsecond.append hthird)

theorem gathers_expression
    {e : Expr}
    (h : readExpression head children = .ok e) :
    callSpan? (.expr e) = Role.expression.own? head children ∧
      Gathers (keptExpression head children) (calls e.children) := by
  unfold readExpression at h
  split at h
  all_goals simp only [keptExpression, Role.own?, *, String.reduceEq, false_and, true_and, if_false]
  case h_1 | h_2 | h_3 | h_4 =>
    obtain ⟨text, -, rfl⟩ := map_eq_ok_iff.1 h
    exact ⟨rfl, .nil⟩
  case h_5 =>
    obtain ⟨text, -, h⟩ := bind_eq_ok_iff.1 h
    obtain ⟨x, -, ⟨⟩⟩ := bind_eq_ok_iff.1 h
    exact ⟨rfl, .nil⟩
  case h_6 | h_7 =>
    cases h
    exact ⟨rfl, .nil⟩
  case h_8 =>
    exact gathers_unary h
  case h_9 | h_10 =>
    exact gathers_access h
  case h_11 =>
    exact gathers_call h
  case h_12 hcall =>
    rw [if_neg fun hown => hcall hown.1]
    exact gathers_otherExpression h

/-! ### Types -/

theorem gathers_typeArgs
    {g : String × List Ty}
    (h : readGeneric children = .ok g) :
    Gathers (keptTypeArgs children) (calls (g.2.map .type)) := by
  unfold readGeneric at h
  split at h
  · cases h
  · obtain ⟨typeArgs, htypeArgs, h⟩ := bind_eq_ok_iff.1 h
    obtain ⟨name, -, ⟨⟩⟩ := bind_eq_ok_iff.1 h
    exact .of_clause (fun _ => rfl) htypeArgs

theorem gathers_union
    {ts : List Ty}
    (h : readUnionMembers children = .ok ts) :
    Gathers (keptUnion children) (calls (ts.map .type)) := by
  obtain ⟨groups, hgroups, ⟨⟩⟩ := bind_eq_ok_iff.1 h
  have hpart (r : Reading) :
      (if r.kind = "union_type" then Part.mk .unionMembers r else ⟨.type, r⟩).nodes =
        (if r.kind = "union_type" then r.unionMembers else r.type.map fun t => [t]).map
          fun ts => ts.map .type := by
    split
    · rfl
    · rw [Part.nodes]
      cases r.type <;> rfl
  rw [List.map_flatten]
  exact .of_mapM hpart hgroups

theorem gathers_signature
    {params : List Param}
    {result : Option Ty}
    (hparams : signatureParams children = .ok params)
    (hresult : signatureResult children = .ok result) :
    Gathers (keptSignature children) (calls (params.map .param ++ result.toList.map .type)) := by
  obtain ⟨list, hlist, ⟨⟩⟩ := bind_eq_ok_iff.1 hparams
  rw [Node.calls_append]
  exact (Gathers.of_clause (fun _ => rfl) hlist).append (.of_optional (fun _ => rfl) hresult)

theorem gathers_literal
    {t : Ty}
    (h : readLiteralType head children = .ok t) :
    Gathers (keptLiteral children) (calls [.type t]) := by
  cases children with
  | nil =>
      cases h
      exact .nil
  | cons literal rest =>
      simp only [readLiteralType] at h
      split at h
      · rename_i hkind
        cases h
        rw [keptLiteral, if_pos hkind]
        exact .nil
      · rename_i hkind
        obtain ⟨e, he, rfl⟩ := map_eq_ok_iff.1 h
        rw [keptLiteral, if_neg hkind, calls_singleton rfl]
        exact .one (map_eq_ok_iff.2 ⟨e, he, rfl⟩)

/-- The type behind a colon is that of the first named child. -/
theorem gathers_typing
    {t : Ty}
    (h : readTyping head children = .ok t) :
    Gathers (Part.optional .type children.named.head?) (calls [.type t]) := by
  unfold readTyping at h
  split at h
  · rename_i hnil
    rw [hnil]
    cases h
    exact .nil
  · rename_i r rest hcons
    rw [hcons]
    exact .one (map_eq_ok_iff.2 ⟨t, h, rfl⟩)

/-- A type that stands around another has the calls of that one. -/
theorem gathers_operand
    {r : Reading}
    {around : Ty → Ty}
    (haround : ∀ u, (around u).children = [.type u])
    {t : Ty}
    (h : r.type.map around = .ok t) :
    Gathers (Part.optional .type (some r)) (calls [.type t]) := by
  obtain ⟨u, hu, rfl⟩ := map_eq_ok_iff.1 h
  rw [calls_singleton rfl, Node.children, haround]
  exact .one (map_eq_ok_iff.2 ⟨u, hu, rfl⟩)

theorem gathers_type
    {t : Ty}
    (h : readType head children = .ok t) :
    Gathers (keptType head children) (calls [.type t]) := by
  simp only [readType] at h
  split at h
  all_goals simp only [keptType, *]
  case h_1 | h_2 | h_3 | h_4 =>
    obtain ⟨text, -, rfl⟩ := map_eq_ok_iff.1 h
    exact .nil
  case h_5 =>
    obtain ⟨g, hg, rfl⟩ := map_eq_ok_iff.1 h
    rw [calls_singleton rfl]
    exact gathers_typeArgs hg
  case h_6 =>
    split at h
    · rename_i hnil
      rw [hnil]
      cases h
      exact .nil
    · rename_i element rest hcons
      rw [hcons]
      exact gathers_operand (fun _ => rfl) h
  case h_7 | h_8 =>
    split at h
    · rename_i hnone
      rw [hnone]
      cases h
      exact .nil
    · rename_i operand hsome
      rw [hsome]
      exact gathers_operand (fun _ => rfl) h
  case h_9 =>
    exact gathers_literal h
  case h_10 =>
    obtain ⟨ts, hts, rfl⟩ := map_eq_ok_iff.1 h
    rw [calls_singleton rfl]
    exact gathers_union hts
  case h_11 =>
    split at h
    · rename_i inner hinner
      rw [keptInner, Part.named, hinner]
      exact .one (map_eq_ok_iff.2 ⟨t, h, rfl⟩)
    · rename_i hother
      cases h
      unfold keptInner
      split
      · rename_i inner hinner
        exact absurd hinner (hother inner)
      · exact .nil
  case h_12 =>
    obtain ⟨ms, hms, rfl⟩ := map_eq_ok_iff.1 h
    rw [calls_singleton rfl]
    exact .of_each (fun _ => rfl) hms
  case h_13 =>
    obtain ⟨params, hparams, h⟩ := bind_eq_ok_iff.1 h
    obtain ⟨result, hresult, ⟨⟩⟩ := bind_eq_ok_iff.1 h
    rw [calls_singleton rfl]
    exact gathers_signature hparams hresult
  case h_14 =>
    exact gathers_typing h
  case h_15 =>
    cases h
    exact .nil

/-- The type behind a colon, and where there is no colon, is what the node is as a type. -/
theorem typing_ofChildren :
    (Reading.ofChildren head children).typing = readType head children := by
  by_cases hkind : head.kind = "type_annotation"
  · simp only [Reading.ofChildren, readType, hkind, if_true]
  · simp only [Reading.ofChildren, hkind, if_false]

/-! ### Members -/

theorem gathers_parameter
    {p : Param}
    (h : readParameter head children = .ok p) :
    Gathers (Part.optional .typing (children.field? "type")) (calls [.param p]) := by
  obtain ⟨text, -, h⟩ := bind_eq_ok_iff.1 h
  obtain ⟨type, htype, ⟨⟩⟩ := bind_eq_ok_iff.1 h
  rw [calls_singleton rfl]
  exact .of_optional (fun _ => rfl) htype

theorem gathers_member
    {m : Member}
    (h : readMember head children = .ok m) :
    Gathers (keptMember head children) (calls [.member m]) := by
  obtain ⟨name, -, h⟩ := bind_eq_ok_iff.1 h
  dsimp only at h
  split at h
  all_goals simp only [keptMember, *]
  case h_1 =>
    obtain ⟨type, htype, ⟨⟩⟩ := bind_eq_ok_iff.1 h
    rw [calls_singleton rfl]
    exact .of_optional (fun _ => rfl) htype
  case h_2 =>
    obtain ⟨params, hparams, h⟩ := bind_eq_ok_iff.1 h
    obtain ⟨result, hresult, ⟨⟩⟩ := bind_eq_ok_iff.1 h
    rw [calls_singleton rfl]
    exact gathers_signature hparams hresult
  case h_3 =>
    cases h
    exact .nil

/-! ### Declarations -/

theorem gathers_base
    {b : Base}
    (h : readBase head children = .ok b) :
    Gathers (keptBase head children) (calls [.base b]) := by
  unfold readBase at h
  split at h
  · rename_i hgeneric
    obtain ⟨g, hg, rfl⟩ := map_eq_ok_iff.1 h
    rw [keptBase, if_pos hgeneric, calls_singleton rfl]
    exact gathers_typeArgs hg
  · rename_i hname
    obtain ⟨text, -, rfl⟩ := map_eq_ok_iff.1 h
    rw [keptBase, if_neg hname]
    exact .nil

theorem gathers_interface
    {i : Interface}
    (h : readInterface head children = .ok i) :
    Gathers (keptInterface children) (calls [.statement (.declaration (.interface i))]) := by
  obtain ⟨name, -, h⟩ := bind_eq_ok_iff.1 h
  obtain ⟨bases, hbases, h⟩ := bind_eq_ok_iff.1 h
  obtain ⟨members, hmembers, ⟨⟩⟩ := bind_eq_ok_iff.1 h
  rw [calls_singleton rfl, Node.children, Statement.children, Declaration.children,
    Node.calls_append]
  exact (Gathers.of_clause (fun _ => rfl) hbases).append (.of_clause (fun _ => rfl) hmembers)

theorem gathers_typeAlias
    {a : TypeAlias}
    (h : readTypeAlias head children = .ok a) :
    Gathers (Part.optional .type (children.field? "value"))
      (calls [.statement (.declaration (.typeAlias a))]) := by
  obtain ⟨type, htype, h⟩ := bind_eq_ok_iff.1 h
  obtain ⟨name, -, ⟨⟩⟩ := bind_eq_ok_iff.1 h
  have hgathers : Gathers (Part.optional .type (children.field? "value"))
      (calls (type.toList.map .type)) :=
    .of_optional (fun _ => rfl) htype
  rw [calls_singleton rfl]
  -- an alias that stands for nothing is read as one for a type without calls
  cases type <;> exact hgathers

theorem gathers_enumMember
    {m : EnumMember}
    (h : readEnumMember head children = .ok m) :
    Gathers (keptEnumMember head children) (calls [.enumMember m]) := by
  unfold readEnumMember at h
  split at h
  · rename_i hassignment
    rw [keptEnumMember, if_pos hassignment]
    split at h
    · cases h
    · obtain ⟨text, -, h⟩ := bind_eq_ok_iff.1 h
      obtain ⟨value, hvalue, ⟨⟩⟩ := bind_eq_ok_iff.1 h
      rw [calls_singleton rfl]
      exact .of_optional (fun _ => rfl) hvalue
  · rename_i hname
    obtain ⟨text, -, rfl⟩ := map_eq_ok_iff.1 h
    rw [keptEnumMember, if_neg hname]
    exact .nil

theorem gathers_enum
    {e : Enum}
    (h : readEnum head children = .ok e) :
    Gathers (Part.optional .enumMembers (children.field? "body"))
      (calls [.statement (.declaration (.enum e))]) := by
  obtain ⟨members, hmembers, h⟩ := bind_eq_ok_iff.1 h
  obtain ⟨name, -, ⟨⟩⟩ := bind_eq_ok_iff.1 h
  rw [calls_singleton rfl]
  exact .of_clause (fun _ => rfl) hmembers

/-- Of the name of a variable only the text is kept. -/
theorem gathers_declarator
    {d : Declarator}
    (h : readDeclarator head children = .ok d) :
    Gathers (Part.optional .expression (children.field? "value")) (calls [.declarator d]) := by
  obtain ⟨name, -, h⟩ := bind_eq_ok_iff.1 h
  obtain ⟨value, hvalue, ⟨⟩⟩ := bind_eq_ok_iff.1 h
  rw [calls_singleton rfl]
  exact .of_optional (fun _ => rfl) hvalue

/-! ### Statements -/

theorem gathers_otherStatement
    {s : Statement}
    (h : readOtherStatement head children = .ok s) :
    Gathers (Part.named .expression children) (calls [.statement s]) := by
  obtain ⟨es, hes, ⟨⟩⟩ := bind_eq_ok_iff.1 h
  rw [calls_singleton rfl]
  exact .of_each (fun _ => rfl) hes

theorem gathers_export
    {s : Statement}
    (h : readExport head children = .ok s) :
    Gathers (keptExport children) (calls [.statement s]) := by
  unfold readExport at h
  split at h
  · rename_i declaration hdeclaration
    rw [keptExport, hdeclaration]
    exact .one (map_eq_ok_iff.2 ⟨s, h, rfl⟩)
  · rename_i value hnone hvalue
    rw [keptExport, hnone, hvalue]
    dsimp only
    split at h
    · rename_i hdefault
      obtain ⟨e, he, rfl⟩ := map_eq_ok_iff.1 h
      rw [if_pos hdefault, calls_singleton rfl]
      exact .one (map_eq_ok_iff.2 ⟨e, he, rfl⟩)
    · rename_i hdefault
      rw [if_neg hdefault]
      exact gathers_otherStatement h
  · rename_i hnone hnovalue
    rw [keptExport, hnone, hnovalue]
    exact gathers_otherStatement h

theorem gathers_statement
    {s : Statement}
    (h : readStatement head children = .ok s) :
    Gathers (keptStatement head children) (calls [.statement s]) := by
  unfold readStatement at h
  split at h
  all_goals simp only [keptStatement, *]
  case h_1 =>
    obtain ⟨i, hi, rfl⟩ := map_eq_ok_iff.1 h
    exact gathers_interface hi
  case h_2 =>
    obtain ⟨a, ha, rfl⟩ := map_eq_ok_iff.1 h
    exact gathers_typeAlias ha
  case h_3 =>
    obtain ⟨e, he, rfl⟩ := map_eq_ok_iff.1 h
    exact gathers_enum he
  case h_4 | h_5 =>
    obtain ⟨ds, hds, rfl⟩ := map_eq_ok_iff.1 h
    rw [calls_singleton rfl]
    exact .of_each (fun _ => rfl) hds
  case h_6 =>
    split at h
    · rename_i inner hinner
      obtain ⟨e, he, rfl⟩ := map_eq_ok_iff.1 h
      rw [Part.named, hinner, calls_singleton rfl]
      exact .one (map_eq_ok_iff.2 ⟨e, he, rfl⟩)
    · exact gathers_otherStatement h
  case h_7 =>
    exact gathers_export h
  case h_8 =>
    exact gathers_otherStatement h

/-! ### Every role -/

/-- What a node is read as has the calls of what is kept, and the node if it is a call. -/
theorem gathers_kept
    {role : Role}
    {ns : List ModuleSpec.Node}
    (h : (Part.mk role (.ofChildren head children)).nodes = .ok ns) :
    ∃ spans, Gathers (role.kept head children) spans ∧
      calls ns = (role.own? head children).toList ++ spans := by
  cases role with
  | expression =>
      obtain ⟨e, he, rfl⟩ := map_eq_ok_iff.1 h
      obtain ⟨hown, hgathers⟩ := gathers_expression he
      refine ⟨calls e.children, hgathers, ?_⟩
      rw [Node.calls_cons, hown, Node.calls_nil, List.append_nil]
      rfl
  | statement =>
      obtain ⟨s, hs, rfl⟩ := map_eq_ok_iff.1 h
      exact ⟨_, gathers_statement hs, rfl⟩
  | type =>
      obtain ⟨t, ht, rfl⟩ := map_eq_ok_iff.1 h
      exact ⟨_, gathers_type ht, rfl⟩
  | typing =>
      obtain ⟨t, ht, rfl⟩ := map_eq_ok_iff.1 h
      rw [typing_ofChildren] at ht
      exact ⟨_, gathers_type ht, rfl⟩
  | unionMembers =>
      obtain ⟨ts, hts, rfl⟩ := map_eq_ok_iff.1 h
      exact ⟨_, gathers_union hts, rfl⟩
  | parameter =>
      obtain ⟨p, hp, rfl⟩ := map_eq_ok_iff.1 h
      exact ⟨_, gathers_parameter hp, rfl⟩
  | member =>
      obtain ⟨m, hm, rfl⟩ := map_eq_ok_iff.1 h
      exact ⟨_, gathers_member hm, rfl⟩
  | base =>
      obtain ⟨b, hb, rfl⟩ := map_eq_ok_iff.1 h
      exact ⟨_, gathers_base hb, rfl⟩
  | enumMember =>
      obtain ⟨m, hm, rfl⟩ := map_eq_ok_iff.1 h
      exact ⟨_, gathers_enumMember hm, rfl⟩
  | declarator =>
      obtain ⟨d, hd, rfl⟩ := map_eq_ok_iff.1 h
      exact ⟨_, gathers_declarator hd, rfl⟩
  | statements | expressions | types | parameters | members | bases | enumMembers =>
      obtain ⟨as, has, rfl⟩ := map_eq_ok_iff.1 h
      exact ⟨_, Gathers.of_each (fun _ => rfl) has, rfl⟩

end Rules

end Concrete

end ModuleSpec
