import ModuleSpec.Proofs.Concrete.Gather
import ModuleSpec.Proofs.Concrete.Twin

/-!
# Readings that are alike

Two nodes of the same shape are read by the same rules.  What comes out differs in
spans alone, as long as the texts that the rules look at are the same.

**Results.**  Where a use of two nodes looks only at readings that are alike, the
two nodes are alike in that use (`alike_ofChildren`).  There is one lemma for each
rule of reading.
-/

namespace ModuleSpec

namespace Concrete

section Rules

variable {head head' : Head} {ts : List Twin}

/-! ## Names and literals -/

theorem agree_string
    (h : LooksAlike head head' (lookString Twin.head ts)) :
    AgreeOn id (readString head (ts.map Twin.first)) (readString head' (ts.map Twin.second)) := by
  simp only [lookString] at h
  rw [readString, readString,
    Twin.filter_first fun kind => kind == "string_fragment" || kind == "escape_sequence",
    Twin.filter_second fun kind => kind == "string_fragment" || kind == "escape_sequence",
    List.isEmpty_map, List.isEmpty_map]
  split at h
  · rename_i hempty
    rw [if_pos hempty, if_pos hempty]
    exact (h.own List.mem_cons_self).map_same fun _ => rfl
  · rename_i hsome
    rw [if_neg hsome, if_neg hsome]
    refine (AgreeOn.mapM fun t ht => h.each ht).bind fun parts parts' hparts => ?_
    rw [List.map_id, List.map_id] at hparts
    exact .ok (congrArg String.join hparts)

theorem agree_name
    (hkind : head'.kind = head.kind)
    (h : LooksAlike head head' (lookName Twin.head ts head)) :
    AgreeOn id (readPropertyName head (ts.map Twin.first))
      (readPropertyName head' (ts.map Twin.second)) := by
  unfold lookName at h
  unfold readPropertyName
  rw [hkind]
  split at h
  · rename_i hstring
    rw [if_pos hstring, if_pos hstring]
    exact agree_string h
  · rename_i hother
    rw [if_neg hother, if_neg hother]
    exact h.own List.mem_cons_self

theorem agree_textOf
    {o : Option Twin}
    (h : LooksAlike head head' (lookOption .text o)) :
    AgreeOn id (textOf (o.map Twin.first)) (textOf (o.map Twin.second)) := by
  cases o with
  | none => exact .ok rfl
  | some t => exact h.option rfl

/-! ## Named children -/

/-- Named children are read in a role one by one. -/
theorem agree_named
    {α β : Type}
    {keep : α → β}
    {f : Reading → Read α}
    {role : Role}
    (h : LooksAlike head head' (lookNamed Twin.head ts role))
    (hrole : ∀ t : Twin, t.Alike (.part role) → AgreeOn keep (f t.first) (f t.second)) :
    AgreeOn (List.map keep) (Children.readNamed (ts.map Twin.first) f)
      (Children.readNamed (ts.map Twin.second) f) := by
  rw [Children.readNamed, Children.readNamed, Twin.named_first, Twin.named_second]
  exact AgreeOn.mapM fun t ht => hrole t (h.each ht)

/-! ## Expressions -/

theorem map_bare_expr
    {es es' : List Expr}
    (h : es.map Expr.bare = es'.map Expr.bare) :
    es.map (ModuleSpec.Node.bare ∘ .expr) = es'.map (ModuleSpec.Node.bare ∘ .expr) := by
  have hmap := congrArg (List.map ModuleSpec.Node.expr) h
  simpa [Function.comp_def, ModuleSpec.Node.bare] using hmap

theorem agree_otherExpression
    (hkind : head'.kind = head.kind)
    (h : LooksAlike head head' (lookNamed Twin.head ts .expression)) :
    AgreeOn Expr.bare (readOtherExpression head (ts.map Twin.first))
      (readOtherExpression head' (ts.map Twin.second)) := by
  refine (agree_named h fun t ht => ht).bind fun es es' hes => .ok ?_
  simp [Expr.bare, hkind, map_bare_expr hes]

/-- A numeral is read from its text. -/
theorem agree_number
    {x x' : Read String}
    (h : AgreeOn id x x')
    (f f' : Double → Expr)
    (hf : ∀ value, (f value).bare = (f' value).bare) :
    AgreeOn Expr.bare (do .ok (f (← readNumber (← x)))) (do .ok (f' (← readNumber (← x')))) := by
  refine h.bind_same fun text => ?_
  exact (AgreeOn.refl (readNumber text)).bind_same fun value => .ok (hf value)

theorem agree_unary
    (hkind : head'.kind = head.kind)
    (h : LooksAlike head head' (lookUnary Twin.head ts)) :
    AgreeOn Expr.bare (readUnary head (ts.map Twin.first))
      (readUnary head' (ts.map Twin.second)) := by
  simp only [readUnary, Twin.field?_first, Twin.field?_second]
  cases hargument : selectField? Twin.head ts "argument" with
  | none =>
      simp only [lookUnary, hargument] at h
      exact agree_otherExpression hkind h
  | some operand =>
      cases hoperator : selectField? Twin.head ts "operator" with
      | none =>
          simp only [lookUnary, hargument, hoperator] at h
          exact agree_otherExpression hkind h
      | some operator =>
          simp only [lookUnary, hargument, hoperator] at h
          simp only [Option.map_some, operand.kind]
          change LooksAlike head head' (if operand.first.kind = "number" then _ else _) at h
          by_cases hnumber : operand.first.kind = "number"
          · rw [if_pos hnumber] at h ⊢
            rw [if_pos hnumber]
            have htext : AgreeOn id operator.first.text operator.second.text :=
              h.child .text operator List.mem_cons_self
            -- What is looked at next depends on the operator, which is the same in both.
            intro e e' he he'
            obtain ⟨sign, hsign, he⟩ := bind_eq_ok_iff.1 he
            obtain ⟨sign', hsign', he'⟩ := bind_eq_ok_iff.1 he'
            obtain rfl : sign = sign' := htext sign sign' hsign hsign'
            have hrest : LooksAlike head head' (if sign = "-" then [.child .text operand]
                else lookNamed Twin.head ts .expression) := by
              have hhead : operator.head.text = .ok sign := hsign
              rw [hhead] at h
              exact h.tail
            by_cases hminus : sign = "-"
            · rw [if_pos hminus] at he he' hrest
              have hoperand := hrest.child .text operand List.mem_cons_self
              exact agree_number hoperand (fun x => .number x.negate head.span)
                (fun x => .number x.negate head'.span) (fun _ => rfl) e e' he he'
            · rw [if_neg hminus] at he he' hrest
              exact agree_otherExpression hkind hrest e e' he he'
          · rw [if_neg hnumber] at h ⊢
            rw [if_neg hnumber]
            exact agree_otherExpression hkind h

theorem agree_access
    (hkind : head'.kind = head.kind)
    {key : String}
    (h : LooksAlike head head' (lookAccess Twin.head ts key))
    (computed : Bool) :
    AgreeOn Expr.bare (readAccess head (ts.map Twin.first) key computed)
      (readAccess head' (ts.map Twin.second) key computed) := by
  simp only [readAccess, Twin.field?_first, Twin.field?_second]
  cases hobject : selectField? Twin.head ts "object" with
  | none =>
      simp only [lookAccess, hobject] at h
      exact agree_otherExpression hkind h
  | some object =>
      cases hproperty : selectField? Twin.head ts key with
      | none =>
          simp only [lookAccess, hobject, hproperty] at h
          exact agree_otherExpression hkind h
      | some property =>
          simp only [lookAccess, hobject, hproperty] at h
          have hobject : AgreeOn Expr.bare object.first.expression object.second.expression :=
            h.child _ object List.mem_cons_self
          have hproperty :
              AgreeOn Expr.bare property.first.expression property.second.expression :=
            h.child _ property (List.mem_cons_of_mem _ List.mem_cons_self)
          refine hobject.bind fun o o' ho => hproperty.bind fun p p' hp => .ok ?_
          rw [Expr.bare, Expr.bare, ho, hp]

theorem agree_call
    (hkind : head'.kind = head.kind)
    (h : LooksAlike head head' (lookCall Twin.head ts)) :
    AgreeOn Expr.bare (readCall head (ts.map Twin.first))
      (readCall head' (ts.map Twin.second)) := by
  simp only [readCall, Twin.field?_first, Twin.field?_second]
  cases hfunction : selectField? Twin.head ts "function" with
  | none =>
      refine .ok ?_
      rw [Expr.bare, Expr.bare, hkind]
  | some callee =>
      simp only [lookCall, hfunction] at h
      have hcallee : AgreeOn Expr.bare callee.first.expression callee.second.expression :=
        h.right.child _ callee List.mem_cons_self
      refine (AgreeOn.option fun t ht => h.left.left.option ht).bind fun as as' has => ?_
      refine (AgreeOn.option fun t ht => h.left.right.option ht).bind fun ts ts' hts => ?_
      refine hcallee.bind fun f f' hf => .ok ?_
      simp [Expr.bare, hf, map_getD_congr has, hts]

theorem agree_expression
    (hkind : head'.kind = head.kind)
    (h : LooksAlike head head' (lookExpression Twin.head ts head)) :
    AgreeOn Expr.bare (readExpression head (ts.map Twin.first))
      (readExpression head' (ts.map Twin.second)) := by
  unfold readExpression
  rw [hkind]
  split
  all_goals simp only [lookExpression, *] at h
  case h_1 | h_2 | h_3 =>
    exact (h.own List.mem_cons_self).map_same fun _ => rfl
  case h_4 =>
    exact (agree_string h).map_same fun _ => rfl
  case h_5 =>
    exact agree_number (h.own List.mem_cons_self) (fun x => .number x head.span)
      (fun x => .number x head'.span) fun _ => rfl
  case h_6 | h_7 => exact .ok rfl
  case h_8 => exact agree_unary hkind h
  case h_9 | h_10 => exact agree_access hkind h _
  case h_11 => exact agree_call hkind h
  case h_12 => exact agree_otherExpression hkind h

/-! ## Types -/

theorem agree_generic
    (h : LooksAlike head head' (lookGeneric Twin.head ts)) :
    AgreeOn (fun g => (g.1, g.2.map Ty.bare)) (readGeneric (ts.map Twin.first))
      (readGeneric (ts.map Twin.second)) := by
  simp only [readGeneric, Twin.field?_first, Twin.field?_second, Twin.named_first,
    Twin.named_second, Twin.ofKind?_first, Twin.ofKind?_second, List.head?_map, ← Option.map_or]
  cases hname : (selectField? Twin.head ts "name").or (selectNamed Twin.head ts).head? with
  | none => exact fun _ _ => nofun
  | some name =>
      refine (AgreeOn.option fun t ht => h.left.option ht).bind fun us us' hus => ?_
      refine AgreeOn.bind_same (h.right.option hname) fun text => .ok ?_
      rw [map_getD_congr hus]

/-- A member of a union gives its types: those of the union that it is, or itself. -/
theorem agree_unionMember
    (h : LooksAlike head head' (lookUnion Twin.head ts))
    (t : Twin)
    (ht : t ∈ selectNamed Twin.head ts) :
    AgreeOn (List.map Ty.bare)
      (if t.first.kind = "union_type" then t.first.unionMembers
        else t.first.type.map fun u => [u])
      (if t.second.kind = "union_type" then t.second.unionMembers
        else t.second.type.map fun u => [u]) := by
  have hlook : (if t.first.kind = "union_type" then .child (.part .unionMembers) t
      else .child (.part .type) t) ∈ lookUnion Twin.head ts :=
    List.mem_map.2 ⟨t, ht, rfl⟩
  rw [t.kind]
  by_cases hunion : t.first.kind = "union_type"
  · rw [if_pos hunion] at hlook ⊢
    rw [if_pos hunion]
    exact h.child _ t hlook
  · rw [if_neg hunion] at hlook ⊢
    rw [if_neg hunion]
    refine AgreeOn.map (h.child _ t hlook) fun u u' hu => ?_
    rw [List.map_singleton, List.map_singleton, hu]

theorem agree_union
    (h : LooksAlike head head' (lookUnion Twin.head ts)) :
    AgreeOn (List.map Ty.bare) (readUnionMembers (ts.map Twin.first))
      (readUnionMembers (ts.map Twin.second)) := by
  rw [readUnionMembers, readUnionMembers, Children.readNamed, Children.readNamed, Twin.named_first,
    Twin.named_second]
  refine AgreeOn.bind (AgreeOn.mapM (agree_unionMember h)) fun groups groups' hgroups => .ok ?_
  rw [List.map_flatten, List.map_flatten, hgroups]

theorem agree_params
    (h : LooksAlike head head' (lookSignature Twin.head ts)) :
    AgreeOn (List.map Param.bare) (signatureParams (ts.map Twin.first))
      (signatureParams (ts.map Twin.second)) := by
  simp only [signatureParams, Twin.field?_first, Twin.field?_second, Twin.ofKind?_first,
    Twin.ofKind?_second, ← Option.map_or]
  exact (AgreeOn.option fun t ht => h.left.option ht).bind fun ps ps' hps =>
    .ok (map_getD_congr hps)

theorem agree_result
    (h : LooksAlike head head' (lookSignature Twin.head ts)) :
    AgreeOn (Option.map Ty.bare) (signatureResult (ts.map Twin.first))
      (signatureResult (ts.map Twin.second)) := by
  simp only [signatureResult, Twin.field?_first, Twin.field?_second]
  exact AgreeOn.option fun t ht => h.right.option ht

theorem agree_literal
    (hkind : head'.kind = head.kind)
    (h : LooksAlike head head' (lookLiteral Twin.head ts)) :
    AgreeOn Ty.bare (readLiteralType head (ts.map Twin.first))
      (readLiteralType head' (ts.map Twin.second)) := by
  cases ts with
  | nil =>
      refine .ok ?_
      rw [Ty.bare, Ty.bare, hkind]
  | cons literal rest =>
      change LooksAlike head head' (if literal.first.kind = "null" ∨ literal.first.kind =
        "undefined" then _ else _) at h
      simp only [List.map_cons, readLiteralType, literal.kind]
      by_cases hnull : literal.first.kind = "null" ∨ literal.first.kind = "undefined"
      · rw [if_pos hnull, if_pos hnull]
        exact .ok rfl
      · rw [if_neg hnull] at h ⊢
        rw [if_neg hnull]
        refine AgreeOn.map (h.child (.part .expression) literal List.mem_cons_self)
          fun e e' he => ?_
        rw [Ty.bare, Ty.bare, he]

theorem agree_typing
    (hkind : head'.kind = head.kind)
    (h : LooksAlike head head' (lookOption (.part .type) (selectNamed Twin.head ts).head?)) :
    AgreeOn Ty.bare (readTyping head (ts.map Twin.first))
      (readTyping head' (ts.map Twin.second)) := by
  rw [readTyping, readTyping, Twin.named_first, Twin.named_second, hkind]
  cases hnamed : selectNamed Twin.head ts with
  | nil => exact .ok rfl
  | cons t rest =>
      rw [hnamed] at h
      exact h.option rfl

/-- The type that the last named child is, behind a keyword. -/
theorem agree_operand
    (h : LooksAlike head head' (lookOption (.part .type) (selectNamed Twin.head ts).getLast?))
    (word : String) :
    AgreeOn Ty.bare
      (match (Children.named (ts.map Twin.first)).getLast? with
        | none => .ok (.other head.kind head.span)
        | some operand => operand.type.map fun t => .operator word t head.span)
      (match (Children.named (ts.map Twin.second)).getLast? with
        | none => .ok (.other head.kind head'.span)
        | some operand => operand.type.map fun t => .operator word t head'.span) := by
  rw [Twin.named_first, Twin.named_second, List.getLast?_map, List.getLast?_map]
  cases hlast : (selectNamed Twin.head ts).getLast? with
  | none => exact .ok rfl
  | some t =>
      refine AgreeOn.map (h.option hlast) fun u u' hu => ?_
      rw [Ty.bare, Ty.bare, hu]

theorem agree_type
    (hkind : head'.kind = head.kind)
    (h : LooksAlike head head' (lookType Twin.head ts head)) :
    AgreeOn Ty.bare (readType head (ts.map Twin.first))
      (readType head' (ts.map Twin.second)) := by
  unfold readType
  rw [hkind]
  dsimp only
  split
  all_goals simp only [lookType, *] at h
  case h_1 =>
    exact (h.own List.mem_cons_self).map_same fun _ => rfl
  case h_2 | h_3 | h_4 =>
    exact (h.own List.mem_cons_self).map_same fun _ => rfl
  case h_5 =>
    refine (agree_generic h).map fun g g' hg => ?_
    obtain ⟨hname, hargs⟩ := Prod.mk.inj hg
    simp [Ty.bare, hname, hargs]
  case h_6 =>
    rw [Twin.named_first, Twin.named_second]
    cases hnamed : selectNamed Twin.head ts with
    | nil => exact .ok rfl
    | cons t rest =>
        rw [hnamed] at h
        refine AgreeOn.map (h.option rfl) fun u u' hu => ?_
        rw [Ty.bare, Ty.bare, hu]
  case h_7 | h_8 => exact agree_operand h _
  case h_9 => exact agree_literal hkind h
  case h_10 =>
    refine (agree_union h).map fun us us' hus => ?_
    simp [Ty.bare, hus]
  case h_11 =>
    rw [Twin.named_first, Twin.named_second]
    rcases hnamed : selectNamed Twin.head ts with _ | ⟨inner, _ | _⟩
    · exact .ok rfl
    · rw [lookInner, hnamed] at h
      exact h.child (.part .type) inner List.mem_cons_self
    · exact .ok rfl
  case h_12 =>
    refine (agree_named h fun t ht => ht).map fun ms ms' hms => ?_
    simp [Ty.bare, hms]
  case h_13 =>
    refine (agree_params h).bind fun ps ps' hps => (agree_result h).bind fun r r' hr => .ok ?_
    simp [Ty.bare, hps, hr]
  case h_14 => exact agree_typing hkind h
  case h_15 => exact .ok rfl

/-! ## Members -/

theorem agree_parameter
    (hkind : head'.kind = head.kind)
    (h : LooksAlike head head' (lookParameter Twin.head ts)) :
    AgreeOn Param.bare (readParameter head (ts.map Twin.first))
      (readParameter head' (ts.map Twin.second)) := by
  simp only [readParameter, Twin.field?_first, Twin.field?_second, Twin.ofKind?_first,
    Twin.ofKind?_second, ← Option.map_or, hkind]
  refine (agree_textOf h.left).bind_same fun text => ?_
  refine (AgreeOn.option fun t ht => h.right.option ht).bind fun type type' htype => .ok ?_
  simp [Param.bare, htype]

theorem agree_parameters
    (h : LooksAlike head head' (lookParameters Twin.head ts)) :
    AgreeOn (List.map Param.bare) (readParameters (ts.map Twin.first))
      (readParameters (ts.map Twin.second)) := by
  rw [readParameters, readParameters, Twin.named_first, Twin.named_second,
    Twin.filter_first fun kind => kind == "required_parameter" || kind == "optional_parameter",
    Twin.filter_second fun kind => kind == "required_parameter" || kind == "optional_parameter"]
  exact AgreeOn.mapM fun t ht => h.each ht

theorem agree_member
    (hkind : head'.kind = head.kind)
    (h : LooksAlike head head' (lookMember Twin.head ts head)) :
    AgreeOn Member.bare (readMember head (ts.map Twin.first))
      (readMember head' (ts.map Twin.second)) := by
  have hrest := h.right
  simp only [readMember, Twin.field?_first, Twin.field?_second, Twin.hasToken_second, hkind]
  refine (AgreeOn.option fun t ht => h.left.option ht).bind fun name name' hname => ?_
  obtain rfl : name = name' := by simpa using hname
  split
  all_goals simp only [*] at hrest
  · refine (AgreeOn.option fun t ht => hrest.option ht).bind fun type type' htype => .ok ?_
    simp [Member.bare, htype]
  · refine (agree_params hrest).bind fun ps ps' hps =>
      (agree_result hrest).bind fun r r' hr => .ok ?_
    simp [Member.bare, hps, hr]
  · exact .ok rfl

/-! ## Declarations -/

theorem agree_base
    (hkind : head'.kind = head.kind)
    (h : LooksAlike head head' (lookBase Twin.head ts head)) :
    AgreeOn Base.bare (readBase head (ts.map Twin.first))
      (readBase head' (ts.map Twin.second)) := by
  unfold readBase
  rw [lookBase] at h
  rw [hkind]
  by_cases hgeneric : head.kind = "generic_type"
  · rw [if_pos hgeneric] at h ⊢
    rw [if_pos hgeneric]
    refine (agree_generic h).map fun g g' hg => ?_
    obtain ⟨hname, hargs⟩ := Prod.mk.inj hg
    simp [Base.bare, hname, hargs]
  · rw [if_neg hgeneric] at h ⊢
    rw [if_neg hgeneric]
    exact (h.own List.mem_cons_self).map_same fun _ => rfl

theorem agree_interface
    (h : LooksAlike head head' (lookInterface Twin.head ts)) :
    AgreeOn (fun i => (Declaration.interface i).bare) (readInterface head (ts.map Twin.first))
      (readInterface head' (ts.map Twin.second)) := by
  simp only [readInterface, Twin.field?_first, Twin.field?_second, Twin.ofKind?_first,
    Twin.ofKind?_second, ← Option.map_or]
  refine (agree_textOf h.left.left).bind_same fun name => ?_
  refine (AgreeOn.option fun t ht => h.left.right.option ht).bind fun bs bs' hbs => ?_
  refine (AgreeOn.option fun t ht => h.right.option ht).bind fun ms ms' hms => .ok ?_
  simp [Declaration.bare, map_getD_congr hbs, map_getD_congr hms]

theorem agree_typeAlias
    (h : LooksAlike head head' (lookNameAnd Twin.head ts .type "value")) :
    AgreeOn (fun a => (Declaration.typeAlias a).bare) (readTypeAlias head (ts.map Twin.first))
      (readTypeAlias head' (ts.map Twin.second)) := by
  simp only [readTypeAlias, Twin.field?_first, Twin.field?_second]
  refine (AgreeOn.option fun t ht => h.right.option ht).bind fun type type' htype => ?_
  refine (agree_textOf h.left).bind_same fun name => .ok ?_
  have hvalue : (type.getD (.other "missing" Span.none)).bare =
      (type'.getD (.other "missing" Span.none)).bare := by
    cases type <;> cases type' <;> simp_all
  simp [Declaration.bare, hvalue]

theorem agree_enumMember
    (hkind : head'.kind = head.kind)
    (h : LooksAlike head head' (lookEnumMember Twin.head ts head)) :
    AgreeOn EnumMember.bare (readEnumMember head (ts.map Twin.first))
      (readEnumMember head' (ts.map Twin.second)) := by
  unfold readEnumMember
  rw [lookEnumMember] at h
  rw [hkind]
  by_cases hassigned : head.kind = "enum_assignment"
  · rw [if_pos hassigned] at h ⊢
    rw [if_pos hassigned]
    simp only [Twin.field?_first, Twin.field?_second, Twin.named_first, Twin.named_second,
      List.head?_map, ← Option.map_or]
    cases hname : (selectField? Twin.head ts "name").or (selectNamed Twin.head ts).head? with
    | none => exact fun _ _ => nofun
    | some name =>
        refine AgreeOn.bind_same (h.left.option hname) fun text => ?_
        refine (AgreeOn.option fun t ht => h.right.option ht).bind fun value value' hvalue => .ok ?_
        simp [EnumMember.bare, hvalue]
  · rw [if_neg hassigned] at h ⊢
    rw [if_neg hassigned]
    exact (agree_name hkind h).map_same fun _ => rfl

theorem agree_enum
    (h : LooksAlike head head' (lookNameAnd Twin.head ts .enumMembers "body")) :
    AgreeOn (fun e => (Declaration.enum e).bare) (readEnum head (ts.map Twin.first))
      (readEnum head' (ts.map Twin.second)) := by
  simp only [readEnum, Twin.field?_first, Twin.field?_second]
  refine (AgreeOn.option fun t ht => h.right.option ht).bind fun ms ms' hms => ?_
  refine (agree_textOf h.left).bind_same fun name => .ok ?_
  simp [Declaration.bare, map_getD_congr hms]

theorem agree_declarator
    (h : LooksAlike head head' (lookNameAnd Twin.head ts .expression "value")) :
    AgreeOn Declarator.bare (readDeclarator head (ts.map Twin.first))
      (readDeclarator head' (ts.map Twin.second)) := by
  simp only [readDeclarator, Twin.field?_first, Twin.field?_second]
  refine (agree_textOf h.left).bind_same fun name => ?_
  refine (AgreeOn.option fun t ht => h.right.option ht).bind fun value value' hvalue => .ok ?_
  simp [Declarator.bare, hvalue]

theorem agree_declarators
    (h : LooksAlike head head' (lookDeclarators Twin.head ts)) :
    AgreeOn (List.map Declarator.bare) (readDeclarators (ts.map Twin.first))
      (readDeclarators (ts.map Twin.second)) := by
  rw [readDeclarators, readDeclarators, Twin.named_first, Twin.named_second,
    Twin.filter_first (· == "variable_declarator"), Twin.filter_second (· == "variable_declarator")]
  exact AgreeOn.mapM fun t ht => h.each ht

/-! ## Statements -/

theorem agree_otherStatement
    (hkind : head'.kind = head.kind)
    (h : LooksAlike head head' (lookNamed Twin.head ts .expression)) :
    AgreeOn Statement.bare (readOtherStatement head (ts.map Twin.first))
      (readOtherStatement head' (ts.map Twin.second)) := by
  refine (agree_named h fun t ht => ht).bind fun es es' hes => .ok ?_
  simp [Statement.bare, hkind, map_bare_expr hes]

theorem agree_export
    (hkind : head'.kind = head.kind)
    (h : LooksAlike head head' (lookExport Twin.head ts)) :
    AgreeOn Statement.bare (readExport head (ts.map Twin.first))
      (readExport head' (ts.map Twin.second)) := by
  simp only [readExport, Twin.field?_first, Twin.field?_second, Twin.hasToken_second]
  cases hdeclaration : selectField? Twin.head ts "declaration" with
  | some declaration =>
      simp only [lookExport, hdeclaration] at h
      exact h.child (.part .statement) declaration List.mem_cons_self
  | none =>
      cases hvalue : selectField? Twin.head ts "value" with
      | none =>
          simp only [lookExport, hdeclaration, hvalue] at h
          exact agree_otherStatement hkind h
      | some value =>
          simp only [lookExport, hdeclaration, hvalue] at h
          have hdefault : (ts.any fun t => !t.head.named && t.head.kind == "default") =
              Children.hasToken (ts.map Twin.first) "default" := by
            rw [Children.hasToken, List.any_map]
            rfl
          rw [hdefault] at h
          simp only [Option.map_none, Option.map_some]
          split
          · rename_i hdefault
            rw [if_pos hdefault] at h
            refine AgreeOn.map (h.child (.part .expression) value List.mem_cons_self)
              fun e e' he => ?_
            rw [Statement.bare, Statement.bare, he]
          · rename_i hdefault
            rw [if_neg hdefault] at h
            exact agree_otherStatement hkind h

theorem agree_statement
    (hkind : head'.kind = head.kind)
    (h : LooksAlike head head' (lookStatement Twin.head ts head)) :
    AgreeOn Statement.bare (readStatement head (ts.map Twin.first))
      (readStatement head' (ts.map Twin.second)) := by
  unfold readStatement
  rw [hkind]
  split
  all_goals simp only [lookStatement, *] at h
  case h_1 =>
    exact (agree_interface h).map fun i i' hi => by
      rw [Statement.bare, Statement.bare, hi]
  case h_2 =>
    exact (agree_typeAlias h).map fun a a' ha => by
      rw [Statement.bare, Statement.bare, ha]
  case h_3 =>
    exact (agree_enum h).map fun e e' he => by
      rw [Statement.bare, Statement.bare, he]
  case h_4 | h_5 =>
    refine (agree_declarators h).map fun ds ds' hds => ?_
    simp [Statement.bare, hds]
  case h_6 =>
    rw [Twin.named_first, Twin.named_second]
    rcases hnamed : selectNamed Twin.head ts with _ | ⟨inner, _ | _⟩
    · exact agree_otherStatement hkind h
    · rw [lookNamed, hnamed] at h
      refine AgreeOn.map (h.child (.part .expression) inner List.mem_cons_self) fun e e' he => ?_
      rw [Statement.bare, Statement.bare, he]
    · exact agree_otherStatement hkind h
  case h_7 => exact agree_export hkind h
  case h_8 => exact agree_otherStatement hkind h

/-! ## Every use -/

/-- Where a use looks only at readings that are alike, it gives what is alike. -/
theorem alike_ofChildren
    (hkind : head'.kind = head.kind)
    {use : Use}
    (h : LooksAlike head head' (use.looks Twin.head ts head)) :
    AlikeIn use (.ofChildren head (ts.map Twin.first)) (.ofChildren head' (ts.map Twin.second)) := by
  cases use with
  | text => exact h.own List.mem_cons_self
  | name => exact agree_name hkind h
  | part role =>
      cases role with
      | statement => exact agree_statement hkind h
      | expression => exact agree_expression hkind h
      | type => exact agree_type hkind h
      | unionMembers => exact agree_union h
      | typing =>
          rw [AlikeIn, typing_ofChildren, typing_ofChildren]
          exact agree_type hkind h
      | parameter => exact agree_parameter hkind h
      | parameters => exact agree_parameters h
      | member => exact agree_member hkind h
      | base => exact agree_base hkind h
      | enumMember => exact agree_enumMember hkind h
      | declarator => exact agree_declarator h
      | statements | expressions | types | members | bases | enumMembers =>
          exact agree_named h fun t ht => ht

end Rules

end Concrete

end ModuleSpec
