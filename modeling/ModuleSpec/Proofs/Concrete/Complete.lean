import ModuleSpec.Proofs.Concrete.Bases
import ModuleSpec.Proofs.Result

/-!
# Complete readings

A reading is complete when the node can be read in every way.  Most rules of reading ask
for nothing: a child that is missing is passed over, and a node that no rule knows is
kept by its kind.  A rule fails only where a text is asked for and the node has none,
where a numeral has no value, and where a generic type or an assignment in an enum has
nothing to be named by.

**Results.**  `complete_ofChildren`: a node that is sound itself and whose children are
completely read is completely read.  There is one lemma for each rule of reading.
-/

namespace ModuleSpec

namespace Concrete

/-- A computation that has a result. -/
def Reads {α : Type} (x : Read α) : Prop :=
  ∃ a, x = .ok a

namespace Reads

variable {α β : Type}

theorem ok (a : α) : Reads (.ok a : Read α) :=
  ⟨a, rfl⟩

theorem bind
    {x : Read α}
    {f : α → Read β}
    (hx : Reads x)
    (hf : ∀ a, x = .ok a → Reads (f a)) :
    Reads (x >>= f) := by
  obtain ⟨a, rfl⟩ := hx
  exact hf a rfl

theorem map
    {x : Read α}
    (hx : Reads x)
    (f : α → β) :
    Reads (x.map f) := by
  obtain ⟨a, rfl⟩ := hx
  exact ⟨f a, rfl⟩

end Reads

/-- A reading in which a node is read in every way that its parent may ask for. -/
structure Reading.Complete (r : Reading) : Prop where
  text : Reads r.text
  number : r.kind = "number" → ∀ text, r.text = .ok text → Reads (readNumber text)
  propertyName : Reads r.propertyName
  expression : Reads r.expression
  expressions : Reads r.expressions
  type : Reads r.type
  types : Reads r.types
  unionMembers : Reads r.unionMembers
  typing : Reads r.typing
  parameter : Reads r.parameter
  parameters : Reads r.parameters
  member : Reads r.member
  members : Reads r.members
  base : Reads r.base
  bases : Reads r.bases
  enumMember : Reads r.enumMember
  enumMembers : Reads r.enumMembers
  declarator : Reads r.declarator
  statement : Reads r.statement

/-- All of some readings are complete. -/
def Children.Complete (children : Children) : Prop :=
  ∀ r, r ∈ children → r.Complete

/-- What a rule may ask of a node itself: a text, the value of a numeral, and a name. -/
structure Head.Sound (head : Head) (children : Children) : Prop where
  text : Reads head.text
  number : head.kind = "number" → ∀ text, head.text = .ok text → Reads (readNumber text)
  name : head.kind = "generic_type" ∨ head.kind = "enum_assignment" →
    (children.field? "name").or children.named.head? ≠ none

section Rules

variable {head : Head} {children : Children}

/-! ## Children -/

namespace Children.Complete

variable (h : children.Complete)
include h

theorem named : children.named.Complete :=
  fun r hr => h r (mem_of_mem_named hr)

theorem field? (field : String) : ∀ r ∈ children.field? field, r.Complete :=
  fun r hr => h r (mem_of_field? hr)

theorem ofKind? (kinds : List String) : ∀ r ∈ children.ofKind? kinds, r.Complete :=
  fun r hr => h r (mem_of_ofKind? hr)

theorem field?_or_ofKind?
    (field : String)
    (kinds : List String) :
    ∀ r ∈ (children.field? field).or (children.ofKind? kinds), r.Complete := by
  intro r hr
  rcases Option.or_eq_some_iff.1 hr with hr | ⟨-, hr⟩
  · exact h.field? field r hr
  · exact h.ofKind? kinds r hr

theorem name?
    {r : Reading}
    (hr : (children.field? "name").or children.named.head? = some r) :
    r.Complete := by
  rcases Option.or_eq_some_iff.1 hr with hr | ⟨-, hr⟩
  · exact h.field? "name" r hr
  · exact h.named r (List.mem_of_head? hr)

end Children.Complete

theorem reads_each
    {α : Type}
    {rs : List Reading}
    (hrs : Children.Complete rs)
    {f : Reading → Read α}
    (hf : ∀ r : Reading, r.Complete → Reads (f r)) :
    Reads (rs.mapM f) :=
  exists_mapM_eq_ok fun r hr => hf r (hrs r hr)

theorem reads_named
    {α : Type}
    (h : children.Complete)
    {f : Reading → Read α}
    (hf : ∀ r : Reading, r.Complete → Reads (f r)) :
    Reads (children.readNamed f) :=
  reads_each h.named hf

theorem reads_option
    {α : Type}
    {o : Option Reading}
    (ho : ∀ r ∈ o, r.Complete)
    {f : Reading → Read α}
    (hf : ∀ r : Reading, r.Complete → Reads (f r)) :
    Reads (readOption o f) := by
  cases o with
  | none => exact .ok none
  | some r => exact (hf r (ho r rfl)).map some

theorem reads_textOf
    {o : Option Reading}
    (ho : ∀ r ∈ o, r.Complete) :
    Reads (textOf o) := by
  cases o with
  | none => exact .ok ""
  | some r => exact (ho r rfl).text

/-! ## Names and expressions -/

theorem reads_string
    (hhead : head.Sound children)
    (h : children.Complete) :
    Reads (readString head children) := by
  unfold readString
  dsimp only
  split
  case isTrue => exact hhead.text.map unquote
  case isFalse =>
      have hfragments : Children.Complete (children.filter fun r =>
          r.kind == "string_fragment" || r.kind == "escape_sequence") :=
        fun r hr => h r (List.mem_filter.1 hr).1
      exact (reads_each hfragments fun _ hr => hr.text).bind fun _ _ => .ok _

theorem reads_propertyName
    (hhead : head.Sound children)
    (h : children.Complete) :
    Reads (readPropertyName head children) := by
  unfold readPropertyName
  split
  case isTrue => exact reads_string hhead h
  case isFalse => exact hhead.text

theorem reads_otherExpression
    (h : children.Complete) :
    Reads (readOtherExpression head children) :=
  (reads_named h fun _ hr => hr.expression).bind fun _ _ => .ok _

theorem reads_unary
    (h : children.Complete) :
    Reads (readUnary head children) := by
  unfold readUnary
  split
  case h_2 => exact reads_otherExpression h
  case h_1 operand operator hoperand hoperator =>
      have hoperand := h.field? _ operand hoperand
      split
      case isFalse => exact reads_otherExpression h
      case isTrue hnumber =>
          refine (h.field? _ operator hoperator).text.bind fun _ _ => ?_
          split
          case isFalse => exact reads_otherExpression h
          case isTrue =>
              refine hoperand.text.bind fun text htext => ?_
              exact (hoperand.number hnumber text htext).bind fun _ _ => .ok _

theorem reads_access
    (h : children.Complete)
    (key : String)
    (computed : Bool) :
    Reads (readAccess head children key computed) := by
  unfold readAccess
  split
  case h_1 object property hobject hproperty =>
      refine (h.field? _ object hobject).expression.bind fun _ _ => ?_
      exact (h.field? _ property hproperty).expression.bind fun _ _ => .ok _
  case h_2 => exact reads_otherExpression h

theorem reads_call
    (h : children.Complete) :
    Reads (readCall head children) := by
  unfold readCall
  split
  case h_1 => exact .ok _
  case h_2 callee hcallee =>
      refine (reads_option (h.field? _) fun _ hr => hr.expressions).bind fun _ _ => ?_
      refine (reads_option (h.field? _) fun _ hr => hr.types).bind fun _ _ => ?_
      exact (h.field? _ callee hcallee).expression.bind fun _ _ => .ok _

theorem reads_expression
    (hhead : head.Sound children)
    (h : children.Complete) :
    Reads (readExpression head children) := by
  unfold readExpression
  split
  case h_1 | h_2 | h_3 => exact hhead.text.map _
  case h_4 => exact (reads_string hhead h).map _
  case h_5 hnumber =>
      refine hhead.text.bind fun text htext => ?_
      exact (hhead.number hnumber text htext).bind fun _ _ => .ok _
  case h_6 | h_7 => exact .ok _
  case h_8 => exact reads_unary h
  case h_9 | h_10 => exact reads_access h _ _
  case h_11 => exact reads_call h
  case h_12 => exact reads_otherExpression h

/-! ## Types -/

/-- Where there is a name, a generic type is read. -/
theorem reads_generic
    (h : children.Complete)
    (hname : (children.field? "name").or children.named.head? ≠ none) :
    Reads (readGeneric children) := by
  unfold readGeneric
  split
  case h_1 hnone => exact absurd hnone hname
  case h_2 name hsome =>
      refine (reads_option (h.field?_or_ofKind? _ _) fun _ hr => hr.types).bind fun _ _ => ?_
      exact (h.name? hsome).text.bind fun _ _ => .ok _

theorem reads_unionMembers
    (h : children.Complete) :
    Reads (readUnionMembers children) := by
  refine (reads_named h fun r hr => ?_).bind fun _ _ => .ok _
  split
  case isTrue => exact hr.unionMembers
  case isFalse => exact hr.type.map _

theorem reads_signatureParams
    (h : children.Complete) :
    Reads (signatureParams children) :=
  (reads_option (h.field?_or_ofKind? _ _) fun _ hr => hr.parameters).bind fun _ _ => .ok _

theorem reads_signatureResult
    (h : children.Complete) :
    Reads (signatureResult children) :=
  reads_option (h.field? _) fun _ hr => hr.typing

theorem reads_literalType
    (h : children.Complete) :
    Reads (readLiteralType head children) := by
  unfold readLiteralType
  split
  case h_1 => exact .ok _
  case h_2 literal rest =>
      split
      case isTrue => exact .ok _
      case isFalse => exact (h literal List.mem_cons_self).expression.map _

theorem reads_typing
    (h : children.Complete) :
    Reads (readTyping head children) := by
  unfold readTyping
  split
  case h_1 => exact .ok _
  case h_2 t rest hcons => exact (h.named t (hcons ▸ List.mem_cons_self)).type

theorem reads_type
    (hhead : head.Sound children)
    (h : children.Complete) :
    Reads (readType head children) := by
  unfold readType
  dsimp only
  split
  case h_1 | h_2 | h_3 | h_4 => exact hhead.text.map _
  case h_5 hgeneric => exact (reads_generic h (hhead.name (.inl hgeneric))).map _
  case h_6 =>
      split
      case h_1 => exact .ok _
      case h_2 element rest hcons =>
          exact (h.named element (hcons ▸ List.mem_cons_self)).type.map _
  case h_7 | h_8 =>
      split
      case h_1 => exact .ok _
      case h_2 operand hlast => exact (h.named operand (List.mem_of_getLast? hlast)).type.map _
  case h_9 => exact reads_literalType h
  case h_10 => exact (reads_unionMembers h).map _
  case h_11 =>
      split
      case h_1 inner hone => exact (h.named inner (hone ▸ List.mem_cons_self)).type
      case h_2 => exact .ok _
  case h_12 => exact (reads_named h fun _ hr => hr.member).map _
  case h_13 =>
      refine (reads_signatureParams h).bind fun _ _ => ?_
      exact (reads_signatureResult h).bind fun _ _ => .ok _
  case h_14 => exact reads_typing h
  case h_15 => exact .ok _

/-! ## Members -/

theorem reads_parameter
    (h : children.Complete) :
    Reads (readParameter head children) := by
  have hname : ∀ r ∈ ((children.field? "pattern").or (children.field? "name")).or
      (children.ofKind? ["identifier"]), r.Complete := by
    intro r hr
    rcases Option.or_eq_some_iff.1 hr with hr | ⟨-, hr⟩
    · rcases Option.or_eq_some_iff.1 hr with hr | ⟨-, hr⟩
      · exact h.field? _ r hr
      · exact h.field? _ r hr
    · exact h.ofKind? _ r hr
  refine (reads_textOf hname).bind fun _ _ => ?_
  exact (reads_option (h.field? _) fun _ hr => hr.typing).bind fun _ _ => .ok _

theorem reads_parameters
    (h : children.Complete) :
    Reads (readParameters children) := by
  have hparameters : Children.Complete (children.named.filter fun r =>
      r.kind == "required_parameter" || r.kind == "optional_parameter") :=
    fun r hr => h.named r (List.mem_filter.1 hr).1
  exact reads_each hparameters fun _ hr => hr.parameter

theorem reads_member
    (h : children.Complete) :
    Reads (readMember head children) := by
  refine (reads_option (h.field? _) fun _ hr => hr.propertyName).bind fun _ _ => ?_
  dsimp only
  split
  case h_1 => exact (reads_option (h.field? _) fun _ hr => hr.typing).bind fun _ _ => .ok _
  case h_2 =>
      refine (reads_signatureParams h).bind fun _ _ => ?_
      exact (reads_signatureResult h).bind fun _ _ => .ok _
  case h_3 => exact .ok _

/-! ## Declarations -/

theorem reads_base
    (hhead : head.Sound children)
    (h : children.Complete) :
    Reads (readBase head children) := by
  unfold readBase
  split
  case isTrue hgeneric => exact (reads_generic h (hhead.name (.inl hgeneric))).map _
  case isFalse => exact hhead.text.map _

theorem reads_interface
    (h : children.Complete) :
    Reads (readInterface head children) := by
  refine (reads_textOf (h.field? _)).bind fun _ _ => ?_
  refine (reads_option (h.ofKind? _) fun _ hr => hr.bases).bind fun _ _ => ?_
  exact (reads_option (h.field?_or_ofKind? _ _) fun _ hr => hr.members).bind fun _ _ => .ok _

theorem reads_typeAlias
    (h : children.Complete) :
    Reads (readTypeAlias head children) := by
  refine (reads_option (h.field? _) fun _ hr => hr.type).bind fun _ _ => ?_
  exact (reads_textOf (h.field? _)).bind fun _ _ => .ok _

theorem reads_enumMember
    (hhead : head.Sound children)
    (h : children.Complete) :
    Reads (readEnumMember head children) := by
  unfold readEnumMember
  split
  case isFalse => exact (reads_propertyName hhead h).map _
  case isTrue hassignment =>
      split
      case h_1 hnone => exact absurd hnone (hhead.name (.inr hassignment))
      case h_2 name hsome =>
          refine (h.name? hsome).propertyName.bind fun _ _ => ?_
          exact (reads_option (h.field? _) fun _ hr => hr.expression).bind fun _ _ => .ok _

theorem reads_enum
    (h : children.Complete) :
    Reads (readEnum head children) := by
  refine (reads_option (h.field? _) fun _ hr => hr.enumMembers).bind fun _ _ => ?_
  exact (reads_textOf (h.field? _)).bind fun _ _ => .ok _

theorem reads_declarator
    (h : children.Complete) :
    Reads (readDeclarator head children) := by
  refine (reads_textOf (h.field? _)).bind fun _ _ => ?_
  exact (reads_option (h.field? _) fun _ hr => hr.expression).bind fun _ _ => .ok _

theorem reads_declarators
    (h : children.Complete) :
    Reads (readDeclarators children) := by
  have hdeclarators : Children.Complete
      (children.named.filter fun r => r.kind == "variable_declarator") :=
    fun r hr => h.named r (List.mem_filter.1 hr).1
  exact reads_each hdeclarators fun _ hr => hr.declarator

/-! ## Statements -/

theorem reads_otherStatement
    (h : children.Complete) :
    Reads (readOtherStatement head children) :=
  (reads_named h fun _ hr => hr.expression).bind fun _ _ => .ok _

theorem reads_export
    (h : children.Complete) :
    Reads (readExport head children) := by
  unfold readExport
  split
  case h_1 declaration hdeclaration => exact (h.field? _ declaration hdeclaration).statement
  case h_2 value hnone hvalue =>
      split
      case isTrue => exact (h.field? _ value hvalue).expression.map _
      case isFalse => exact reads_otherStatement h
  case h_3 => exact reads_otherStatement h

theorem reads_statement
    (h : children.Complete) :
    Reads (readStatement head children) := by
  unfold readStatement
  split
  case h_1 => exact (reads_interface h).map _
  case h_2 => exact (reads_typeAlias h).map _
  case h_3 => exact (reads_enum h).map _
  case h_4 | h_5 => exact (reads_declarators h).map _
  case h_6 =>
      split
      case h_1 inner hone => exact (h.named inner (hone ▸ List.mem_cons_self)).expression.map _
      case h_2 => exact reads_otherStatement h
  case h_7 => exact reads_export h
  case h_8 => exact reads_otherStatement h

/-! ## Nodes -/

/-- A sound node with completely read children is completely read. -/
theorem complete_ofChildren
    (hhead : head.Sound children)
    (h : children.Complete) :
    (Reading.ofChildren head children).Complete where
  text := hhead.text
  number := hhead.number
  propertyName := reads_propertyName hhead h
  expression := reads_expression hhead h
  expressions := reads_named h fun _ hr => hr.expression
  type := reads_type hhead h
  types := reads_named h fun _ hr => hr.type
  unionMembers := reads_unionMembers h
  typing := by
    rw [typing_ofChildren]
    exact reads_type hhead h
  parameter := reads_parameter h
  parameters := reads_parameters h
  member := reads_member h
  members := reads_named h fun _ hr => hr.member
  base := reads_base hhead h
  bases := reads_named h fun _ hr => hr.base
  enumMember := reads_enumMember hhead h
  enumMembers := reads_named h fun _ hr => hr.enumMember
  declarator := reads_declarator h
  statement := reads_statement h

end Rules

end Concrete

end ModuleSpec
