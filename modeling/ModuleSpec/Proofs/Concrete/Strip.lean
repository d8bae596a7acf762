import ModuleSpec.Proofs.Calls

/-!
# Comments in concrete trees

A comment stands among the children of a node like any token.  A reading passes
over it, because it plays no part in its parent and is of no kind that a rule
looks for.  The one rule that takes its child by position is that of literals as
types.

**Results.**  Without its comments a tree is read as it is with them
(`Node.read_strip`), as long as the comments are plain.
-/

namespace ModuleSpec

namespace Concrete

/-! ## Lists of children without comments -/

namespace Children

/-- The children that are no comments. -/
def withoutComments (children : Children) : Children :=
  children.filter fun r => r.kind != "comment"

variable {children : Children}

theorem named_withoutComments :
    children.withoutComments.named = children.named := by
  unfold withoutComments named
  rw [List.filter_filter]
  congr 1
  funext r
  cases r.head.named <;> simp

/-- What no comment meets is looked for among the others. -/
theorem find?_withoutComments
    {p : Reading → Bool}
    (h : ∀ r, r ∈ children → r.kind = "comment" → p r = false) :
    children.withoutComments.find? p = children.find? p := by
  unfold withoutComments
  induction children with
  | nil => rfl
  | cons r rs ih =>
      have ih := ih fun r' hr' => h r' (List.mem_cons_of_mem r hr')
      by_cases hr : r.kind = "comment"
      · rw [List.filter_cons_of_neg (by simp [hr]), List.find?_cons_of_neg, ih]
        simp [h r List.mem_cons_self hr]
      · rw [List.filter_cons_of_pos (by simp [hr]), List.find?_cons, List.find?_cons, ih]

theorem field?_withoutComments
    (h : ∀ r, r ∈ children → r.kind = "comment" → r.head.field = none)
    (field : String) :
    children.withoutComments.field? field = children.field? field :=
  find?_withoutComments fun r hr hkind => by simp [h r hr hkind]

theorem ofKind?_withoutComments
    (kinds : List String)
    (h : "comment" ∉ kinds) :
    children.withoutComments.ofKind? kinds = children.ofKind? kinds :=
  find?_withoutComments fun r _ hkind => by simpa [hkind] using h

theorem hasToken_withoutComments
    (token : String)
    (h : token ≠ "comment") :
    children.withoutComments.hasToken token = children.hasToken token := by
  unfold withoutComments hasToken
  rw [List.any_filter]
  congr 1
  funext r
  by_cases hr : r.kind = "comment" <;> simp [hr, h.symm]

theorem fragments_withoutComments :
    children.withoutComments.filter (fun r =>
        r.kind == "string_fragment" || r.kind == "escape_sequence") =
      children.filter fun r => r.kind == "string_fragment" || r.kind == "escape_sequence" := by
  unfold withoutComments
  rw [List.filter_filter]
  refine List.filter_congr fun r _ => ?_
  by_cases hr : r.kind = "comment" <;> simp [hr]

end Children

/-- The comments among some children play no part in their parent. -/
def Children.CommentsApart (children : Children) : Prop :=
  ∀ r, r ∈ children → r.kind = "comment" → r.head.field = none

section Rules

variable {head : Head} {children : Children}

theorem readString_withoutComments :
    readString head children.withoutComments = readString head children := by
  simp only [readString, Children.fragments_withoutComments]

theorem readPropertyName_withoutComments :
    readPropertyName head children.withoutComments = readPropertyName head children := by
  simp only [readPropertyName, readString_withoutComments]

theorem readExpression_withoutComments
    (h : children.CommentsApart) :
    readExpression head children.withoutComments = readExpression head children := by
  simp only [readExpression, readString_withoutComments, readUnary, readAccess, readCall,
    readOtherExpression, Children.readNamed, Children.named_withoutComments,
    Children.field?_withoutComments h]

theorem readGeneric_withoutComments
    (h : children.CommentsApart) :
    readGeneric children.withoutComments = readGeneric children := by
  simp only [readGeneric, Children.named_withoutComments, Children.field?_withoutComments h,
    Children.ofKind?_withoutComments ["type_arguments"] (by decide)]

theorem readUnionMembers_withoutComments :
    readUnionMembers children.withoutComments = readUnionMembers children := by
  simp only [readUnionMembers, Children.readNamed, Children.named_withoutComments]

theorem signatureParams_withoutComments
    (h : children.CommentsApart) :
    signatureParams children.withoutComments = signatureParams children := by
  simp only [signatureParams, Children.field?_withoutComments h,
    Children.ofKind?_withoutComments ["formal_parameters"] (by decide)]

theorem signatureResult_withoutComments
    (h : children.CommentsApart) :
    signatureResult children.withoutComments = signatureResult children := by
  simp only [signatureResult, Children.field?_withoutComments h]

/-- A literal is the first child, and that is no comment. -/
theorem readLiteralType_withoutComments
    (hfirst : ∀ r, children.head? = some r → r.kind ≠ "comment") :
    readLiteralType head children.withoutComments = readLiteralType head children := by
  cases children with
  | nil => rfl
  | cons literal rest =>
      have hliteral : literal.kind ≠ "comment" := hfirst literal rfl
      rw [Children.withoutComments, List.filter_cons_of_pos (by simp [hliteral])]
      rfl

theorem readType_withoutComments
    (h : children.CommentsApart)
    (hfirst : head.kind = "literal_type" → ∀ r, children.head? = some r → r.kind ≠ "comment") :
    readType head children.withoutComments = readType head children := by
  by_cases hkind : head.kind = "literal_type"
  · simp only [readType, hkind, readLiteralType_withoutComments (hfirst hkind)]
  · unfold readType
    split
    case h_9 => contradiction
    all_goals
      simp only [readGeneric_withoutComments h, readUnionMembers_withoutComments,
        signatureParams_withoutComments h, signatureResult_withoutComments h, readTyping,
        Children.readNamed, Children.named_withoutComments]

theorem readMember_withoutComments
    (h : children.CommentsApart) :
    readMember head children.withoutComments = readMember head children := by
  simp only [readMember, Children.field?_withoutComments h, signatureParams_withoutComments h,
    signatureResult_withoutComments h, Children.hasToken_withoutComments "?" (by decide)]

theorem readParameter_withoutComments
    (h : children.CommentsApart) :
    readParameter head children.withoutComments = readParameter head children := by
  simp only [readParameter, Children.field?_withoutComments h,
    Children.ofKind?_withoutComments ["identifier"] (by decide)]

theorem readEnumMember_withoutComments
    (h : children.CommentsApart) :
    readEnumMember head children.withoutComments = readEnumMember head children := by
  simp only [readEnumMember, Children.field?_withoutComments h, Children.named_withoutComments,
    readPropertyName_withoutComments]

theorem readStatement_withoutComments
    (h : children.CommentsApart) :
    readStatement head children.withoutComments = readStatement head children := by
  simp only [readStatement, readInterface, readTypeAlias, readEnum, readDeclarators, readExport,
    readOtherStatement, Children.readNamed, Children.field?_withoutComments h,
    Children.named_withoutComments,
    Children.hasToken_withoutComments "default" (by decide),
    Children.ofKind?_withoutComments ["extends_type_clause", "extends_clause"] (by decide),
    Children.ofKind?_withoutComments ["interface_body", "object_type"] (by decide)]

/-- A node is read from its children without the comments as it is from all of them. -/
theorem ofChildren_withoutComments
    (h : children.CommentsApart)
    (hfirst : head.kind = "literal_type" → ∀ r, children.head? = some r → r.kind ≠ "comment") :
    Reading.ofChildren head children.withoutComments = Reading.ofChildren head children := by
  simp only [Reading.ofChildren, readPropertyName_withoutComments,
    readExpression_withoutComments h, readGeneric_withoutComments h,
    readType_withoutComments h hfirst, readUnionMembers_withoutComments, readTyping,
    readParameter_withoutComments h, readParameters, readMember_withoutComments h, readBase,
    readEnumMember_withoutComments h, readDeclarator, readDeclarators,
    readStatement_withoutComments h, Children.readNamed, Children.named_withoutComments,
    Children.field?_withoutComments h]

end Rules

/-! ## Trees without comments -/

namespace Node

mutual

/-- The tree without the comments in it. -/
def strip : Node → Node
  | .mk kind named field start stop children =>
      .mk kind named field start stop (stripAll children)

def stripAll : List Node → List Node
  | [] => []
  | n :: ns => if n.kind = "comment" then stripAll ns else n.strip :: stripAll ns

end

mutual

/-- The node and every node beneath it. -/
def nodes : Node → List Node
  | n@(.mk _ _ _ _ _ children) => n :: nodesAll children

def nodesAll : List Node → List Node
  | [] => []
  | n :: ns => n.nodes ++ nodesAll ns

end

/-- Comments play no part in the nodes they stand in, and no literal type begins with one. -/
structure CommentsPlain (n : Node) : Prop where
  field : ∀ m, m ∈ n.nodes → ∀ c, c ∈ m.children → c.kind = "comment" → c.field = none
  first : ∀ m, m ∈ n.nodes → m.kind = "literal_type" →
    ∀ c, c ∈ m.children.head? → c.kind ≠ "comment"

theorem stripAll_eq_map
    (ns : List Node) :
    stripAll ns = (ns.filter fun n => n.kind != "comment").map strip := by
  induction ns with
  | nil => rfl
  | cons n ns ih =>
      rw [stripAll, ih]
      by_cases hn : n.kind = "comment" <;> simp [hn]

theorem nodesAll_eq_flatMap
    (ns : List Node) :
    nodesAll ns = ns.flatMap nodes := by
  induction ns with
  | nil => rfl
  | cons n ns ih => rw [nodesAll, ih, List.flatMap_cons]

theorem nodes_eq
    (n : Node) :
    n.nodes = n :: n.children.flatMap nodes := by
  obtain ⟨kind, named, field, start, stop, children⟩ := n
  rw [nodes, nodesAll_eq_flatMap]
  rfl

theorem CommentsPlain.child
    {n c : Node}
    (h : n.CommentsPlain)
    (hc : c ∈ n.children) :
    c.CommentsPlain := by
  have hnodes {m : Node} (hm : m ∈ c.nodes) : m ∈ n.nodes := by
    rw [nodes_eq n]
    exact List.mem_cons_of_mem n (List.mem_flatMap.2 ⟨c, hc, hm⟩)
  exact ⟨fun m hm => h.field m (hnodes hm), fun m hm => h.first m (hnodes hm)⟩

theorem kind_read
    (source : Source)
    (n : Node) :
    (n.read source).kind = n.kind := by
  obtain ⟨kind, named, field, start, stop, children⟩ := n
  rfl

theorem children_strip
    (n : Node) :
    n.strip.children = (n.children.filter fun c => c.kind != "comment").map strip := by
  obtain ⟨kind, named, field, start, stop, children⟩ := n
  exact stripAll_eq_map children

theorem head_strip
    (source : Source)
    (n : Node) :
    n.strip.head source = n.head source := by
  obtain ⟨kind, named, field, start, stop, children⟩ := n
  rfl

/-- Without its comments a tree is read as it is with them. -/
theorem read_strip
    {source : Source}
    {n : Node}
    (h : n.CommentsPlain) :
    n.strip.read source = n.read source := by
  induction n using Node.induction with
  | h n ih =>
      have hself : n ∈ n.nodes := by
        rw [nodes_eq]
        exact List.mem_cons_self
      have hread : n.strip.children.map (read source) =
          Children.withoutComments (n.children.map (read source)) := by
        rw [children_strip, List.map_map, Children.withoutComments, List.filter_map]
        have hkind : ((fun r : Reading => r.kind != "comment") ∘ read source) =
            fun c => c.kind != "comment" := by
          funext c
          simp [kind_read]
        rw [hkind]
        refine List.map_congr_left fun c hc => ?_
        have hchild : c ∈ n.children := (List.mem_filter.1 hc).1
        exact ih c hchild (h.child hchild)
      rw [read_eq, read_eq, head_strip, hread]
      refine ofChildren_withoutComments ?_ ?_
      · intro r hr hkind
        obtain ⟨c, hc, rfl⟩ := List.mem_map.1 hr
        rw [kind_read] at hkind
        rw [field_read, h.field n hself c hc hkind]
      · intro hliteral r hr
        rw [List.head?_map] at hr
        obtain ⟨c, hc, rfl⟩ := Option.map_eq_some_iff.1 hr
        rw [kind_head] at hliteral
        rw [kind_read]
        exact h.first n hself hliteral c hc

end Node

end Concrete

end ModuleSpec
