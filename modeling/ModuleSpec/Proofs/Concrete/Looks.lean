import ModuleSpec.Proofs.Calls

/-!
# Where a reading looks for text

A reading looks at the text of few nodes: of names, of literals, of operators.
Of all others it sees only the kind, the part they play in their parent, and
which nodes stand beneath them.

A node is used for its text, for the name it is, or in one of the roles.
`Use.looks` lists, for each use of a node, where it looks: at the text of the node
itself, and at children, each for a use of its own.  It follows the rules of
reading case by case, but says nothing of the abstract tree that they build.

**Results.**  What a use looks at depends on the heads of the children, whatever
the children are (`Use.looks_map`).  `Node.texts` lists the texts that are read of
a whole tree.
-/

namespace ModuleSpec

namespace Concrete

/-- What a node is used for: its text, the name it is, or what it is in a role. -/
inductive Use
  | text
  | name
  | part (role : Role)
  deriving DecidableEq, Repr

/-- One look: at the text of the node itself, or at a child for a use. -/
inductive Look (α : Type)
  | own
  | child
      (use : Use)
      (a : α)

/-- The same look, at what stands for the child. -/
def Look.map {α β : Type} (f : α → β) : Look α → Look β
  | own => own
  | child use a => child use (f a)

/-! ## Selecting children -/

section Select

variable {α : Type} (view : α → Head) (children : List α)

def selectNamed : List α :=
  children.filter fun a => (view a).named && (view a).kind != "comment"

def selectField? (field : String) : Option α :=
  children.find? fun a => (view a).field == some field

def selectKind? (kinds : List String) : Option α :=
  children.find? fun a => kinds.contains (view a).kind

/-! ## Looks of each rule -/

variable (head : Head)

/-- An optional child, for a use. -/
def lookOption (use : Use) (o : Option α) : List (Look α) :=
  o.toList.map (.child use)

/-- The named children in a role. -/
def lookNamed (role : Role) : List (Look α) :=
  (selectNamed view children).map (.child (.part role))

/-- The fragments of a string; a string without any is looked at as a whole. -/
def lookString : List (Look α) :=
  let fragments := children.filter fun a =>
    (view a).kind == "string_fragment" || (view a).kind == "escape_sequence"
  if fragments.isEmpty then [.own] else fragments.map (.child .text)

def lookName : List (Look α) :=
  if head.kind = "string" then lookString view children else [.own]

/-- Before a numeral the operator decides whether the numeral is looked at by itself. -/
def lookUnary : List (Look α) :=
  match selectField? view children "argument", selectField? view children "operator" with
  | some operand, some operator =>
      if (view operand).kind = "number" then
        .child .text operator ::
          match (view operator).text with
          | .ok sign =>
              if sign = "-" then [.child .text operand] else lookNamed view children .expression
          | .error _ => []
      else
        lookNamed view children .expression
  | _, _ => lookNamed view children .expression

def lookAccess (key : String) : List (Look α) :=
  match selectField? view children "object", selectField? view children key with
  | some object, some property =>
      [.child (.part .expression) object, .child (.part .expression) property]
  | _, _ => lookNamed view children .expression

def lookCall : List (Look α) :=
  match selectField? view children "function" with
  | none => []
  | some callee =>
      lookOption (.part .expressions) (selectField? view children "arguments")
        ++ lookOption (.part .types) (selectField? view children "type_arguments")
        ++ [.child (.part .expression) callee]

def lookExpression : List (Look α) :=
  match head.kind with
  | "identifier" | "property_identifier" | "this" | "number" => [.own]
  | "string" => lookString view children
  | "true" | "false" => []
  | "unary_expression" => lookUnary view children
  | "member_expression" => lookAccess view children "property"
  | "subscript_expression" => lookAccess view children "index"
  | "call_expression" => lookCall view children
  | _ => lookNamed view children .expression

def lookGeneric : List (Look α) :=
  lookOption (.part .types)
      ((selectField? view children "type_arguments").or
        (selectKind? view children ["type_arguments"]))
    ++ lookOption .text
      ((selectField? view children "name").or (selectNamed view children).head?)

/-- A union inside a union is looked at for its members. -/
def lookUnion : List (Look α) :=
  (selectNamed view children).map fun a =>
    if (view a).kind = "union_type" then
      .child (.part .unionMembers) a
    else
      .child (.part .type) a

def lookSignature : List (Look α) :=
  lookOption (.part .parameters)
      ((selectField? view children "parameters").or
        (selectKind? view children ["formal_parameters"]))
    ++ lookOption (.part .typing) (selectField? view children "return_type")

/-- The first child, unless it is null or undefined. -/
def lookLiteral : List (Look α) :=
  match children with
  | [] => []
  | literal :: _ =>
      if (view literal).kind = "null" ∨ (view literal).kind = "undefined" then
        []
      else
        [.child (.part .expression) literal]

/-- The type between parentheses, if it is one. -/
def lookInner : List (Look α) :=
  match selectNamed view children with
  | [inner] => [.child (.part .type) inner]
  | _ => []

def lookType : List (Look α) :=
  match head.kind with
  | "predefined_type" | "type_identifier" | "nested_type_identifier" | "identifier" => [.own]
  | "generic_type" => lookGeneric view children
  | "array_type" | "type_annotation" =>
      lookOption (.part .type) (selectNamed view children).head?
  | "readonly_type" | "index_type_query" =>
      lookOption (.part .type) (selectNamed view children).getLast?
  | "literal_type" => lookLiteral view children
  | "union_type" => lookUnion view children
  | "parenthesized_type" => lookInner view children
  | "object_type" => lookNamed view children .member
  | "function_type" => lookSignature view children
  | _ => []

def lookParameter : List (Look α) :=
  lookOption .text
      (((selectField? view children "pattern").or (selectField? view children "name")).or
        (selectKind? view children ["identifier"]))
    ++ lookOption (.part .typing) (selectField? view children "type")

def lookParameters : List (Look α) :=
  ((selectNamed view children).filter fun a =>
      (view a).kind == "required_parameter" || (view a).kind == "optional_parameter").map
    (.child (.part .parameter))

def lookMember : List (Look α) :=
  lookOption .name (selectField? view children "name") ++
    match head.kind with
    | "property_signature" => lookOption (.part .typing) (selectField? view children "type")
    | "method_signature" => lookSignature view children
    | _ => []

def lookBase : List (Look α) :=
  if head.kind = "generic_type" then lookGeneric view children else [.own]

def lookInterface : List (Look α) :=
  lookOption .text (selectField? view children "name")
    ++ lookOption (.part .bases)
      (selectKind? view children ["extends_type_clause", "extends_clause"])
    ++ lookOption (.part .members)
      ((selectField? view children "body").or
        (selectKind? view children ["interface_body", "object_type"]))

/-- The name, and one more child in a role. -/
def lookNameAnd (role : Role) (field : String) : List (Look α) :=
  lookOption .text (selectField? view children "name")
    ++ lookOption (.part role) (selectField? view children field)

def lookEnumMember : List (Look α) :=
  if head.kind = "enum_assignment" then
    lookOption .name
        ((selectField? view children "name").or (selectNamed view children).head?)
      ++ lookOption (.part .expression) (selectField? view children "value")
  else
    lookName view children head

def lookDeclarators : List (Look α) :=
  ((selectNamed view children).filter fun a => (view a).kind == "variable_declarator").map
    (.child (.part .declarator))

def lookExport : List (Look α) :=
  match selectField? view children "declaration", selectField? view children "value" with
  | some declaration, _ => [.child (.part .statement) declaration]
  | none, some value =>
      if children.any fun a => !(view a).named && (view a).kind == "default" then
        [.child (.part .expression) value]
      else
        lookNamed view children .expression
  | none, none => lookNamed view children .expression

def lookStatement : List (Look α) :=
  match head.kind with
  | "interface_declaration" => lookInterface view children
  | "type_alias_declaration" => lookNameAnd view children .type "value"
  | "enum_declaration" => lookNameAnd view children .enumMembers "body"
  | "lexical_declaration" | "variable_declaration" => lookDeclarators view children
  | "export_statement" => lookExport view children
  | _ => lookNamed view children .expression

end Select

section Looks

variable {α : Type} (view : α → Head) (children : List α) (head : Head)

/-- Where a node is looked at in a role. -/
def Role.looks : Role → List (Look α)
  | .statement => lookStatement view children head
  | .statements => lookNamed view children .statement
  | .expression => lookExpression view children head
  | .expressions => lookNamed view children .expression
  | .type => lookType view children head
  | .types => lookNamed view children .type
  | .unionMembers => lookUnion view children
  | .typing => lookType view children head
  | .parameter => lookParameter view children
  | .parameters => lookParameters view children
  | .member => lookMember view children head
  | .members => lookNamed view children .member
  | .base => lookBase view children head
  | .bases => lookNamed view children .base
  | .enumMember => lookEnumMember view children head
  | .enumMembers => lookNamed view children .enumMember
  | .declarator => lookNameAnd view children .expression "value"

/-- Where a node is looked at when it is used. -/
def Use.looks : Use → List (Look α)
  | .text => [.own]
  | .name => lookName view children head
  | .part role => role.looks view children head

end Looks

/-! ## Looks and what stands for the children -/

section Map

variable {α β : Type} (view : β → Head) (f : α → β) (children : List α) (head : Head)

theorem selectNamed_map :
    selectNamed view (children.map f) = (selectNamed (view ∘ f) children).map f :=
  List.filter_map

theorem selectField?_map
    (field : String) :
    selectField? view (children.map f) field = (selectField? (view ∘ f) children field).map f :=
  List.find?_map

theorem selectKind?_map
    (kinds : List String) :
    selectKind? view (children.map f) kinds = (selectKind? (view ∘ f) children kinds).map f :=
  List.find?_map

theorem lookOption_map
    (use : Use)
    (o : Option α) :
    lookOption use (o.map f) = (lookOption use o).map (Look.map f) := by
  cases o <;> rfl

theorem lookNamed_map
    (role : Role) :
    lookNamed view (children.map f) role =
      (lookNamed (view ∘ f) children role).map (Look.map f) := by
  simp [lookNamed, selectNamed_map, Look.map]

theorem lookString_map :
    lookString view (children.map f) = (lookString (view ∘ f) children).map (Look.map f) := by
  simp only [lookString, List.filter_map, List.isEmpty_map, Function.comp_def]
  split <;> simp [Look.map]

theorem lookName_map :
    lookName view (children.map f) head = (lookName (view ∘ f) children head).map (Look.map f) := by
  unfold lookName
  split
  · exact lookString_map view f children
  · rfl

theorem lookUnary_map :
    lookUnary view (children.map f) = (lookUnary (view ∘ f) children).map (Look.map f) := by
  simp only [lookUnary, selectField?_map, lookNamed_map]
  cases selectField? (view ∘ f) children "argument" with
  | none => rfl
  | some operand =>
      cases selectField? (view ∘ f) children "operator" with
      | none => rfl
      | some operator =>
          simp only [Option.map_some, Function.comp_apply]
          split
          · cases (view (f operator)).text with
            | error e => rfl
            | ok sign => by_cases hsign : sign = "-" <;> simp [hsign, Look.map]
          · rfl

theorem lookAccess_map
    (key : String) :
    lookAccess view (children.map f) key =
      (lookAccess (view ∘ f) children key).map (Look.map f) := by
  simp only [lookAccess, selectField?_map, lookNamed_map]
  cases selectField? (view ∘ f) children "object" with
  | none => rfl
  | some object => cases selectField? (view ∘ f) children key <;> rfl

theorem lookCall_map :
    lookCall view (children.map f) = (lookCall (view ∘ f) children).map (Look.map f) := by
  simp only [lookCall, selectField?_map, lookOption_map]
  cases selectField? (view ∘ f) children "function" <;> simp [Look.map]

theorem lookExpression_map :
    lookExpression view (children.map f) head =
      (lookExpression (view ∘ f) children head).map (Look.map f) := by
  unfold lookExpression
  split <;>
    first
    | rfl
    | exact lookString_map view f children
    | exact lookUnary_map view f children
    | exact lookAccess_map view f children _
    | exact lookCall_map view f children
    | exact lookNamed_map view f children _

theorem lookGeneric_map :
    lookGeneric view (children.map f) = (lookGeneric (view ∘ f) children).map (Look.map f) := by
  simp [lookGeneric, selectField?_map, selectKind?_map, selectNamed_map, ← Option.map_or,
    lookOption_map]

theorem lookUnion_map :
    lookUnion view (children.map f) = (lookUnion (view ∘ f) children).map (Look.map f) := by
  simp only [lookUnion, selectNamed_map, List.map_map]
  refine List.map_congr_left fun a _ => ?_
  simp only [Function.comp_apply]
  split <;> rfl

theorem lookSignature_map :
    lookSignature view (children.map f) =
      (lookSignature (view ∘ f) children).map (Look.map f) := by
  simp [lookSignature, selectField?_map, selectKind?_map, ← Option.map_or, lookOption_map]

theorem lookLiteral_map :
    lookLiteral view (children.map f) = (lookLiteral (view ∘ f) children).map (Look.map f) := by
  cases children with
  | nil => rfl
  | cons literal rest =>
      simp only [List.map_cons, lookLiteral, Function.comp_apply]
      split <;> rfl

theorem lookInner_map :
    lookInner view (children.map f) = (lookInner (view ∘ f) children).map (Look.map f) := by
  simp only [lookInner, selectNamed_map]
  rcases selectNamed (view ∘ f) children with _ | ⟨_, _ | _⟩ <;> rfl

theorem lookType_map :
    lookType view (children.map f) head = (lookType (view ∘ f) children head).map (Look.map f) := by
  unfold lookType
  split <;>
    first
    | rfl
    | exact lookGeneric_map view f children
    | exact lookLiteral_map view f children
    | exact lookUnion_map view f children
    | exact lookInner_map view f children
    | exact lookNamed_map view f children _
    | exact lookSignature_map view f children
    | simp [selectNamed_map, lookOption_map]

theorem lookParameter_map :
    lookParameter view (children.map f) =
      (lookParameter (view ∘ f) children).map (Look.map f) := by
  simp [lookParameter, selectField?_map, selectKind?_map, ← Option.map_or, lookOption_map]

theorem lookParameters_map :
    lookParameters view (children.map f) =
      (lookParameters (view ∘ f) children).map (Look.map f) := by
  simp [lookParameters, selectNamed_map, List.filter_map, Function.comp_def, Look.map]

theorem lookMember_map :
    lookMember view (children.map f) head =
      (lookMember (view ∘ f) children head).map (Look.map f) := by
  simp only [lookMember, selectField?_map, lookOption_map, lookSignature_map, List.map_append]
  congr 1
  split <;> rfl

theorem lookBase_map :
    lookBase view (children.map f) head = (lookBase (view ∘ f) children head).map (Look.map f) := by
  unfold lookBase
  split
  · exact lookGeneric_map view f children
  · rfl

theorem lookInterface_map :
    lookInterface view (children.map f) =
      (lookInterface (view ∘ f) children).map (Look.map f) := by
  simp [lookInterface, selectField?_map, selectKind?_map, ← Option.map_or, lookOption_map]

theorem lookNameAnd_map
    (role : Role)
    (field : String) :
    lookNameAnd view (children.map f) role field =
      (lookNameAnd (view ∘ f) children role field).map (Look.map f) := by
  simp [lookNameAnd, selectField?_map, lookOption_map]

theorem lookEnumMember_map :
    lookEnumMember view (children.map f) head =
      (lookEnumMember (view ∘ f) children head).map (Look.map f) := by
  unfold lookEnumMember
  split
  · simp [selectField?_map, selectNamed_map, ← Option.map_or, lookOption_map]
  · exact lookName_map view f children head

theorem lookDeclarators_map :
    lookDeclarators view (children.map f) =
      (lookDeclarators (view ∘ f) children).map (Look.map f) := by
  simp [lookDeclarators, selectNamed_map, List.filter_map, Function.comp_def, Look.map]

theorem lookExport_map :
    lookExport view (children.map f) = (lookExport (view ∘ f) children).map (Look.map f) := by
  simp only [lookExport, selectField?_map, lookNamed_map, List.any_map]
  cases selectField? (view ∘ f) children "declaration" with
  | some declaration => rfl
  | none =>
      cases selectField? (view ∘ f) children "value" with
      | none => rfl
      | some value =>
          simp only [Option.map_none, Option.map_some, Function.comp_def]
          split <;> rfl

theorem lookStatement_map :
    lookStatement view (children.map f) head =
      (lookStatement (view ∘ f) children head).map (Look.map f) := by
  unfold lookStatement
  split <;>
    first
    | exact lookInterface_map view f children
    | exact lookNameAnd_map view f children _ _
    | exact lookDeclarators_map view f children
    | exact lookExport_map view f children
    | exact lookNamed_map view f children _

theorem Role.looks_map
    (role : Role) :
    role.looks view (children.map f) head =
      (role.looks (view ∘ f) children head).map (Look.map f) := by
  cases role <;>
    first
    | exact lookNamed_map view f children _
    | exact lookNameAnd_map view f children _ _
    | exact lookStatement_map view f children head
    | exact lookExpression_map view f children head
    | exact lookType_map view f children head
    | exact lookUnion_map view f children
    | exact lookParameter_map view f children
    | exact lookParameters_map view f children
    | exact lookMember_map view f children head
    | exact lookBase_map view f children head
    | exact lookEnumMember_map view f children head

/-- A use looks at the same children, whatever they are, as long as their heads are the same. -/
theorem Use.looks_map
    (use : Use) :
    use.looks view (children.map f) head = (use.looks (view ∘ f) children head).map (Look.map f) := by
  cases use with
  | text => rfl
  | name => exact lookName_map view f children head
  | part role => exact role.looks_map view f children head

end Map

/-! ## The texts of a tree -/

/-- The texts that are read of a node, in order, for each use of it. -/
structure Trace where
  head : Head
  texts : Use → List (Read String)

/-- The texts that one look reads. -/
def Look.texts
    {α : Type}
    (head : Head)
    (texts : α → Use → List (Read String)) :
    Look α → List (Read String)
  | own => [head.text]
  | child use a => texts a use

namespace Trace

/-- The texts that are read of a node, given those of its children. -/
def ofChildren (head : Head) (children : List Trace) : Trace where
  head := head
  texts use := (use.looks Trace.head children head).flatMap (Look.texts head Trace.texts)

end Trace

namespace Node

mutual

/-- The texts that are read of a node for each use of it. -/
def trace (source : Source) : Node → Trace
  | .mk kind named field start stop children =>
      .ofChildren
        ⟨kind, named, field, source.span start stop, source.slice start stop⟩
        (traceAll source children)

def traceAll (source : Source) : List Node → List Trace
  | [] => []
  | n :: ns => n.trace source :: traceAll source ns

end

/-- The texts that are read of a node when it is used, in order. -/
def texts (source : Source) (use : Use) (n : Node) : List (Read String) :=
  (n.trace source).texts use

theorem traceAll_eq_map
    (source : Source)
    (ns : List Node) :
    traceAll source ns = ns.map (trace source) := by
  induction ns with
  | nil => rfl
  | cons n ns ih => rw [traceAll, ih, List.map_cons]

theorem head_trace
    (source : Source)
    (n : Node) :
    (n.trace source).head = n.head source := by
  obtain ⟨kind, named, field, start, stop, children⟩ := n
  rfl

/-- The texts of a node are those that its looks read, one after the other. -/
theorem texts_eq
    (source : Source)
    (use : Use)
    (n : Node) :
    n.texts source use =
      (use.looks (head source) n.children (n.head source)).flatMap
        (Look.texts (n.head source) fun c u => c.texts source u) := by
  have hhead : Trace.head ∘ trace source = head source := funext (head_trace source)
  have htrace : n.trace source = .ofChildren (n.head source) (n.children.map (trace source)) := by
    obtain ⟨kind, named, field, start, stop, children⟩ := n
    rw [trace, traceAll_eq_map]
    rfl
  have hlooks := use.looks_map Trace.head (trace source) n.children (n.head source)
  rw [hhead] at hlooks
  rw [texts, htrace]
  refine (congrArg (List.flatMap (Look.texts (n.head source) Trace.texts)) hlooks).trans ?_
  rw [List.flatMap_map]
  congr 1
  funext look
  cases look <;> rfl

end Node

end Concrete

end ModuleSpec
