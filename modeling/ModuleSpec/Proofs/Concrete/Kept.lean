import ModuleSpec.Concrete.Reading
import ModuleSpec.Tree.Walk

/-!
# What a reading keeps

A concrete node can be read in many roles: as an expression, as a type, as the
list of the members beneath it, and so on.  In each role its reading is put
together from readings of some of its children, each in a role of its own.  What
stands beneath the other children is not kept: of a name, for one, only the text
is, whatever that name is written as.

`Role.kept` lists the children that are kept, and `Role.own?` tells which nodes
are calls themselves.  Both follow the rules of reading case by case, but say
nothing of the abstract tree that the rules build.
-/

namespace ModuleSpec

/-! ## Calls of an abstract tree -/

namespace Node

/-- Where the call stands that a node is, if it is one. -/
def callSpan? : Node → Option Span
  | expr (.call _ _ _ span) => some span
  | _ => none

/-- Where the calls stand that are among some nodes or beneath them. -/
def calls (ns : List Node) : List Span :=
  (ns.flatMap Node.walk).filterMap callSpan?

@[simp]
theorem calls_nil :
    calls [] = [] :=
  rfl

@[simp]
theorem calls_append
    (ns ms : List Node) :
    calls (ns ++ ms) = calls ns ++ calls ms := by
  simp only [calls, List.flatMap_append, List.filterMap_append]

/-- The calls of a node are the node itself, if it is one, and those beneath it. -/
theorem calls_cons
    (n : Node)
    (ns : List Node) :
    calls (n :: ns) = n.callSpan?.toList ++ calls n.children ++ calls ns := by
  rw [calls, List.flatMap_cons, walk_eq_cons, List.filterMap_append, List.filterMap_cons]
  cases n.callSpan? <;> rfl

/-- What is no call has the calls that are beneath it. -/
theorem calls_singleton
    {n : Node}
    (h : n.callSpan? = none) :
    calls [n] = calls n.children := by
  rw [calls_cons, h, Option.toList_none, List.nil_append, calls_nil, List.append_nil]

end Node

namespace Concrete

namespace Children

variable {children : Children} {r : Reading}

@[grind →]
theorem mem_of_mem_named
    (h : r ∈ children.named) :
    r ∈ children :=
  (List.mem_filter.1 h).1

@[grind →]
theorem mem_of_field?
    {field : String}
    (h : children.field? field = some r) :
    r ∈ children :=
  List.mem_of_find?_eq_some h

@[grind →]
theorem mem_of_ofKind?
    {kinds : List String}
    (h : children.ofKind? kinds = some r) :
    r ∈ children :=
  List.mem_of_find?_eq_some h

end Children

/-! ## Roles -/

/-- What a concrete node is read as; in the plural, what its children are read as. -/
inductive Role
  | statement
  | statements
  | expression
  | expressions
  | type
  | types
  | unionMembers
  | typing
  | parameter
  | parameters
  | member
  | members
  | base
  | bases
  | enumMember
  | enumMembers
  | declarator
  deriving DecidableEq, Repr

/-- A reading and the role in which it is used. -/
structure Part where
  role : Role
  reading : Reading

namespace Part

/-- The abstract nodes that the reading gives in its role. -/
def nodes : Part → Read (List ModuleSpec.Node)
  | ⟨.statement, r⟩ => r.statement.map fun s => [.statement s]
  | ⟨.statements, r⟩ => r.statements.map fun ss => ss.map .statement
  | ⟨.expression, r⟩ => r.expression.map fun e => [.expr e]
  | ⟨.expressions, r⟩ => r.expressions.map fun es => es.map .expr
  | ⟨.type, r⟩ => r.type.map fun t => [.type t]
  | ⟨.types, r⟩ => r.types.map fun ts => ts.map .type
  | ⟨.unionMembers, r⟩ => r.unionMembers.map fun ts => ts.map .type
  | ⟨.typing, r⟩ => r.typing.map fun t => [.type t]
  | ⟨.parameter, r⟩ => r.parameter.map fun p => [.param p]
  | ⟨.parameters, r⟩ => r.parameters.map fun ps => ps.map .param
  | ⟨.member, r⟩ => r.member.map fun m => [.member m]
  | ⟨.members, r⟩ => r.members.map fun ms => ms.map .member
  | ⟨.base, r⟩ => r.base.map fun b => [.base b]
  | ⟨.bases, r⟩ => r.bases.map fun bs => bs.map .base
  | ⟨.enumMember, r⟩ => r.enumMember.map fun m => [.enumMember m]
  | ⟨.enumMembers, r⟩ => r.enumMembers.map fun ms => ms.map .enumMember
  | ⟨.declarator, r⟩ => r.declarator.map fun d => [.declarator d]

/-- An optional child in a role. -/
def optional (role : Role) (r : Option Reading) : List Part :=
  r.toList.map (Part.mk role)

/-- The named children in a role. -/
def named (role : Role) (children : Children) : List Part :=
  children.named.map (Part.mk role)

section Members

variable {p : Part} {role : Role}

@[grind →]
theorem eq_some_of_mem_optional
    {r : Option Reading}
    (h : p ∈ optional role r) :
    r = some p.reading := by
  cases r with
  | none =>
      cases h
  | some r =>
      cases List.mem_singleton.1 h
      rfl

@[grind →]
theorem mem_of_mem_named
    {children : Children}
    (h : p ∈ named role children) :
    p.reading ∈ children.named := by
  obtain ⟨r, hr, rfl⟩ := List.mem_map.1 h
  exact hr

end Members

end Part

/-! ## The children that are kept -/

section Kept

variable (head : Head) (children : Children)

/-- A negative numeral is read as a number, of which nothing beneath is kept. -/
def keptUnary : List Part :=
  match children.field? "argument", children.field? "operator" with
  | some operand, some operator =>
      if operand.kind = "number" then
        match operator.text with
        | .ok sign => if sign = "-" then [] else Part.named .expression children
        | .error _ => Part.named .expression children
      else
        Part.named .expression children
  | _, _ => Part.named .expression children

def keptAccess (key : String) : List Part :=
  match children.field? "object", children.field? key with
  | some object, some property => [⟨.expression, object⟩, ⟨.expression, property⟩]
  | _, _ => Part.named .expression children

def keptCall : List Part :=
  match children.field? "function" with
  | none => []
  | some callee =>
      ⟨.expression, callee⟩ :: (Part.optional .expressions (children.field? "arguments")
        ++ Part.optional .types (children.field? "type_arguments"))

def keptExpression : List Part :=
  match head.kind with
  | "identifier" | "property_identifier" | "this" | "string" | "number" | "true" | "false" => []
  | "unary_expression" => keptUnary children
  | "member_expression" => keptAccess children "property"
  | "subscript_expression" => keptAccess children "index"
  | "call_expression" => keptCall children
  | _ => Part.named .expression children

def keptTypeArgs : List Part :=
  Part.optional .types
    ((children.field? "type_arguments").or (children.ofKind? ["type_arguments"]))

/-- A union inside a union is read for its members. -/
def keptUnion : List Part :=
  children.named.map fun r =>
    if r.kind = "union_type" then ⟨.unionMembers, r⟩ else ⟨.type, r⟩

def keptSignature : List Part :=
  Part.optional .parameters
      ((children.field? "parameters").or (children.ofKind? ["formal_parameters"]))
    ++ Part.optional .typing (children.field? "return_type")

/-- A literal is the first child, even a token; null and undefined are keywords. -/
def keptLiteral : List Part :=
  match children with
  | [] => []
  | literal :: _ =>
      if literal.kind = "null" ∨ literal.kind = "undefined" then
        []
      else
        [⟨.expression, literal⟩]

/-- Parentheses stand around one type; around several they are no type. -/
def keptInner : List Part :=
  match children.named with
  | [_] => Part.named .type children
  | _ => []

def keptType : List Part :=
  match head.kind with
  | "predefined_type" | "type_identifier" | "nested_type_identifier" | "identifier" => []
  | "generic_type" => keptTypeArgs children
  | "array_type" | "type_annotation" => Part.optional .type children.named.head?
  | "readonly_type" | "index_type_query" => Part.optional .type children.named.getLast?
  | "literal_type" => keptLiteral children
  | "union_type" => keptUnion children
  | "parenthesized_type" => keptInner children
  | "object_type" => Part.named .member children
  | "function_type" => keptSignature children
  | _ => []

def keptParameters : List Part :=
  (children.named.filter fun r =>
    r.kind == "required_parameter" || r.kind == "optional_parameter").map (Part.mk .parameter)

def keptMember : List Part :=
  match head.kind with
  | "property_signature" => Part.optional .typing (children.field? "type")
  | "method_signature" => keptSignature children
  | _ => []

def keptBase : List Part :=
  if head.kind = "generic_type" then keptTypeArgs children else []

def keptInterface : List Part :=
  Part.optional .bases (children.ofKind? ["extends_type_clause", "extends_clause"])
    ++ Part.optional .members
      ((children.field? "body").or (children.ofKind? ["interface_body", "object_type"]))

def keptEnumMember : List Part :=
  if head.kind = "enum_assignment" then
    Part.optional .expression (children.field? "value")
  else
    []

def keptDeclarators : List Part :=
  (children.named.filter fun r => r.kind == "variable_declarator").map (Part.mk .declarator)

def keptExport : List Part :=
  match children.field? "declaration", children.field? "value" with
  | some declaration, _ => [⟨.statement, declaration⟩]
  | none, some value =>
      if children.hasToken "default" then
        [⟨.expression, value⟩]
      else
        Part.named .expression children
  | none, none => Part.named .expression children

def keptStatement : List Part :=
  match head.kind with
  | "interface_declaration" => keptInterface children
  | "type_alias_declaration" => Part.optional .type (children.field? "value")
  | "enum_declaration" => Part.optional .enumMembers (children.field? "body")
  | "lexical_declaration" | "variable_declaration" => keptDeclarators children
  | "expression_statement" => Part.named .expression children
  | "export_statement" => keptExport children
  | _ => Part.named .expression children

/-- The children that the reading of a node in a role is put together from. -/
def Role.kept : Role → List Part
  | .statement => keptStatement head children
  | .statements => Part.named .statement children
  | .expression => keptExpression head children
  | .expressions => Part.named .expression children
  | .type => keptType head children
  | .types => Part.named .type children
  | .unionMembers => keptUnion children
  | .typing => keptType head children
  | .parameter => Part.optional .typing (children.field? "type")
  | .parameters => keptParameters children
  | .member => keptMember head children
  | .members => Part.named .member children
  | .base => keptBase head children
  | .bases => Part.named .base children
  | .enumMember => keptEnumMember head children
  | .enumMembers => Part.named .enumMember children
  | .declarator => Part.optional .expression (children.field? "value")

/-- Where the call stands that a node itself is in a role: one with a callee is a call. -/
def Role.own? : Role → Option Span
  | .expression =>
      if head.kind = "call_expression" ∧ (children.field? "function").isSome then
        some head.span
      else
        none
  | _ => none

variable {head children}

/-- What is kept are readings of children. -/
theorem Role.mem_of_mem_kept
    {role : Role}
    {p : Part}
    (h : p ∈ role.kept head children) :
    p.reading ∈ children := by
  cases role <;>
    simp only [kept, keptStatement, keptExpression, keptType, keptMember, keptBase,
      keptEnumMember, keptUnary, keptAccess, keptCall, keptTypeArgs, keptUnion, keptSignature,
      keptLiteral, keptInner, keptParameters, keptInterface, keptDeclarators, keptExport] at h
  all_goals
    repeat' split at h
    all_goals
      grind [Option.or_eq_some_iff, → List.mem_of_head?, → List.mem_of_getLast?]

end Kept

end Concrete

end ModuleSpec
