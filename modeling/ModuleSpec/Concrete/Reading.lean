import ModuleSpec.Concrete.Node
import ModuleSpec.Numeral
import ModuleSpec.Tree.Basic

/-!
# Reading concrete trees

What a concrete node can be read as: an expression, a type, a member, a
statement, and so on.  Comments are passed over, and of what is left mostly the
named nodes count.  A node that no rule knows is kept by its kind; as an
expression or a statement it keeps what its named children are read as.

**Algorithm.**  Trees are read from the leaves upward.  The reading of a node is
one record that holds everything the node could be read as, and each entry is
computed from the node itself and from the readings of its children.

Reading fails when a name is looked for in a node without children, when a
numeral has no value, and when a node does not lie between characters.
-/

namespace ModuleSpec
namespace Concrete

/-- Why a node cannot be read. -/
inductive Failure
  | childMissing
  | badText (e : SliceError)
  | badNumeral (e : Numeral.Error)
  deriving DecidableEq, Repr

/-- What is read, or why it cannot be. -/
abbrev Read (α : Type) := Except Failure α

/-- A node without its children. -/
structure Head where
  kind : String
  named : Bool
  field : Option String
  span : Span
  slice : Except SliceError String

namespace Head

/-- The source text of the node. -/
def text (head : Head) : Read String :=
  head.slice.mapError .badText

end Head

/-- Everything a node can be read as. -/
structure Reading where
  head : Head
  propertyName : Read String
  expression : Read Expr
  expressions : Read (List Expr)
  generic : Read (String × List Ty)
  type : Read Ty
  types : Read (List Ty)
  unionMembers : Read (List Ty)
  typing : Read Ty
  parameter : Read Param
  parameters : Read (List Param)
  member : Read Member
  members : Read (List Member)
  base : Read Base
  bases : Read (List Base)
  enumMember : Read EnumMember
  enumMembers : Read (List EnumMember)
  declarator : Read Declarator
  declarators : Read (List Declarator)
  statement : Read Statement
  statements : Read (List Statement)

namespace Reading

def kind (r : Reading) : String := r.head.kind

def span (r : Reading) : Span := r.head.span

def text (r : Reading) : Read String := r.head.text

end Reading

/-! ## Children -/

/-- The readings of the children of a node. -/
abbrev Children := List Reading

namespace Children

/-- The named children, without comments. -/
def named (children : Children) : Children :=
  children.filter fun r => r.head.named && r.kind != "comment"

/-- The first child that plays the given part. -/
def field? (children : Children) (field : String) : Option Reading :=
  children.find? fun r => r.head.field == some field

/-- The first child of one of the given kinds. -/
def ofKind? (children : Children) (kinds : List String) : Option Reading :=
  children.find? fun r => kinds.contains r.kind

/-- Whether the given token is one of the children. -/
def hasToken (children : Children) (token : String) : Bool :=
  children.any fun r => !r.head.named && r.kind == token

/-- What the named children are read as, in order. -/
def readNamed {α : Type} (children : Children) (f : Reading → Read α) : Read (List α) :=
  children.named.mapM f

end Children

/-- What an optional child is read as. -/
def readOption
    {α : Type}
    (r : Option Reading)
    (f : Reading → Read α) :
    Read (Option α) :=
  match r with
  | none => .ok none
  | some r => (f r).map some

/-- The text of an optional child; empty when there is none. -/
def textOf (r : Option Reading) : Read String :=
  match r with
  | none => .ok ""
  | some r => r.text

section Rules

variable (head : Head)
variable (children : Children)

/-! ## Names and literals -/

def isQuote (c : Char) : Bool :=
  c == '\'' || c == '"' || c == '\x60'

/-- A text without the quotes around it. -/
def unquote (text : String) : String :=
  match text.toList with
  | first :: second :: rest =>
      let tail := second :: rest
      if isQuote first && tail.getLast?.any isQuote then
        String.ofList tail.dropLast
      else
        text
  | _ => text

/-- The value of a string: its fragments and escapes as they are written. -/
def readString : Read String :=
  let fragments := children.filter fun r =>
    r.kind == "string_fragment" || r.kind == "escape_sequence"
  if fragments.isEmpty then
    head.text.map unquote
  else do
    .ok (String.join (← fragments.mapM Reading.text))

/-- The name of a member, which can be written as a string. -/
def readPropertyName : Read String :=
  if head.kind = "string" then readString head children else head.text

/-- The value of a numeral. -/
def readNumber (text : String) : Read Double :=
  match Numeral.read text.toList with
  | .ok x => .ok x
  | .error e => .error (.badNumeral e)

/-! ## Expressions -/

/-- An expression that no rule knows. -/
def readOtherExpression : Read Expr := do
  let inner ← children.readNamed Reading.expression
  .ok (.other head.kind (inner.map .expr) head.span)

/-- A minus sign before a numeral. -/
def readUnary : Read Expr :=
  match children.field? "argument", children.field? "operator" with
  | some operand, some operator =>
      if operand.kind = "number" then do
        let sign ← operator.text
        if sign = "-" then
          let x ← readNumber (← operand.text)
          .ok (.number x.negate head.span)
        else
          readOtherExpression head children
      else
        readOtherExpression head children
  | _, _ => readOtherExpression head children

/-- An access to a part of an object, by a name or by a computed key. -/
def readAccess (key : String) (computed : Bool) : Read Expr :=
  match children.field? "object", children.field? key with
  | some object, some property => do
      let o ← object.expression
      let p ← property.expression
      .ok (.member o p computed head.span)
  | _, _ => readOtherExpression head children

/-- A call; without a callee nothing beneath it is kept. -/
def readCall : Read Expr :=
  match children.field? "function" with
  | none => .ok (.other head.kind [] head.span)
  | some callee => do
      let arguments ← readOption (children.field? "arguments") Reading.expressions
      let typeArgs ← readOption (children.field? "type_arguments") Reading.types
      let f ← callee.expression
      .ok (.call f (arguments.getD []) typeArgs head.span)

def readExpression : Read Expr :=
  match head.kind with
  | "identifier" | "property_identifier" | "this" =>
      head.text.map fun name => .identifier name head.span
  | "string" => (readString head children).map fun value => .string value head.span
  | "number" => do
      let x ← readNumber (← head.text)
      .ok (.number x head.span)
  | "true" => .ok (.boolean true head.span)
  | "false" => .ok (.boolean false head.span)
  | "unary_expression" => readUnary head children
  | "member_expression" => readAccess head children "property" false
  | "subscript_expression" => readAccess head children "index" true
  | "call_expression" => readCall head children
  | _ => readOtherExpression head children

/-! ## Types -/

/-- The name and the type arguments of a generic type. -/
def readGeneric : Read (String × List Ty) :=
  match (children.field? "name").or children.named.head? with
  | none => .error .childMissing
  | some name => do
      let list := (children.field? "type_arguments").or (children.ofKind? ["type_arguments"])
      let typeArgs ← readOption list Reading.types
      .ok (← name.text, typeArgs.getD [])

/-- The members of a union, those of a union inside it included. -/
def readUnionMembers : Read (List Ty) := do
  let groups ← children.readNamed fun r =>
    if r.kind = "union_type" then r.unionMembers else r.type.map fun t => [t]
  .ok groups.flatten

/-- The parameters of a signature. -/
def signatureParams : Read (List Param) := do
  let list := (children.field? "parameters").or (children.ofKind? ["formal_parameters"])
  .ok ((← readOption list Reading.parameters).getD [])

/-- The result of a signature. -/
def signatureResult : Read (Option Ty) :=
  readOption (children.field? "return_type") Reading.typing

/-- A literal as a type; null and undefined are keywords. -/
def readLiteralType : Read Ty :=
  match children with
  | [] => .ok (.other head.kind head.span)
  | literal :: _ =>
      if literal.kind = "null" ∨ literal.kind = "undefined" then
        .ok (.keyword literal.kind head.span)
      else
        literal.expression.map fun e => .literal e head.span

/-- The type behind a colon. -/
def readTyping : Read Ty :=
  match children.named with
  | [] => .ok (.other head.kind head.span)
  | t :: _ => t.type

def readType : Read Ty :=
  let other : Read Ty := .ok (.other head.kind head.span)
  match head.kind with
  | "predefined_type" => head.text.map fun word => .keyword word head.span
  | "type_identifier" | "nested_type_identifier" | "identifier" =>
      head.text.map fun name => .reference name none head.span
  | "generic_type" =>
      (readGeneric children).map fun g => .reference g.1 (some g.2) head.span
  | "array_type" =>
      match children.named with
      | [] => other
      | element :: _ => element.type.map fun t => .array t head.span
  | "readonly_type" =>
      match children.named.getLast? with
      | none => other
      | some operand => operand.type.map fun t => .operator "readonly" t head.span
  | "index_type_query" =>
      match children.named.getLast? with
      | none => other
      | some operand => operand.type.map fun t => .operator "keyof" t head.span
  | "literal_type" => readLiteralType head children
  | "union_type" => (readUnionMembers children).map fun ts => .union ts head.span
  | "parenthesized_type" =>
      match children.named with
      | [inner] => inner.type
      | _ => other
  | "object_type" =>
      (children.readNamed Reading.member).map fun ms => .object ms head.span
  | "function_type" => do
      let params ← signatureParams children
      let result ← signatureResult children
      .ok (.function params result head.span)
  | "type_annotation" => readTyping head children
  | _ => other

/-! ## Members -/

def readParameter : Read Param := do
  let name := ((children.field? "pattern").or (children.field? "name")).or
    (children.ofKind? ["identifier"])
  let text ← textOf name
  let type ← readOption (children.field? "type") Reading.typing
  .ok ⟨text, type, head.kind == "optional_parameter", head.span⟩

/-- The parameters among the children. -/
def readParameters : Read (List Param) :=
  (children.named.filter fun r =>
    r.kind == "required_parameter" || r.kind == "optional_parameter").mapM Reading.parameter

def readMember : Read Member := do
  let name ← readOption (children.field? "name") Reading.propertyName
  let name := name.getD ""
  match head.kind with
  | "property_signature" =>
      let type ← readOption (children.field? "type") Reading.typing
      .ok (.property name type (children.hasToken "?") head.span)
  | "method_signature" =>
      let params ← signatureParams children
      let result ← signatureResult children
      .ok (.method name params result (children.hasToken "?") head.span)
  | kind => .ok (.other kind name head.span)

/-! ## Declarations -/

/-- One of the types that an interface extends. -/
def readBase : Read Base :=
  if head.kind = "generic_type" then
    (readGeneric children).map fun g => ⟨g.1, some g.2, head.span⟩
  else
    head.text.map fun name => ⟨name, none, head.span⟩

def readInterface : Read Interface := do
  let name ← textOf (children.field? "name")
  let clause := children.ofKind? ["extends_type_clause", "extends_clause"]
  let bases ← readOption clause Reading.bases
  let body := (children.field? "body").or (children.ofKind? ["interface_body", "object_type"])
  let members ← readOption body Reading.members
  .ok ⟨name, bases.getD [], members.getD [], head.span⟩

def readTypeAlias : Read TypeAlias := do
  let type ← readOption (children.field? "value") Reading.type
  let name ← textOf (children.field? "name")
  .ok ⟨name, type.getD (.other "missing" Span.none), head.span⟩

/-- A member of an enum, with a value or without. -/
def readEnumMember : Read EnumMember :=
  if head.kind = "enum_assignment" then
    match (children.field? "name").or children.named.head? with
    | none => .error .childMissing
    | some name => do
        let text ← name.propertyName
        let value ← readOption (children.field? "value") Reading.expression
        .ok ⟨text, value, head.span⟩
  else
    (readPropertyName head children).map fun name => ⟨name, none, head.span⟩

def readEnum : Read Enum := do
  let members ← readOption (children.field? "body") Reading.enumMembers
  let name ← textOf (children.field? "name")
  .ok ⟨name, members.getD [], head.span⟩

def readDeclarator : Read Declarator := do
  let name ← textOf (children.field? "name")
  let value ← readOption (children.field? "value") Reading.expression
  .ok ⟨name, value, head.span⟩

/-- The variables among the children. -/
def readDeclarators : Read (List Declarator) :=
  (children.named.filter fun r => r.kind == "variable_declarator").mapM Reading.declarator

/-! ## Statements -/

/-- A statement that no rule knows. -/
def readOtherStatement : Read Statement := do
  let inner ← children.readNamed Reading.expression
  .ok (.other head.kind (inner.map .expr) head.span)

/-- An exported declaration is that declaration. -/
def readExport : Read Statement :=
  match children.field? "declaration", children.field? "value" with
  | some declaration, _ => declaration.statement
  | none, some value =>
      if children.hasToken "default" then
        value.expression.map fun e => .exportDefault e head.span
      else
        readOtherStatement head children
  | none, none => readOtherStatement head children

def readStatement : Read Statement :=
  match head.kind with
  | "interface_declaration" =>
      (readInterface head children).map fun i => .declaration (.interface i)
  | "type_alias_declaration" =>
      (readTypeAlias head children).map fun a => .declaration (.typeAlias a)
  | "enum_declaration" =>
      (readEnum head children).map fun e => .declaration (.enum e)
  | "lexical_declaration" | "variable_declaration" =>
      (readDeclarators children).map fun ds => .bindings ds head.span
  | "expression_statement" =>
      match children.named with
      | [inner] => inner.expression.map fun e => .expression e head.span
      | _ => readOtherStatement head children
  | "export_statement" => readExport head children
  | _ => readOtherStatement head children

end Rules

/-! ## Nodes -/

namespace Reading

/-- The reading of a node, given those of its children. -/
def ofChildren (head : Head) (children : Children) : Reading where
  head := head
  propertyName := readPropertyName head children
  expression := readExpression head children
  expressions := children.readNamed Reading.expression
  generic := readGeneric children
  type := readType head children
  types := children.readNamed Reading.type
  unionMembers := readUnionMembers children
  typing := if head.kind = "type_annotation" then readTyping head children
    else readType head children
  parameter := readParameter head children
  parameters := readParameters children
  member := readMember head children
  members := children.readNamed Reading.member
  base := readBase head children
  bases := children.readNamed Reading.base
  enumMember := readEnumMember head children
  enumMembers := children.readNamed Reading.enumMember
  declarator := readDeclarator head children
  declarators := readDeclarators children
  statement := readStatement head children
  statements := children.readNamed Reading.statement

end Reading

namespace Node

mutual

/-- Everything a node can be read as. -/
def read (source : Source) : Node → Reading
  | .mk kind named field start stop children =>
      .ofChildren
        ⟨kind, named, field, source.span start stop, source.slice start stop⟩
        (readAll source children)

def readAll (source : Source) : List Node → Children
  | [] => []
  | n :: ns => n.read source :: readAll source ns

end

/-- The abstract tree of a source file. -/
def program (root : Node) (source : Source) : Read Program :=
  let r := root.read source
  r.statements.map fun body => ⟨body, r.span⟩

end Node

end Concrete
end ModuleSpec
