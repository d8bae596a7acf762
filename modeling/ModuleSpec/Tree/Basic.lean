import ModuleSpec.Double
import ModuleSpec.Span

/-!
# Abstract trees

The part of a source file that a module schema is built from: type annotations,
the members of interfaces and object types, top-level declarations, and the
expressions that can hold a call.  What lies outside this grammar is kept by the
name of its kind; expressions and statements of that sort keep what stands
beneath them, so that a call there is not lost.

Every node carries its span.
-/

namespace ModuleSpec

mutual

/-- An expression. -/
inductive Expr
  | identifier
      (name : String)
      (span : Span)
  | string
      (value : String)
      (span : Span)
  | number
      (value : Double)
      (span : Span)
  | boolean
      (value : Bool)
      (span : Span)
  | member
      (object property : Expr)
      (computed : Bool)
      (span : Span)
  | call
      (callee : Expr)
      (arguments : List Expr)
      (typeArgs : Option (List Ty))
      (span : Span)
  | other
      (kind : String)
      (children : List Node)
      (span : Span)

/-- A type annotation. -/
inductive Ty
  | keyword
      (word : String)
      (span : Span)
  | reference
      (name : String)
      (typeArgs : Option (List Ty))
      (span : Span)
  | array
      (element : Ty)
      (span : Span)
  | operator
      (word : String)
      (operand : Ty)
      (span : Span)
  | literal
      (value : Expr)
      (span : Span)
  | union
      (members : List Ty)
      (span : Span)
  | object
      (members : List Member)
      (span : Span)
  | function
      (params : List Param)
      (result : Option Ty)
      (span : Span)
  | other
      (kind : String)
      (span : Span)

/-- A parameter of a function type or of a method. -/
structure Param where
  name : String
  type : Option Ty
  optional : Bool
  span : Span

/-- A member of an interface or of an object type. -/
inductive Member
  | property
      (name : String)
      (type : Option Ty)
      (optional : Bool)
      (span : Span)
  | method
      (name : String)
      (params : List Param)
      (result : Option Ty)
      (optional : Bool)
      (span : Span)
  | other
      (kind : String)
      (name : String)
      (span : Span)

/-- One of the types an interface extends. -/
structure Base where
  name : String
  typeArgs : Option (List Ty)
  span : Span

/-- A member of an enum. -/
structure EnumMember where
  name : String
  value : Option Expr
  span : Span

/-- An interface. -/
structure Interface where
  name : String
  bases : List Base
  members : List Member
  span : Span

/-- A declaration of a name for a type. -/
structure TypeAlias where
  name : String
  type : Ty
  span : Span

/-- An enum. -/
structure Enum where
  name : String
  members : List EnumMember
  span : Span

/-- A statement that declares the name of a type. -/
inductive Declaration
  | interface (decl : Interface)
  | typeAlias (decl : TypeAlias)
  | enum (decl : Enum)

/-- One variable of a variable declaration. -/
structure Declarator where
  name : String
  value : Option Expr
  span : Span

/-- A statement. -/
inductive Statement
  | declaration
      (decl : Declaration)
  | expression
      (value : Expr)
      (span : Span)
  | bindings
      (declarators : List Declarator)
      (span : Span)
  | exportDefault
      (value : Expr)
      (span : Span)
  | other
      (kind : String)
      (children : List Node)
      (span : Span)

/-- A source file. -/
structure Program where
  body : List Statement
  span : Span

/-- Any node of a tree. -/
inductive Node
  | expr (e : Expr)
  | type (t : Ty)
  | param (p : Param)
  | member (m : Member)
  | base (b : Base)
  | enumMember (m : EnumMember)
  | declarator (d : Declarator)
  | statement (s : Statement)
  | program (p : Program)

end

/-! ## Spans -/

namespace Expr

def span : Expr → Span
  | identifier _ s => s
  | string _ s => s
  | number _ s => s
  | boolean _ s => s
  | member _ _ _ s => s
  | call _ _ _ s => s
  | other _ _ s => s

end Expr

namespace Ty

def span : Ty → Span
  | keyword _ s => s
  | reference _ _ s => s
  | array _ s => s
  | operator _ _ s => s
  | literal _ s => s
  | union _ s => s
  | object _ s => s
  | function _ _ s => s
  | other _ s => s

end Ty

namespace Member

def span : Member → Span
  | property _ _ _ s => s
  | method _ _ _ _ s => s
  | other _ _ s => s

def name : Member → String
  | property n _ _ _ => n
  | method n _ _ _ _ => n
  | other _ n _ => n

end Member

namespace Declaration

def span : Declaration → Span
  | interface i => i.span
  | typeAlias a => a.span
  | enum e => e.span

def name : Declaration → String
  | interface i => i.name
  | typeAlias a => a.name
  | enum e => e.name

end Declaration

namespace Statement

def span : Statement → Span
  | declaration d => d.span
  | expression _ s => s
  | bindings _ s => s
  | exportDefault _ s => s
  | other _ _ s => s

/-- The declaration that a statement is, if it is one. -/
def declaration? : Statement → Option Declaration
  | declaration d => some d
  | _ => none

end Statement

/-! ## Kinds -/

namespace Expr

def kind : Expr → String
  | identifier .. => "Identifier"
  | string .. => "StringLiteral"
  | number .. => "NumericLiteral"
  | boolean .. => "BooleanLiteral"
  | member .. => "MemberExpression"
  | call .. => "CallExpression"
  | other k _ _ => k

end Expr

namespace Ty

def kind : Ty → String
  | keyword .. => "KeywordType"
  | reference .. => "TypeReference"
  | array .. => "ArrayType"
  | operator .. => "TypeOperator"
  | literal .. => "LiteralType"
  | union .. => "UnionType"
  | object .. => "ObjectLiteralType"
  | function .. => "FunctionType"
  | other k _ => k

end Ty

namespace Member

def kind : Member → String
  | property .. => "PropertySignature"
  | method .. => "MethodSignature"
  | other k _ _ => k

end Member

namespace Declaration

def kind : Declaration → String
  | interface _ => "InterfaceDeclaration"
  | typeAlias _ => "TypeAliasDeclaration"
  | enum _ => "EnumDeclaration"

end Declaration

namespace Statement

def kind : Statement → String
  | declaration d => d.kind
  | expression .. => "ExpressionStatement"
  | bindings .. => "VariableDeclaration"
  | exportDefault .. => "ExportDefaultDeclaration"
  | other k _ _ => k

end Statement

namespace Node

def span : Node → Span
  | expr e => e.span
  | type t => t.span
  | param p => p.span
  | member m => m.span
  | base b => b.span
  | enumMember m => m.span
  | declarator d => d.span
  | statement s => s.span
  | program p => p.span

/-- The name of the sort of node; of a node outside the grammar, its own name. -/
def kind : Node → String
  | expr e => e.kind
  | type t => t.kind
  | param _ => "Parameter"
  | member m => m.kind
  | base _ => "ExpressionWithTypeArguments"
  | enumMember _ => "EnumMember"
  | declarator _ => "VariableDeclarator"
  | statement s => s.kind
  | program _ => "Program"

end Node

instance : Inhabited Expr := ⟨.other "" [] Span.none⟩
instance : Inhabited Ty := ⟨.other "" Span.none⟩

end ModuleSpec
