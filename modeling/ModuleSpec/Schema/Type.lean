/-!
# Schema types

What a code generator is told about a value.  Whether the value may be null is
no annotation of its own: every place that can hold null holds an annotation
together with a flag, and wrapping such a pair again joins the flags instead of
nesting them.

An alias stands for an object that the module's alias table holds under its
name.  An array without an element is an array of values that have no
annotation.
-/

namespace ModuleSpec

/-- What the members of an enum or of a union of literals are. -/
inductive MemberKind
  | number
  | string
  | object
  deriving DecidableEq, Repr

namespace MemberKind

def name : MemberKind → String
  | number => "NumberTypeAnnotation"
  | string => "StringTypeAnnotation"
  | object => "ObjectTypeAnnotation"

end MemberKind

/-- A value, and whether it may be null instead. -/
structure Nullable (α : Type) where
  nullable : Bool
  value : α
  deriving DecidableEq, Repr

namespace Nullable

/-- Wraps once more: null is allowed when either flag allows it. -/
def wrap
    {α : Type}
    (flag : Bool)
    (x : Nullable α) :
    Nullable α :=
  ⟨flag || x.nullable, x.value⟩

end Nullable

mutual

/-- The annotation of a value that is not null. -/
inductive SchemaType
  | boolean
  | number
  | int32
  | double
  | float
  | string
  | stringish
  | void
  | promise
  | rootTag
  | genericObject
  | mixed
  | enum
      (members : MemberKind)
  | union
      (members : MemberKind)
  | alias
      (name : String)
  | object
      (properties : List Shape)
  | array
      (element : Option (Nullable SchemaType))
  | function
      (params : List Shape)
      (result : Nullable SchemaType)

/-- A named value that may be left out: a property, a parameter or a method. -/
structure Shape where
  name : String
  optional : Bool
  type : Nullable SchemaType

end

instance : Inhabited SchemaType := ⟨.void⟩

end ModuleSpec
