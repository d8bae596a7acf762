import ModuleSpec.Lowering

/-!
# Properties of a module

A member of a module's interface is a method, written as a method or as a
property whose type resolves to a function type.
-/

namespace ModuleSpec

namespace Ty

/-- A type the way it reads in the source. -/
def describe : Ty → String
  | keyword word _ => word
  | reference name _ _ => name
  | operator word _ _ => word ++ " type"
  | array .. => "array type"
  | literal .. => "literal type"
  | union .. => "union type"
  | object .. => "object type"
  | t => t.kind

end Ty

namespace Member

/-- Whether the member declares a method or a property of a module. -/
def isProperty : Member → Bool
  | property .. => true
  | method .. => true
  | other .. => false

end Member

/-- The function a member stands for, and whether it may be null. -/
def memberSignature
    (scope : Scope) :
    Member → Lowering (Nullable Signature)
  | m@(.method _ params result _ _) =>
      pure ⟨false, ⟨.member m, params, result⟩⟩
  | m@(.property name none _ _) =>
      .raise (scope.fault (.member m) (.memberNoFunction name "missing"))
  | m@(.property name (some type) _ _) =>
      let found := scope.types.resolve type
      match found.type with
      | t@(.function params result _) =>
          pure ⟨found.nullable, ⟨.type t, params, result⟩⟩
      | t => .raise (scope.fault (.member m) (.memberNoFunction name t.describe))
  | m@(.other kind name _) =>
      .raise (scope.fault (.member m) (.memberNoFunction name kind))

namespace Member

def optional : Member → Bool
  | property _ _ o _ => o
  | method _ _ _ o _ => o
  | other .. => false

end Member

/-- The method of a module that a member of its interface declares. -/
def lowerProperty
    (scope : Scope)
    (m : Member) :
    Lowering Shape := do
  let found ← memberSignature scope m
  let a ← lowerSignature lower scope found.value
  pure ⟨m.name, m.optional, ⟨found.nullable, a⟩⟩

end ModuleSpec
