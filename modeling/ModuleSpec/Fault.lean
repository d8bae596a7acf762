import ModuleSpec.Tree.Basic

/-!
# Faults

What can be wrong with a module spec.  A fault about the shape of the file is
fatal: the file declares no single, well-formed module.  Every other fault is
about one member, parameter or type, and the rest of the module can still be
used.

A fault names the module it was found in and the nodes it is about; it points at
the first of them.
-/

namespace ModuleSpec

/-- The sorts of fault. -/
inductive FaultKind
  | interfaceMissing
  | interfacesSeveral
  | interfaceMisnamed
  | loadMissing
  | loadsSeveral
  | loadUntyped
  | loadMistyped
  | loadArity
  | loadArgument
  | memberNoFunction
  | paramUntyped
  | paramForbidden
  | resultForbidden
  | objectMember
  | objectValue
  | arrayElement
  | unknownGeneric
  | genericUnapplied
  | genericOverapplied
  | unknownType
  | enumMembers
  | union
  deriving DecidableEq, Repr

namespace FaultKind

/-- The name under which a fault is listed. -/
def name : FaultKind → String
  | interfaceMissing => "ModuleInterfaceNotFound"
  | interfacesSeveral => "MoreThanOneModuleInterface"
  | interfaceMisnamed => "MisnamedModuleInterface"
  | loadMissing => "UnusedModuleInterface"
  | loadsSeveral => "MoreThanOneModuleRegistryCalls"
  | loadUntyped => "UntypedModuleRegistryCall"
  | loadMistyped => "IncorrectModuleRegistryCallTypeParameter"
  | loadArity => "IncorrectModuleRegistryCallArity"
  | loadArgument => "IncorrectModuleRegistryCallArgumentType"
  | memberNoFunction => "UnsupportedModuleProperty"
  | paramUntyped => "UnnamedFunctionParam"
  | paramForbidden => "UnsupportedFunctionParamTypeAnnotation"
  | resultForbidden => "UnsupportedFunctionReturnTypeAnnotation"
  | objectMember => "UnsupportedObjectPropertyTypeAnnotation"
  | objectValue => "UnsupportedObjectPropertyValueTypeAnnotation"
  | arrayElement => "UnsupportedArrayElementTypeAnnotation"
  | unknownGeneric => "UnsupportedGeneric"
  | genericUnapplied => "MissingTypeParameterGeneric"
  | genericOverapplied => "MoreThanOneTypeParameterGeneric"
  | unknownType => "UnsupportedTypeAnnotation"
  | enumMembers => "UnsupportedEnumDeclaration"
  | union => "UnsupportedUnionTypeAnnotation"

/-- Whether a fault of this sort is about the shape of the whole file. -/
def fatal : FaultKind → Bool
  | interfaceMissing => true
  | interfacesSeveral => true
  | interfaceMisnamed => true
  | loadMissing => true
  | loadsSeveral => true
  | loadUntyped => true
  | loadMistyped => true
  | loadArity => true
  | loadArgument => true
  | _ => false

end FaultKind

/-- What is wrong, with the names that the message mentions. -/
inductive Cause
  | interfaceMissing
  | interfacesSeveral
      (names : List String)
  | interfaceMisnamed
      (name : String)
  | loadMissing
  | loadsSeveral
      (count : Nat)
  | loadUntyped
      (method registered : String)
  | loadMistyped
      (method registered : String)
  | loadArity
      (method : String)
      (arity : Nat)
  | loadArgument
      (method kind : String)
  | memberNoFunction
      (name kind : String)
  | paramUntyped
      (name : String)
  | paramForbidden
      (name type : String)
  | resultForbidden
      (type : String)
  | objectMember
      (kind : String)
  | objectValue
      (name type : String)
  | arrayElement
      (array type : String)
  | unknownGeneric
      (name : String)
  | genericUnapplied
      (name : String)
  | genericOverapplied
      (name : String)
  | unknownType
      (kind : String)
  | enumMembers
      (kind : String)
  | unionForbidden
  | unionMixed
      (kinds : List String)
  deriving DecidableEq, Repr

namespace Cause

def kind : Cause → FaultKind
  | interfaceMissing => .interfaceMissing
  | interfacesSeveral _ => .interfacesSeveral
  | interfaceMisnamed _ => .interfaceMisnamed
  | loadMissing => .loadMissing
  | loadsSeveral _ => .loadsSeveral
  | loadUntyped .. => .loadUntyped
  | loadMistyped .. => .loadMistyped
  | loadArity .. => .loadArity
  | loadArgument .. => .loadArgument
  | memberNoFunction .. => .memberNoFunction
  | paramUntyped _ => .paramUntyped
  | paramForbidden .. => .paramForbidden
  | resultForbidden _ => .resultForbidden
  | objectMember _ => .objectMember
  | objectValue .. => .objectValue
  | arrayElement .. => .arrayElement
  | unknownGeneric _ => .unknownGeneric
  | genericUnapplied _ => .genericUnapplied
  | genericOverapplied _ => .genericOverapplied
  | unknownType _ => .unknownType
  | enumMembers _ => .enumMembers
  | unionForbidden => .union
  | unionMixed _ => .union

/-- What is wrong, in words. -/
def text : Cause → String
  | interfaceMissing =>
      "No TypeScript interfaces extending TurboModule were detected in this spec."
  | interfacesSeveral names =>
      "Every spec file must declare exactly one TypeScript interface extending TurboModule. "
        ++ s!"This file declares {names.length}: " ++ ", ".intercalate names
        ++ ". Please remove the extraneous interface declarations."
  | interfaceMisnamed name =>
      "All TypeScript interfaces extending TurboModule must be called 'Spec'. "
        ++ s!"Please rename interface '{name}' to 'Spec'."
  | loadMissing =>
      "Unused module spec. Please load the module by calling "
        ++ "TurboModuleRegistry.get<Spec>('<moduleName>')."
  | loadsSeveral count =>
      "Every spec file must load its module exactly once. "
        ++ s!"This file contains {count} loads. "
        ++ "Please split the file to remove the extraneous loads."
  | loadUntyped method registered =>
      "Please type this module load: "
        ++ s!"TurboModuleRegistry.{method}<Spec>('{registered}')."
  | loadMistyped method registered =>
      "Please change these type arguments to reflect "
        ++ s!"TurboModuleRegistry.{method}<Spec>('{registered}')."
  | loadArity method arity =>
      s!"Please call TurboModuleRegistry.{method}<Spec>() with exactly one argument. "
        ++ s!"Detected {arity}."
  | loadArgument method kind =>
      s!"Please call TurboModuleRegistry.{method}<Spec>() with a string literal. "
        ++ s!"Detected '{kind}'."
  | memberNoFunction name kind =>
      "TypeScript interfaces extending TurboModule must only contain functions. "
        ++ s!"Property '{name}' refers to a '{kind}'."
  | paramUntyped name =>
      "All function parameters must be named and typed. "
        ++ s!"Parameter '{name}' has no type annotation."
  | paramForbidden name type =>
      s!"Function parameter '{name}' cannot have type '{type}'."
  | resultForbidden type =>
      s!"Function return cannot have type '{type}'."
  | objectMember kind =>
      s!"'ObjectTypeAnnotation' cannot contain '{kind}'."
  | objectValue name type =>
      s!"Object property '{name}' cannot have type '{type}'."
  | arrayElement array type =>
      s!"{array} element types cannot be '{type}'."
  | unknownGeneric name =>
      s!"Unrecognized generic type '{name}' in module spec."
  | genericUnapplied name =>
      s!"Generic '{name}' must have type parameters."
  | genericOverapplied name =>
      s!"Generic '{name}' must have exactly one type parameter."
  | unknownType kind =>
      s!"TypeScript type annotation '{kind}' is unsupported in module specs."
  | enumMembers kind =>
      s!"Unexpected enum member type '{kind}'. "
        ++ "Only string and number enum members are supported."
  | unionForbidden =>
      "Union types are only supported in C++-only modules."
  | unionMixed kinds =>
      "Union members must be of the same type, but multiple types were found: "
        ++ ", ".intercalate kinds ++ "."

end Cause

/-- Something wrong with a module spec. -/
structure Fault where
  moduleName : String
  nodes : List Node
  cause : Cause

namespace Fault

def kind (f : Fault) : FaultKind :=
  f.cause.kind

def fatal (f : Fault) : Bool :=
  f.kind.fatal

def message (f : Fault) : String :=
  s!"Module {f.moduleName}: " ++ f.cause.text

/-- Where the first node of the fault stands. -/
def span (f : Fault) : Span :=
  match f.nodes with
  | [] => Span.none
  | n :: _ => n.span

/-- The line the fault points at; zero when it points nowhere. -/
def line (f : Fault) : Nat :=
  f.span.startLine

end Fault

end ModuleSpec
