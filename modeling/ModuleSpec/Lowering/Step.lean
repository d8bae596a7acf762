import ModuleSpec.Lowering.Capture
import ModuleSpec.Resolution

/-!
# One step of lowering

The rules that lower an annotation, given a way to lower the annotations beneath
it.  An annotation is resolved first, and the rule depends on what it resolves
to.

* Members of an object and parameters of a function are lowered under the
  capture, so that a fault drops that member or parameter alone.
* The element of an array is lowered under the capture that lets every fault
  through.  The array catches what comes through and stays, without an element.
  That an element cannot be stored is recorded on the sink, which stays the same
  however deep the array lies.
* An object that a name was followed to is registered under that name, and an
  alias takes its place.

Unions, enums, unknown and functions as results are allowed only in a module
that is implemented in C++ alone.
-/

namespace ModuleSpec

/-- What a lowering depends on besides the annotation. -/
structure Scope where
  moduleName : String
  types : Environment
  nativeOnly : Bool
  capture : Capture
  sink : Capture

/-- The parameters and the result of a function type or a method. -/
structure Signature where
  node : Node
  params : List Param
  result : Option Ty

/-- A way to lower an annotation in a scope. -/
abbrev Lower := Scope → Ty → Lowering (Nullable SchemaType)

namespace Scope

/-- The scope in which every fault goes through. -/
def passing (scope : Scope) : Scope :=
  { scope with capture := .passthrough }

def fault (scope : Scope) (node : Node) (cause : Cause) : Fault :=
  ⟨scope.moduleName, [node], cause⟩

end Scope

namespace SchemaType

/-- The word for an annotation that neither an array nor an object can hold. -/
def unstorable? : SchemaType → Option String
  | void => some "void"
  | promise => some "Promise"
  | function .. => some "FunctionTypeAnnotation"
  | _ => none

/-- The word for an annotation that no parameter can have. -/
def unpassable? : SchemaType → Option String
  | void => some "void"
  | promise => some "Promise"
  | _ => none

def isFunction : SchemaType → Bool
  | function .. => true
  | _ => false

/-- The annotation of a keyword. -/
def keyword? (word : String) : Option SchemaType :=
  if word = "boolean" then some boolean
  else if word = "number" then some number
  else if word = "string" then some string
  else if word = "void" then some void
  else none

/-- The annotation of a name with a fixed meaning. -/
def named? (name : String) : Option SchemaType :=
  if name = "RootTag" then some rootTag
  else if name = "Stringish" then some stringish
  else if name = "Int32" then some int32
  else if name = "Double" then some double
  else if name = "Float" then some float
  else if name = "Object" then some genericObject
  else if name = "UnsafeObject" then some genericObject
  else none

end SchemaType

namespace Ty

/-- What a member of a union is: a number, a string, or anything else. -/
def memberKind : Ty → MemberKind
  | literal (.number ..) _ => .number
  | literal (.string ..) _ => .string
  | _ => .object

end Ty

/-! ## Arrays -/

/-- An array of the given element. -/
def lowerArray
    (lower : Lower)
    (scope : Scope)
    (array : String)
    (element : Ty)
    (nullable : Bool) :
    Lowering (Nullable SchemaType) := do
  match ← (lower scope.passing element).attempt with
  | .error _ => pure ⟨nullable, .array none⟩
  | .ok found =>
      match found.value.unstorable? with
      | some word =>
          scope.sink.record (scope.fault (.type element) (.arrayElement array word))
          pure ⟨nullable, .array none⟩
      | none => pure ⟨nullable, .array (some found)⟩

/-! ## References -/

/-- The only type argument of a reference. -/
def onlyTypeArg
    (scope : Scope)
    (node : Node)
    (name : String)
    (typeArgs : Option (List Ty)) :
    Lowering Ty :=
  match typeArgs.getD [] with
  | [] => .raise (scope.fault node (.genericUnapplied name))
  | [t] => pure t
  | _ => .raise (scope.fault node (.genericOverapplied name))

/-- What the members of an enum are, to judge by the first. -/
def enumKind
    (scope : Scope)
    (node : Node)
    (decl : Enum) :
    Lowering MemberKind :=
  match decl.members with
  | [] => .raise (scope.fault node (.enumMembers "empty"))
  | m :: _ =>
      match m.value with
      | none => pure .string
      | some (.string ..) => pure .string
      | some (.number ..) => pure .number
      | some e => .raise (scope.fault node (.enumMembers e.kind))

/-- A reference that stands for nothing declared but perhaps an enum. -/
def lowerReference
    (lower : Lower)
    (scope : Scope)
    (node : Node)
    (name : String)
    (typeArgs : Option (List Ty))
    (nullable : Bool) :
    Lowering (Nullable SchemaType) :=
  if name = "Promise" then do
    let _ ← onlyTypeArg scope node name typeArgs
    pure ⟨nullable, .promise⟩
  else if name = "Array" ∨ name = "ReadonlyArray" then do
    let element ← onlyTypeArg scope node name typeArgs
    lowerArray lower scope name element nullable
  else
    match SchemaType.named? name with
    | some a => pure ⟨nullable, a⟩
    | none =>
        match scope.nativeOnly, scope.types.find? name with
        | true, some (.enum decl) => do
            let kind ← enumKind scope node decl
            pure ⟨nullable, .enum kind⟩
        | _, _ => .raise (scope.fault node (.unknownGeneric name))

/-! ## Objects -/

/-- A property of an object. -/
def lowerObjectMember
    (lower : Lower)
    (scope : Scope) :
    Member → Lowering Shape
  | .property name (some type) optional _ => do
      let found ← lower scope type
      match found.value.unstorable? with
      | some word => .raise (scope.fault (.type type) (.objectValue name word))
      | none => pure ⟨name, optional, found⟩
  | m@(.property _ none _ _) =>
      .raise (scope.fault (.member m) (.objectMember "untyped PropertySignature"))
  | m => .raise (scope.fault (.member m) (.objectMember m.kind))

/-- An object, or the alias that it is registered under. -/
def lowerObject
    (lower : Lower)
    (scope : Scope)
    (members : List Member)
    (alias? : Option String)
    (nullable : Bool) :
    Lowering (Nullable SchemaType) := do
  let properties ← Lowering.collect
    (fun m => scope.capture.guard (lowerObjectMember lower scope m)) members
  match alias? with
  | none => pure ⟨nullable, .object properties⟩
  | some name =>
      .emit (.registered ⟨name, properties⟩)
      pure ⟨nullable, .alias name⟩

/-! ## Functions -/

/-- A parameter of a function. -/
def lowerParam
    (lower : Lower)
    (scope : Scope)
    (param : Param) :
    Lowering Shape :=
  match param.type with
  | none => .raise (scope.fault (.param param) (.paramUntyped param.name))
  | some type => do
      let found ← lower scope type
      match found.value.unpassable? with
      | some word => .raise (scope.fault (.type type) (.paramForbidden param.name word))
      | none => pure ⟨param.name, param.optional, found⟩

/-- The result of a function. -/
def lowerResult
    (lower : Lower)
    (scope : Scope)
    (signature : Signature) :
    Lowering (Nullable SchemaType) :=
  match signature.result with
  | none => .raise (scope.fault signature.node (.resultForbidden "missing"))
  | some type => do
      let found ← lower scope type
      if !scope.nativeOnly && found.value.isFunction then
        .raise (scope.fault (.type type) (.resultForbidden "FunctionTypeAnnotation"))
      else
        pure found

/-- A function type or a method. -/
def lowerSignature
    (lower : Lower)
    (scope : Scope)
    (signature : Signature) :
    Lowering SchemaType := do
  let params ← Lowering.collect
    (fun p => scope.capture.guard (lowerParam lower scope p)) signature.params
  let result ← lowerResult lower scope signature
  pure (.function params result)

/-! ## Unions -/

/-- A union of literals. -/
def lowerUnion
    (scope : Scope)
    (node : Node)
    (members : List Ty)
    (nullable : Bool) :
    Lowering (Nullable SchemaType) :=
  if scope.nativeOnly then
    match (members.map Ty.memberKind).eraseDups with
    | [] => .halt .emptyUnion
    | [kind] => pure ⟨nullable, .union kind⟩
    | kinds => .raise (scope.fault node (.unionMixed (kinds.map MemberKind.name)))
  else
    .raise (scope.fault node .unionForbidden)

/-! ## Annotations -/

/-- An annotation, given a way to lower those beneath it. -/
def lowerStep
    (lower : Lower)
    (scope : Scope)
    (type : Ty) :
    Lowering (Nullable SchemaType) :=
  let found := scope.types.resolve type
  let nullable := found.nullable
  match found.type with
  | .array element _ =>
      lowerArray lower scope "Array" element nullable
  | .operator word operand span =>
      match word == "readonly", operand with
      | true, .array element _ =>
          lowerArray lower scope "ReadonlyArray" element nullable
      | _, _ =>
          .raise (scope.fault (.type (.operator word operand span)) (.unknownGeneric word))
  | .reference name typeArgs span =>
      lowerReference lower scope (.type (.reference name typeArgs span)) name typeArgs nullable
  | .object members _ =>
      lowerObject lower scope members found.alias? nullable
  | .keyword word span =>
      match SchemaType.keyword? word with
      | some a => pure ⟨nullable, a⟩
      | none =>
          if word = "unknown" ∧ scope.nativeOnly then
            pure ⟨nullable, .mixed⟩
          else
            let node := Node.type (.keyword word span)
            .raise (scope.fault node (.unknownType node.kind))
  | .function params result span => do
      let node := Node.type (.function params result span)
      let a ← lowerSignature lower scope ⟨node, params, result⟩
      pure ⟨nullable, a⟩
  | .union members span =>
      lowerUnion scope (.type (.union members span)) members nullable
  | t => .raise (scope.fault (.type t) (.unknownType t.kind))

section Step

variable {lower : Lower} {scope : Scope} {type : Ty}

/-- What resolves to an object is lowered under the last name that was followed to it. -/
theorem lowerStep_of_object
    {members : List Member}
    {span : Span}
    (h : (scope.types.resolve type).type = .object members span) :
    lowerStep lower scope type =
      lowerObject lower scope members (scope.types.resolve type).alias?
        (scope.types.resolve type).nullable := by
  simp only [lowerStep, h]

/-- What resolves to a function is lowered as its signature. -/
theorem lowerStep_of_function
    {params : List Param}
    {result : Option Ty}
    {span : Span}
    (h : (scope.types.resolve type).type = .function params result span) :
    lowerStep lower scope type =
      lowerSignature lower scope ⟨.type (.function params result span), params, result⟩ >>=
        fun a => pure ⟨(scope.types.resolve type).nullable, a⟩ := by
  simp only [lowerStep, h]

end Step

end ModuleSpec
