import ModuleSpec.Json
import ModuleSpec.Schema.Module

/-!
# Schema documents

The JSON form of schema types and of module schemas, as the code
generators read it.  What is absent has no entry.
-/

namespace ModuleSpec

/-- An object whose only entry is its type. -/
def Json.typed (name : String) (entries : List (String × Json)) : Json :=
  .object (("type", .string name) :: entries)

/-- The document of an annotation that may also be null. -/
def Json.nullable (flag : Bool) (inner : Json) : Json :=
  if flag then
    .typed "NullableTypeAnnotation" [("typeAnnotation", inner)]
  else
    inner

mutual

/-- The document of an annotation. -/
def SchemaType.toJson : SchemaType → Json
  | .boolean => .typed "BooleanTypeAnnotation" []
  | .number => .typed "NumberTypeAnnotation" []
  | .int32 => .typed "Int32TypeAnnotation" []
  | .double => .typed "DoubleTypeAnnotation" []
  | .float => .typed "FloatTypeAnnotation" []
  | .string => .typed "StringTypeAnnotation" []
  | .stringish => .typed "StringishTypeAnnotation" []
  | .void => .typed "VoidTypeAnnotation" []
  | .promise => .typed "PromiseTypeAnnotation" []
  | .rootTag => .typed "ReservedTypeAnnotation" [("name", .string "RootTag")]
  | .genericObject => .typed "GenericObjectTypeAnnotation" []
  | .mixed => .typed "MixedTypeAnnotation" []
  | .enum kind => .typed "EnumDeclaration" [("memberType", .string kind.name)]
  | .union kind => .typed "UnionTypeAnnotation" [("memberType", .string kind.name)]
  | .alias name => .typed "TypeAliasTypeAnnotation" [("name", .string name)]
  | .object properties =>
      .typed "ObjectTypeAnnotation" [("properties", .array (Shape.toJsonAll properties))]
  | .array none => .typed "ArrayTypeAnnotation" []
  | .array (some ⟨nullable, a⟩) =>
      .typed "ArrayTypeAnnotation" [("elementType", Json.nullable nullable a.toJson)]
  | .function params ⟨nullable, a⟩ =>
      .typed "FunctionTypeAnnotation"
        [
          ("returnTypeAnnotation", Json.nullable nullable a.toJson),
          ("params", .array (Shape.toJsonAll params))
        ]

/-- The document of a named value. -/
def Shape.toJson : Shape → Json
  | ⟨name, optional, ⟨nullable, a⟩⟩ =>
      .object
        [
          ("name", .string name),
          ("optional", .bool optional),
          ("typeAnnotation", Json.nullable nullable a.toJson)
        ]

def Shape.toJsonAll : List Shape → List Json
  | [] => []
  | s :: ss => s.toJson :: Shape.toJsonAll ss

end

namespace Nullable

def toJson (x : Nullable SchemaType) : Json :=
  Json.nullable x.nullable x.value.toJson

end Nullable

namespace Aliases

def toJson (table : Aliases) : Json :=
  .object (table.entries.map fun a => (a.name, (SchemaType.object a.properties).toJson))

end Aliases

namespace Schema

/-- The document of a module schema. -/
def toJson (schema : Schema) : Json :=
  .typed "NativeModule"
    ([
      ("aliasMap", schema.aliases.toJson),
      ("spec", .object [("properties", .array (schema.properties.map Shape.toJson))]),
      ("moduleNames", .array (schema.moduleNames.map Json.string))
    ] ++
    match schema.excluded with
    | none => []
    | some platforms =>
        [("excludedPlatforms", .array (platforms.map Json.string))])

end Schema

end ModuleSpec
