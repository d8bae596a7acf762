import Mathlib.Data.List.Nodup
import ModuleSpec.Schema.Document

/-!
# Reading schema documents

A schema document holds all that there is to a schema.  What has been written can
be read back, although null is allowed by an object that looks like an annotation,
several annotations share the name of an entry, and what is absent has no entry.
The order in which aliases were registered is given besides.

**Algorithm.**  Documents are read from the leaves upward.  The reading of a
document is one record that holds everything the document could stand for; an
object is read by looking its entries up.

**Results.**  `SchemaType.ofJson?_toJson`, `Nullable.ofJson?_toJson`,
`Shape.ofJson?_toJson`, `Schema.ofJson?_toJson`: what is written is read back.
-/

namespace ModuleSpec

namespace Json

/-- The value of an entry of an object. -/
def field? : Json → String → Option Json
  | .object entries, key => entries.lookup key
  | _, _ => none

/-- The text that a document is. -/
def text? : Json → Option String
  | .string s => some s
  | _ => none

/-- The texts in an array. -/
def texts? : Json → Option (List String)
  | .array items => items.mapM text?
  | _ => none

end Json

/-! ## Reading -/

/-- Everything that a document can stand for. -/
structure Decoded where
  flag : Option Bool
  text : Option String
  annotation : Option SchemaType
  nullable : Option (Nullable SchemaType)
  shape : Option Shape
  shapes : Option (List Shape)

namespace Decoded

/-- What stands for nothing. -/
def nothing : Decoded := ⟨none, none, none, none, none, none⟩

def ofFlag (b : Bool) : Decoded := { nothing with flag := some b }

def ofText (s : String) : Decoded := { nothing with text := some s }

def ofItems (items : List Decoded) : Decoded := { nothing with shapes := items.mapM shape }

section Fields

variable (field : String → Option Decoded)

/-- The text of an entry. -/
def textOf (key : String) : Option String :=
  (field key).bind text

/-- The sort of members that an annotation says it has. -/
def memberKind : Option MemberKind :=
  (textOf field "memberType").bind fun name =>
    [MemberKind.number, .string, .object].find? fun kind => kind.name == name

/-- The annotation of an object with the given entries. -/
def readAnnotation : Option SchemaType :=
  (textOf field "type").bind fun
    | "BooleanTypeAnnotation" => some .boolean
    | "NumberTypeAnnotation" => some .number
    | "Int32TypeAnnotation" => some .int32
    | "DoubleTypeAnnotation" => some .double
    | "FloatTypeAnnotation" => some .float
    | "StringTypeAnnotation" => some .string
    | "StringishTypeAnnotation" => some .stringish
    | "VoidTypeAnnotation" => some .void
    | "PromiseTypeAnnotation" => some .promise
    | "ReservedTypeAnnotation" => if textOf field "name" = some "RootTag" then some .rootTag else none
    | "GenericObjectTypeAnnotation" => some .genericObject
    | "MixedTypeAnnotation" => some .mixed
    | "EnumDeclaration" => (memberKind field).map .enum
    | "UnionTypeAnnotation" => (memberKind field).map .union
    | "TypeAliasTypeAnnotation" => (textOf field "name").map .alias
    | "ObjectTypeAnnotation" => ((field "properties").bind shapes).map .object
    | "ArrayTypeAnnotation" =>
        match field "elementType" with
        | none => some (.array none)
        | some element => element.nullable.map fun x => .array (some x)
    | "FunctionTypeAnnotation" => do
        let params ← (field "params").bind shapes
        let result ← (field "returnTypeAnnotation").bind nullable
        some (.function params result)
    | _ => none

/-- The annotation of an object, and whether null is allowed by one around it. -/
def readNullable : Option (Nullable SchemaType) :=
  if textOf field "type" = some "NullableTypeAnnotation" then
    ((field "typeAnnotation").bind annotation).map fun a => ⟨true, a⟩
  else
    readAnnotation field |>.map fun a => ⟨false, a⟩

def readShape : Option Shape := do
  let name ← textOf field "name"
  let optional ← (field "optional").bind flag
  let type ← (field "typeAnnotation").bind nullable
  some ⟨name, optional, type⟩

/-- What an object with the given entries can stand for. -/
def ofFields : Decoded :=
  { nothing with
    annotation := readAnnotation field
    nullable := readNullable field
    shape := readShape field }

end Fields

end Decoded

namespace Json

mutual

/-- Everything that a document can stand for. -/
def decoded : Json → Decoded
  | .bool b => .ofFlag b
  | .string s => .ofText s
  | .array items => .ofItems (decodedAll items)
  | .object entries => .ofFields fun key => (decodedEntries entries).lookup key

def decodedAll : List Json → List Decoded
  | [] => []
  | item :: items => decoded item :: decodedAll items

def decodedEntries : List (String × Json) → List (String × Decoded)
  | [] => []
  | (key, value) :: entries => (key, decoded value) :: decodedEntries entries

end

end Json

/-- The annotation that a document stands for. -/
def SchemaType.ofJson? (doc : Json) : Option SchemaType := doc.decoded.annotation

/-- The annotation that a document stands for, and whether null is allowed too. -/
def Nullable.ofJson? (doc : Json) : Option (Nullable SchemaType) := doc.decoded.nullable

/-- The named value that a document stands for. -/
def Shape.ofJson? (doc : Json) : Option Shape := doc.decoded.shape

/-- The named object of a table of aliases. -/
def Alias.ofJson? (table : Json) (name : String) : Option Alias :=
  match (table.field? name).bind SchemaType.ofJson? with
  | some (.object properties) => some ⟨name, properties⟩
  | _ => none

namespace Schema

/-- The named objects of a document, in the order given. -/
def aliasesOf? (order : List String) (doc : Json) : Option (List Alias) :=
  (doc.field? "aliasMap").bind fun table => order.mapM (Alias.ofJson? table)

def propertiesOf? (doc : Json) : Option (List Shape) :=
  (doc.field? "spec").bind fun spec => (spec.field? "properties").bind fun d => d.decoded.shapes

def moduleNamesOf? (doc : Json) : Option (List String) :=
  (doc.field? "moduleNames").bind Json.texts?

/-- The platforms that a document leaves out, if it says anything about platforms. -/
def excludedOf? (doc : Json) : Option (Option (List String)) :=
  match doc.field? "excludedPlatforms" with
  | none => some none
  | some platforms => platforms.texts?.map some

/-- The schema that a document stands for; the aliases come in the order given. -/
def ofJson? (order : List String) (doc : Json) : Option Schema := do
  let aliases ← aliasesOf? order doc
  let properties ← propertiesOf? doc
  let names ← moduleNamesOf? doc
  let excluded ← excludedOf? doc
  some ⟨⟨aliases⟩, properties, names, excluded⟩

end Schema

/-! ## What is written is read back -/

/-- The document is read as the annotation, and not as one that may be null. -/
structure Json.StandsFor
    (doc : Json)
    (a : SchemaType) : Prop where
  annotation : doc.decoded.annotation = some a
  nullable : doc.decoded.nullable = some ⟨false, a⟩

/-- Whether null is allowed is read from what is written around the annotation. -/
theorem Json.StandsFor.nullable_wrap
    {doc : Json}
    {a : SchemaType}
    (h : doc.StandsFor a)
    (flag : Bool) :
    (Json.nullable flag doc).decoded.nullable = some ⟨flag, a⟩ := by
  cases flag with
  | false =>
      exact h.nullable
  | true =>
      exact congrArg (Option.map fun a => (⟨true, a⟩ : Nullable SchemaType)) h.annotation

theorem Json.standsFor_typed
    {kind : String}
    {entries : List (String × Json)}
    {a : SchemaType}
    (hkind : kind ≠ "NullableTypeAnnotation")
    (h : (Json.typed kind entries).decoded.annotation = some a) :
    (Json.typed kind entries).StandsFor a where
  annotation := h
  nullable := by
    have htype : ¬ some kind = some "NullableTypeAnnotation" := by simpa using hkind
    exact (if_neg htype).trans (congrArg (Option.map fun a => (⟨false, a⟩ : Nullable SchemaType)) h)

mutual

theorem SchemaType.standsFor_toJson : ∀ a : SchemaType, a.toJson.StandsFor a
  | .boolean | .number | .int32 | .double | .float | .string | .stringish | .void | .promise
  | .rootTag | .genericObject | .mixed | .alias _ | .array none => ⟨rfl, rfl⟩
  | .enum kind | .union kind => by
      cases kind <;> exact ⟨rfl, rfl⟩
  | .object properties => by
      refine Json.standsFor_typed (by decide) ?_
      change ((Json.decodedAll (Shape.toJsonAll properties)).mapM Decoded.shape).map _ = _
      rw [Shape.mapM_decodedAll properties]
      rfl
  | .array (some ⟨nullable, a⟩) => by
      refine Json.standsFor_typed (by decide) ?_
      change (Json.nullable nullable a.toJson).decoded.nullable.map _ = _
      rw [a.standsFor_toJson.nullable_wrap nullable]
      rfl
  | .function params ⟨nullable, a⟩ => by
      refine Json.standsFor_typed (by decide) ?_
      change ((Json.decodedAll (Shape.toJsonAll params)).mapM Decoded.shape).bind (fun params =>
        (Json.nullable nullable a.toJson).decoded.nullable.bind fun result =>
          some (SchemaType.function params result)) = _
      rw [Shape.mapM_decodedAll params, a.standsFor_toJson.nullable_wrap nullable]
      rfl

theorem Shape.shape_decoded : ∀ s : Shape, s.toJson.decoded.shape = some s
  | ⟨name, optional, ⟨nullable, a⟩⟩ => by
      change (Json.nullable nullable a.toJson).decoded.nullable.bind (fun x =>
        some (Shape.mk name optional x)) = _
      rw [a.standsFor_toJson.nullable_wrap nullable]
      rfl

theorem Shape.mapM_decodedAll :
    ∀ ss : List Shape, (Json.decodedAll (Shape.toJsonAll ss)).mapM Decoded.shape = some ss
  | [] => rfl
  | s :: ss => by
      rw [Shape.toJsonAll, Json.decodedAll, List.mapM_cons, s.shape_decoded,
        Shape.mapM_decodedAll ss]
      rfl

end

/-- Where the keys are distinct an entry is found under its key. -/
theorem lookup_of_mem
    {α : Type}
    {entries : List (String × α)}
    (hkeys : (entries.map Prod.fst).Nodup)
    {key : String}
    {value : α}
    (h : (key, value) ∈ entries) :
    entries.lookup key = some value := by
  induction entries with
  | nil =>
      cases h
  | cons entry entries ih =>
      obtain ⟨hnew, hrest⟩ := List.nodup_cons.1 hkeys
      rcases List.mem_cons.1 h with rfl | h
      · exact List.lookup_cons_self
      · have hne : key ≠ entry.1 := by
          rintro rfl
          exact hnew (List.mem_map.2 ⟨_, h, rfl⟩)
        rw [List.lookup_cons, beq_eq_false_iff_ne.2 hne]
        exact ih hrest h

theorem lookup_eq_none
    {α : Type}
    {entries : List (String × α)}
    {key : String}
    (h : key ∉ entries.map Prod.fst) :
    entries.lookup key = none := by
  rw [List.lookup_eq_none_iff]
  intro entry hentry
  rw [bne_iff_ne]
  rintro rfl
  exact h (List.mem_map_of_mem hentry)

theorem SchemaType.ofJson?_toJson
    (a : SchemaType) :
    SchemaType.ofJson? a.toJson = some a :=
  a.standsFor_toJson.annotation

theorem Nullable.ofJson?_toJson
    (x : Nullable SchemaType) :
    Nullable.ofJson? x.toJson = some x :=
  x.value.standsFor_toJson.nullable_wrap x.nullable

theorem Shape.ofJson?_toJson
    (s : Shape) :
    Shape.ofJson? s.toJson = some s :=
  s.shape_decoded

/-! ## Schemas -/

theorem Aliases.field?_toJson
    {table : Aliases}
    (hnames : table.names.Nodup)
    {a : Alias}
    (ha : a ∈ table.entries) :
    table.toJson.field? a.name = some (SchemaType.object a.properties).toJson := by
  have hkeys : ((table.entries.map fun a =>
      (a.name, (SchemaType.object a.properties).toJson)).map Prod.fst).Nodup := by
    rw [List.map_map]
    exact hnames
  exact lookup_of_mem hkeys (List.mem_map.2 ⟨a, ha, rfl⟩)

theorem Alias.ofJson?_toJson
    {table : Aliases}
    (hnames : table.names.Nodup)
    {a : Alias}
    (ha : a ∈ table.entries) :
    Alias.ofJson? table.toJson a.name = some a := by
  rw [Alias.ofJson?, Aliases.field?_toJson hnames ha, Option.bind_some,
    SchemaType.ofJson?_toJson]

/-- Texts that are all read are read in their order. -/
theorem mapM_map_eq_some
    {α β : Type}
    {f : α → β}
    {g : β → Option α}
    {as : List α}
    (h : ∀ a, a ∈ as → g (f a) = some a) :
    (as.map f).mapM g = some as := by
  induction as with
  | nil =>
      rfl
  | cons a as ih =>
      rw [List.map_cons, List.mapM_cons, h a List.mem_cons_self,
        ih fun b hb => h b (List.mem_cons_of_mem a hb)]
      rfl

theorem Json.texts?_strings
    (ss : List String) :
    (Json.array (ss.map Json.string)).texts? = some ss :=
  mapM_map_eq_some fun _ _ => rfl

namespace Schema

variable (schema : Schema)

theorem aliasesOf?_toJson
    (hnames : schema.aliases.names.Nodup) :
    aliasesOf? schema.aliases.names schema.toJson = some schema.aliases.entries :=
  mapM_map_eq_some fun _ => Alias.ofJson?_toJson hnames

theorem propertiesOf?_toJson :
    propertiesOf? schema.toJson = some schema.properties := by
  have hshapes : schema.properties.map Shape.toJson = Shape.toJsonAll schema.properties := by
    induction schema.properties with
    | nil => rfl
    | cons s ss ih => rw [List.map_cons, ih, Shape.toJsonAll]
  change (Json.decodedAll (schema.properties.map Shape.toJson)).mapM Decoded.shape = _
  rw [hshapes, Shape.mapM_decodedAll]

theorem moduleNamesOf?_toJson :
    moduleNamesOf? schema.toJson = some schema.moduleNames :=
  Json.texts?_strings schema.moduleNames

theorem excludedOf?_toJson :
    excludedOf? schema.toJson = some schema.excluded := by
  obtain ⟨aliases, properties, names, _ | platforms⟩ := schema
  · rfl
  · exact congrArg (Option.map some) (Json.texts?_strings platforms)

/-- With the order of its aliases a schema is read back from its document. -/
theorem ofJson?_toJson
    (hnames : schema.aliases.names.Nodup) :
    ofJson? schema.aliases.names schema.toJson = some schema := by
  rw [ofJson?, aliasesOf?_toJson schema hnames, propertiesOf?_toJson, moduleNamesOf?_toJson,
    excludedOf?_toJson]
  rfl

end Schema

end ModuleSpec
