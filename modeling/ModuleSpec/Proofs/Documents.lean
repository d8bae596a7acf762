import Mathlib.Data.List.Perm.Subperm
import ModuleSpec.Proofs.Schema.Decoding

/-!
# Schema documents as values

A document is a value: an object is a table with one entry to a key, and the order
of its entries says nothing.  Reading a document looks entries up by their keys, so
it does not see their order either.

Two schemas that are written as the same value are the same, but for the order in
which their aliases were registered.

**Results.**  `Json.Alike.decoded_eq`: reading sees the value and nothing else.
`documents_decode`.
-/

namespace ModuleSpec

namespace Json

/-! ## Documents as values -/

mutual

/-- The same value: the entries of an object, one to a key, can come in another order. -/
def Alike : Json → Json → Prop
  | .bool b, doc => doc = .bool b
  | .string s, doc => doc = .string s
  | .array items, doc => ∃ items', doc = .array items' ∧ AlikeItems items items'
  | .object entries, doc => ∃ entries', doc = .object entries' ∧
      (entries.map Prod.fst).Nodup ∧ (entries'.map Prod.fst).Perm (entries.map Prod.fst) ∧
        AlikeEntries entries entries'

def AlikeItems : List Json → List Json → Prop
  | [], items' => items' = []
  | item :: items, items' => ∃ item' rest, items' = item' :: rest ∧
      Alike item item' ∧ AlikeItems items rest

/-- Each entry has one of its key and value among the others. -/
def AlikeEntries : List (String × Json) → List (String × Json) → Prop
  | [], _ => True
  | (key, value) :: entries, entries' =>
      (∃ value', (key, value') ∈ entries' ∧ Alike value value') ∧ AlikeEntries entries entries'

end

section Lookup

variable {entries entries' : List (String × Json)}

theorem AlikeEntries.exists_of_mem
    (h : AlikeEntries entries entries')
    {key : String}
    {value : Json}
    (hmem : (key, value) ∈ entries) :
    ∃ value', (key, value') ∈ entries' ∧ value.Alike value' := by
  induction entries with
  | nil =>
      cases hmem
  | cons entry entries ih =>
      rw [AlikeEntries] at h
      rcases List.mem_cons.1 hmem with rfl | hmem
      · exact h.1
      · exact ih h.2 hmem

/-- What relates the entries of the same keys relates what is found under a key. -/
theorem rel_lookup
    {R : Json → Json → Prop}
    (hkeys : (entries.map Prod.fst).Nodup)
    (hperm : (entries'.map Prod.fst).Perm (entries.map Prod.fst))
    (h : ∀ key value, (key, value) ∈ entries → ∃ value', (key, value') ∈ entries' ∧ R value value')
    (key : String) :
    Option.Rel R (entries.lookup key) (entries'.lookup key) := by
  by_cases hkey : key ∈ entries.map Prod.fst
  · obtain ⟨⟨_, value⟩, hmem, rfl⟩ := List.mem_map.1 hkey
    obtain ⟨value', hmem', hvalue⟩ := h _ value hmem
    rw [lookup_of_mem hkeys hmem, lookup_of_mem (hperm.nodup_iff.2 hkeys) hmem']
    exact .some hvalue
  · rw [lookup_eq_none hkey, lookup_eq_none fun hmem => hkey (hperm.mem_iff.1 hmem)]
    exact .none

end Lookup

/-- Of the same value the same entries are found. -/
theorem Alike.field?
    {doc doc' : Json}
    (h : doc.Alike doc')
    (key : String) :
    Option.Rel Alike (doc.field? key) (doc'.field? key) := by
  cases doc with
  | object entries =>
      obtain ⟨entries', rfl, hkeys, hperm, halike⟩ := h
      exact rel_lookup hkeys hperm (fun _ _ => halike.exists_of_mem) key
  | bool b => cases h; exact .none
  | string s => cases h; exact .none
  | array items =>
      obtain ⟨items', rfl, -⟩ := h
      exact .none

/-! ## Reading sees the value -/

theorem map_eq_of_rel
    {α β : Type}
    {f : α → β}
    {x x' : Option α}
    (h : Option.Rel (fun a a' => f a = f a') x x') :
    x.map f = x'.map f := by
  cases h with
  | none => rfl
  | some heq => exact congrArg some heq

theorem bind_eq_of_rel
    {α β : Type}
    {R : α → α → Prop}
    {f f' : α → Option β}
    (hf : ∀ a a', R a a' → f a = f' a')
    {x x' : Option α}
    (h : Option.Rel R x x') :
    x.bind f = x'.bind f' := by
  cases h with
  | none => rfl
  | some hR => exact hf _ _ hR

theorem lookup_decodedEntries
    (entries : List (String × Json))
    (key : String) :
    (decodedEntries entries).lookup key = (entries.lookup key).map decoded := by
  induction entries with
  | nil =>
      rfl
  | cons entry entries ih =>
      rw [decodedEntries, List.lookup_cons, List.lookup_cons, ih]
      cases key == entry.1 <;> rfl

mutual

theorem Alike.decoded_eq : ∀ {doc doc' : Json}, doc.Alike doc' → doc.decoded = doc'.decoded
  | .bool _, _, h => by cases h; rfl
  | .string _, _, h => by cases h; rfl
  | .array items, _, h => by
      obtain ⟨items', rfl, halike⟩ := h
      rw [decoded, decoded, halike.decodedAll_eq]
  | .object entries, _, h => by
      obtain ⟨entries', rfl, hkeys, hperm, halike⟩ := h
      have hlookup := rel_lookup (R := fun doc doc' => doc.decoded = doc'.decoded) hkeys hperm
        halike.exists_decoded_eq
      have hfields : (fun key => (decodedEntries entries).lookup key) =
          fun key => (decodedEntries entries').lookup key := by
        funext key
        rw [lookup_decodedEntries, lookup_decodedEntries]
        exact map_eq_of_rel (hlookup key)
      rw [decoded, decoded, hfields]

theorem AlikeItems.decodedAll_eq :
    ∀ {items items' : List Json}, AlikeItems items items' → decodedAll items = decodedAll items'
  | [], _, h => by cases h; rfl
  | item :: items, _, h => by
      obtain ⟨item', rest, rfl, hitem, hrest⟩ := h
      rw [decodedAll, decodedAll, hitem.decoded_eq, hrest.decodedAll_eq]

theorem AlikeEntries.exists_decoded_eq :
    ∀ {entries entries' : List (String × Json)}, AlikeEntries entries entries' →
      ∀ key value, (key, value) ∈ entries →
        ∃ value', (key, value') ∈ entries' ∧ value.decoded = value'.decoded
  | (_, _) :: entries, _, h, key, value, hmem => by
      obtain ⟨⟨value', hmem', hvalue⟩, hrest⟩ := h
      have hdecoded := hvalue.decoded_eq
      rcases List.mem_cons.1 hmem with heq | hmem
      · cases heq
        exact ⟨value', hmem', hdecoded⟩
      · exact hrest.exists_decoded_eq key value hmem

end

theorem Alike.text?_eq
    {doc doc' : Json}
    (h : doc.Alike doc') :
    doc.text? = doc'.text? := by
  cases doc with
  | string s => cases h; rfl
  | bool b => cases h; rfl
  | array items => obtain ⟨items', rfl, -⟩ := h; rfl
  | object entries => obtain ⟨entries', rfl, -⟩ := h; rfl

theorem AlikeItems.mapM_text?_eq
    {items items' : List Json}
    (h : AlikeItems items items') :
    items.mapM text? = items'.mapM text? := by
  induction items generalizing items' with
  | nil =>
      cases h
      rfl
  | cons item items ih =>
      obtain ⟨item', rest, rfl, hitem, hrest⟩ := h
      rw [List.mapM_cons, List.mapM_cons, hitem.text?_eq, ih hrest]

theorem Alike.texts?_eq
    {doc doc' : Json}
    (h : doc.Alike doc') :
    doc.texts? = doc'.texts? := by
  cases doc with
  | array items =>
      obtain ⟨items', rfl, halike⟩ := h
      exact halike.mapM_text?_eq
  | string s => cases h; rfl
  | bool b => cases h; rfl
  | object entries => obtain ⟨entries', rfl, -⟩ := h; rfl

end Json

theorem Alias.ofJson?_eq
    {table table' : Json}
    (h : table.Alike table')
    (name : String) :
    Alias.ofJson? table name = Alias.ofJson? table' name := by
  have hobject : (table.field? name).bind SchemaType.ofJson? =
      (table'.field? name).bind SchemaType.ofJson? :=
    Json.bind_eq_of_rel (fun _ _ hvalue => congrArg Decoded.annotation hvalue.decoded_eq)
      (h.field? name)
  rw [Alias.ofJson?, Alias.ofJson?, hobject]

namespace Schema

variable {doc doc' : Json}

theorem aliasesOf?_eq
    (h : doc.Alike doc')
    (order : List String) :
    aliasesOf? order doc = aliasesOf? order doc' :=
  Json.bind_eq_of_rel
    (fun _ _ htable => congrArg (order.mapM ·) (funext fun name => Alias.ofJson?_eq htable name))
    (h.field? "aliasMap")

theorem propertiesOf?_eq
    (h : doc.Alike doc') :
    propertiesOf? doc = propertiesOf? doc' :=
  Json.bind_eq_of_rel
    (fun _ _ hspec => Json.bind_eq_of_rel
      (fun _ _ hitems => congrArg Decoded.shapes hitems.decoded_eq) (hspec.field? "properties"))
    (h.field? "spec")

theorem moduleNamesOf?_eq
    (h : doc.Alike doc') :
    moduleNamesOf? doc = moduleNamesOf? doc' :=
  Json.bind_eq_of_rel (fun _ _ hnames => hnames.texts?_eq) (h.field? "moduleNames")

theorem excludedOf?_eq
    (h : doc.Alike doc') :
    excludedOf? doc = excludedOf? doc' := by
  have hfield := h.field? "excludedPlatforms"
  rw [excludedOf?, excludedOf?]
  generalize doc.field? "excludedPlatforms" = x at hfield
  generalize doc'.field? "excludedPlatforms" = x' at hfield
  cases hfield with
  | none => rfl
  | some hplatforms => simp only [hplatforms.texts?_eq]

/-- The order of the entries is nothing to the schema that is read. -/
theorem ofJson?_eq
    (h : doc.Alike doc')
    (order : List String) :
    ofJson? order doc = ofJson? order doc' := by
  rw [ofJson?, ofJson?, aliasesOf?_eq h, propertiesOf?_eq h, moduleNamesOf?_eq h,
    excludedOf?_eq h]

end Schema

/-! ## Schemas written as the same value -/

/-- The same aliases and nothing else that differs; the aliases can come in another order. -/
structure Schema.SameButOrder (s s' : Schema) : Prop where
  aliases : s.aliases.entries.Perm s'.aliases.entries
  properties : s.properties = s'.properties
  moduleNames : s.moduleNames = s'.moduleNames
  excluded : s.excluded = s'.excluded

namespace Aliases

variable {table table' : Aliases}

/-- One object is registered under a name, and the tables have the same names. -/
theorem names_perm_of_alike
    (h : table.toJson.Alike table'.toJson) :
    table.names.Nodup ∧ table'.names.Perm table.names := by
  obtain ⟨entries', hentries', hkeys, hperm, -⟩ := h
  cases hentries'
  rw [List.map_map] at hkeys hperm
  rw [List.map_map] at hperm
  exact ⟨hkeys, hperm⟩

theorem subset_of_alike
    (h : table.toJson.Alike table'.toJson) :
    table.entries ⊆ table'.entries := by
  obtain ⟨hnames, hperm⟩ := names_perm_of_alike h
  intro a ha
  obtain ⟨a', ha', hname⟩ := List.mem_map.1 (hperm.mem_iff.2 (List.mem_map_of_mem ha))
  have hread := Alias.ofJson?_toJson hnames ha
  have hread' := Alias.ofJson?_toJson (hperm.nodup_iff.2 hnames) ha'
  rw [Alias.ofJson?_eq h, ← hname, hread'] at hread
  cases hread
  exact ha'

theorem perm_of_alike
    (h : table.toJson.Alike table'.toJson) :
    table.entries.Perm table'.entries := by
  obtain ⟨hnames, hperm⟩ := names_perm_of_alike h
  have hlength : table'.entries.length = table.entries.length := by
    simpa [names] using hperm.length_eq
  exact (hnames.of_map.subperm (subset_of_alike h)).perm_of_length_le (Nat.le_of_eq hlength)

end Aliases

theorem Schema.sameButOrder_of_alike
    {s s' : Schema}
    (h : s.toJson.Alike s'.toJson) :
    s.SameButOrder s' where
  aliases := by
    cases h.field? "aliasMap" with
    | some htable => exact Aliases.perm_of_alike htable
  properties := Option.some.inj <|
    s.propertiesOf?_toJson.symm.trans ((propertiesOf?_eq h).trans s'.propertiesOf?_toJson)
  moduleNames := Option.some.inj <|
    s.moduleNamesOf?_toJson.symm.trans ((moduleNamesOf?_eq h).trans s'.moduleNamesOf?_toJson)
  excluded := Option.some.inj <|
    s.excludedOf?_toJson.symm.trans ((excludedOf?_eq h).trans s'.excludedOf?_toJson)

/-- Tables that are written with the same entries in the same order are the same. -/
theorem Aliases.toJson_injective :
    Function.Injective Aliases.toJson := by
  have hentry : Function.Injective fun a : Alias =>
      (a.name, (SchemaType.object a.properties).toJson) := by
    rintro ⟨name, properties⟩ ⟨name', properties'⟩ h
    obtain ⟨rfl, hobject⟩ := Prod.mk.inj h
    have hread := congrArg SchemaType.ofJson? hobject
    rw [SchemaType.ofJson?_toJson, SchemaType.ofJson?_toJson] at hread
    cases hread
    rfl
  rintro ⟨entries⟩ ⟨entries'⟩ h
  exact congrArg Aliases.mk (List.map_injective_iff.2 hentry (Json.object.inj h))

/-- A document is that of one schema, the order of its aliases included. -/
theorem Schema.toJson_injective :
    Function.Injective Schema.toJson := by
  intro s s' h
  have haliases : s.aliases = s'.aliases :=
    Aliases.toJson_injective (Option.some.inj (congrArg (Json.field? · "aliasMap") h))
  have hproperties := congrArg Schema.propertiesOf? h
  have hmoduleNames := congrArg Schema.moduleNamesOf? h
  have hexcluded := congrArg Schema.excludedOf? h
  rw [Schema.propertiesOf?_toJson, Schema.propertiesOf?_toJson] at hproperties
  rw [Schema.moduleNamesOf?_toJson, Schema.moduleNamesOf?_toJson] at hmoduleNames
  rw [Schema.excludedOf?_toJson, Schema.excludedOf?_toJson] at hexcluded
  cases s
  cases s'
  cases haliases
  cases hproperties
  cases hmoduleNames
  cases hexcluded
  rfl

/--
What is written is read back: annotations, annotations that may be null, named values,
and with the order of their aliases schemas.  Reading sees a document as a value.  No two
schemas have one document, and schemas that are written as the same value are the same but
for the order of their aliases.
-/
theorem documents_decode :
    (∀ a : SchemaType, SchemaType.ofJson? a.toJson = some a) ∧
      (∀ x : Nullable SchemaType, Nullable.ofJson? x.toJson = some x) ∧
      (∀ s : Shape, Shape.ofJson? s.toJson = some s) ∧
      (∀ schema : Schema, schema.aliases.names.Nodup →
        Schema.ofJson? schema.aliases.names schema.toJson = some schema) ∧
      (∀ doc doc' : Json, doc.Alike doc' →
        SchemaType.ofJson? doc = SchemaType.ofJson? doc' ∧
          Nullable.ofJson? doc = Nullable.ofJson? doc' ∧
          Shape.ofJson? doc = Shape.ofJson? doc' ∧
          ∀ order, Schema.ofJson? order doc = Schema.ofJson? order doc') ∧
      Function.Injective Schema.toJson ∧
      ∀ s s' : Schema, s.toJson.Alike s'.toJson → s.SameButOrder s' := by
  refine ⟨SchemaType.ofJson?_toJson, Nullable.ofJson?_toJson, Shape.ofJson?_toJson,
    Schema.ofJson?_toJson, ?_, Schema.toJson_injective, fun s s' => Schema.sameButOrder_of_alike⟩
  intro doc doc' h
  exact ⟨congrArg Decoded.annotation h.decoded_eq, congrArg Decoded.nullable h.decoded_eq,
    congrArg Decoded.shape h.decoded_eq, Schema.ofJson?_eq h⟩

namespace Drawing

def point : Alias := ⟨"Point", [⟨"x", false, ⟨true, .number⟩⟩]⟩

def route : Alias :=
  ⟨"Route", [⟨"points", true, ⟨false, .array (some ⟨false, .alias "Point"⟩)⟩⟩,
    ⟨"rest", false, ⟨false, .array none⟩⟩]⟩

def methods : List Shape :=
  [⟨"draw", false, ⟨false, .function [⟨"route", false, ⟨true, .alias "Route"⟩⟩] ⟨false, .promise⟩⟩⟩]

/-- A schema that says it is left out on no platform. -/
def schema : Schema := ⟨⟨[point, route]⟩, methods, ["Drawing"], some []⟩

/-- The same schema, with its aliases registered in the other order. -/
def swapped : Schema := { schema with aliases := ⟨[route, point]⟩ }

theorem alike : schema.toJson.Alike swapped.toJson := by
  simp [schema, swapped, point, route, methods, Schema.toJson, Aliases.toJson, SchemaType.toJson,
    Shape.toJson, Shape.toJsonAll, Json.typed, Json.nullable, Json.Alike, Json.AlikeEntries,
    Json.AlikeItems]
  exact .swap _ _ _

end Drawing

theorem drawing_decodes :
    Schema.ofJson? ["Point", "Route"] Drawing.schema.toJson = some Drawing.schema ∧
      Schema.ofJson? ["Point", "Route"] Drawing.swapped.toJson = some Drawing.schema ∧
      Drawing.schema.SameButOrder Drawing.swapped := by
  obtain ⟨-, -, -, hschema, halike, -, hsame⟩ := documents_decode
  have hread := hschema Drawing.schema (by decide)
  refine ⟨hread, ?_, hsame _ _ Drawing.alike⟩
  exact ((halike _ _ Drawing.alike).2.2.2 _).symm.trans hread

end ModuleSpec
