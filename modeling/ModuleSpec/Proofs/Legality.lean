import ModuleSpec.Proofs.Entries

/-!
# Legal schemas

Every annotation of a built schema may stand where it stands: arrays and objects
hold nothing that cannot be stored, parameters are nothing that cannot be
passed, methods are functions and named objects are objects.  Unless a name of
the module ends in Cxx, no annotation asks for a module implemented in C++ alone.

The invariant behind this says that every annotation within a lowered value, or
within an object registered on the way, is legal.  It is sound because each step
tests what it puts into an array, an object or a function.

**Results.**  `schema_lawful`, for every file that gives a schema.
-/

namespace ModuleSpec

/-- The annotation stands somewhere in the schema, at any depth. -/
def Schema.Holds
    (schema : Schema)
    (a : SchemaType) : Prop :=
  (∃ p, p ∈ schema.properties ∧ a.Occurs p.type.value) ∨
    ∃ named, named ∈ schema.aliases.entries ∧ a.Occurs named.object

namespace Legality

/-- Everything within the annotation is legal. -/
def Throughout
    (nativeOnly : Bool)
    (a : SchemaType) : Prop :=
  ∀ b : SchemaType, b.Occurs a → b.Legal nativeOnly

theorem throughout_of_parts
    {nativeOnly : Bool}
    {a : SchemaType}
    (ha : a.Legal nativeOnly)
    (hparts : ∀ b, b.Part a → Throughout nativeOnly b) :
    Throughout nativeOnly a := by
  intro b hb
  rcases SchemaType.occurs_cases hb with rfl | ⟨c, hc, hbc⟩
  · exact ha
  · exact hparts c hc b hbc

/-- Values and registered objects are legal throughout. -/
def invariant (nativeOnly : Bool) : Invariant where
  node _ := True
  fault _ := True
  events es := ∀ named, .registered named ∈ es → Throughout nativeOnly named.object
  value _ a := Throughout nativeOnly a

theorem invariant_registers
    (lower : Lower)
    (scope : Scope) :
    (invariant scope.nativeOnly).Registers lower scope := by
  intro t members span name properties es _ _ _ hes hvalue
  constructor
  · intro named hnamed
    rcases List.mem_append.1 hnamed with hnamed | hnamed
    · exact hes named hnamed
    · cases List.mem_singleton.1 hnamed
      exact hvalue
  · refine throughout_of_parts ⟨trivial, fun _ => trivial⟩ ?_
    intro b hb
    cases hb

theorem invariant_sound
    (scope : Scope) :
    (invariant scope.nativeOnly).SoundWithin scope where
  remaining := fun _ _ _ _ _ _ => trivial
  declared := fun _ _ _ _ _ => trivial
  nil := fun named hnamed => by cases hnamed
  append := fun hes hes' named hnamed =>
    (List.mem_append.1 hnamed).elim (hes named) (hes' named)
  raised := fun _ _ => trivial
  recorded := fun _ named hnamed => by cases List.mem_singleton.1 hnamed
  mono := fun _ hvalue => hvalue
  compose := fun hlegal _ hparts => throughout_of_parts hlegal hparts
  registers := fun depth => invariant_registers (lowerWithin depth) scope
  registersPassing := fun depth => invariant_registers (lowerWithin depth) scope.passing

end Legality

/-- A module counts as implemented in C++ alone only if one of its names says so. -/
theorem exists_name_of_nativeOnly
    {names : List String}
    (h : (PlatformFacts.ofNames names).nativeOnly = true) :
    ∃ name, name ∈ names ∧ "Cxx".toList <:+ name.toList := by
  obtain ⟨suffix, hsuffix, hnative⟩ := List.any_eq_true.1 h
  obtain ⟨name, hname, hof⟩ := List.mem_filterMap.1 hsuffix
  unfold NameSuffix.of? at hof
  have hends : suffix.ends name = true :=
    List.find?_some (p := fun suffix : NameSuffix => suffix.ends name) hof
  have hmem : suffix ∈ NameSuffix.all := List.mem_of_find?_eq_some hof
  have htext : suffix.text = "Cxx" := by
    simp only [NameSuffix.all, List.mem_cons, List.not_mem_nil, or_false] at hmem
    rcases hmem with rfl | rfl | rfl
    · cases hnative
    · cases hnative
    · rfl
  refine ⟨name, hname, ?_⟩
  rw [← htext]
  exact List.isSuffixOf_iff_suffix.1 hends

/-- Every annotation that a built schema holds is legal, at every depth. -/
theorem legal_of_holds
    {moduleName registered : String}
    {program : Program}
    {members : List Member}
    {entries : List Entry}
    (hentries : (members.filter Member.isProperty).mapM
      (buildEntry (programScope moduleName program registered)) = .ok entries)
    {a : SchemaType}
    (ha : (Built.ofEntries moduleName registered entries).schema.Holds a) :
    a.Legal (PlatformFacts.ofNames [registered, moduleName]).nativeOnly := by
  have hsound := Legality.invariant_sound (programScope moduleName program registered)
  have hmembers : ∀ m, m ∈ members → (Node.member m).Every fun _ => True :=
    fun _ _ _ _ => trivial
  rcases ha with ⟨p, hp, hap⟩ | ⟨named, hnamed, ha⟩
  · obtain ⟨es, -, hmethod, -⟩ := hsound.method_of_entries hmembers hentries hp
    exact hmethod.1 a hap
  · obtain ⟨es, hes, hmem⟩ := hsound.registered_of_entries hmembers hentries hnamed
    exact hes named hmem a ha

/--
No array holds and no property has a void, a promise or a function, no parameter
is void or a promise, every method is a function and every named object an
object.  If no name of the module ends in Cxx, there is no union, no enum, no
unknown, and no function that gives a function.
-/
structure Schema.Lawful
    (schema : Schema)
    (moduleName : String) : Prop where
  placed : ∀ a, schema.Holds a → a.Placed
  methods : ∀ p, p ∈ schema.properties → p.type.value.IsFunction
  objects : ∀ named, named ∈ schema.aliases.entries →
    ∃ properties, named.object = .object properties
  portable :
    (∀ name, name ∈ schema.moduleNames ++ [moduleName] → ¬ "Cxx".toList <:+ name.toList) →
      ∀ a, schema.Holds a → a.Portable

theorem schema_lawful
    {moduleName : String}
    {program : Program}
    {built : Built}
    (h : buildSchema moduleName program = .ok built) :
    built.schema.Lawful moduleName := by
  obtain ⟨i, registered, entries, -, -, hentries, rfl⟩ := buildSchema_eq_ok h
  refine ⟨fun a ha => (legal_of_holds hentries ha).1, ?_, fun named _ => ⟨_, rfl⟩, ?_⟩
  · intro p hp
    have hsound := Legality.invariant_sound (programScope moduleName program registered)
    obtain ⟨es, -, hmethod, -⟩ :=
      hsound.method_of_entries (fun _ _ _ _ => trivial) hentries hp
    exact hmethod.2
  · intro hnames a ha
    refine (legal_of_holds hentries ha).2 (Bool.eq_false_iff.2 fun hnative => ?_)
    obtain ⟨name, hname, hends⟩ := exists_name_of_nativeOnly hnative
    exact hnames name hname hends

theorem mapSpec_lawful :
    ∃ built, buildSchema "NativeMap" MapSpec.program = .ok built ∧
      built.schema.aliases.names = ["Size", "Area"] ∧
      built.schema.Lawful "NativeMap" := by
  obtain ⟨built, hbuilt, hnames, -⟩ := MapSpec.exists_built
  exact ⟨built, hbuilt, hnames, schema_lawful hbuilt⟩

end ModuleSpec
