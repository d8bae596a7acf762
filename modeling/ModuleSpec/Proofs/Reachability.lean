import ModuleSpec.Proofs.AliasAgreement
import ModuleSpec.Proofs.AliasOrder
import ModuleSpec.Proofs.Lowering.Origin

/-!
# Which named objects are reachable

An object of a built schema is reachable when a method has an alias of it
somewhere in its annotation, or the object of another reachable alias has.  A
method that is dropped takes its objects with it.  Nothing below a method does:
an object that was registered for a parameter or a property that is dropped
afterwards, or for an element that its array is left without, stays in the table,
whether or not anything else mentions it.

**Idea.**  An object is followed from where it was registered up to the method.
At each lowering on the way its alias is part of the value, or of the object that
the value is an alias of, until something on the way is discarded.

**Results.**  `alias_reachable`, and `not_forall_alias_reachable`: an object may
be left that nothing mentions.
-/

namespace ModuleSpec

/-! ## Reachable names -/

/-- The value has an alias that leads to the name through the objects of the table. -/
def Aliases.Reaches
    (table : Aliases)
    (v : SchemaType)
    (name : String) : Prop :=
  ∃ first, (SchemaType.alias first).Occurs v ∧ Relation.ReflTransGen table.Refers first name

/-- One of the methods leads to the name. -/
def Schema.Reaches
    (schema : Schema)
    (name : String) : Prop :=
  ∃ p, p ∈ schema.properties ∧ schema.aliases.Reaches p.type.value name

section Reaches

variable {table : Aliases} {v w : SchemaType} {name : String}

theorem Aliases.reaches_alias
    (table : Aliases)
    (name : String) :
    table.Reaches (.alias name) name :=
  ⟨name, .refl, .refl⟩

theorem Aliases.Reaches.of_part
    (h : table.Reaches w name)
    (hpart : w.Part v) :
    table.Reaches v name := by
  obtain ⟨first, hoccurs, hrefers⟩ := h
  exact ⟨first, hoccurs.tail hpart, hrefers⟩

/-- What a part of an object leads to its alias leads to. -/
theorem Aliases.Reaches.of_object
    {o : Alias}
    (h : table.Reaches w name)
    (ho : o ∈ table.entries)
    (hpart : w.Part o.object) :
    table.Reaches (.alias o.name) name := by
  obtain ⟨first, hoccurs, hrefers⟩ := h
  refine ⟨o.name, .refl, hrefers.head ?_⟩
  exact ⟨o, ho, rfl, hoccurs.tail hpart⟩

end Reaches

/-! ## The objects of a lowering -/

namespace Frame

/-- The object was registered below the lowering for something that was then discarded. -/
def Discarded
    (a : Frame)
    (x : Alias) : Prop :=
  ∃ b c, Relation.ReflTransGen (TurnsTo lower) a b ∧ b.Discards c ∧ .registered x ∈ c.run.events

/-- The table has all objects that the events register. -/
def Tabled
    (table : Aliases)
    (es : List Event) : Prop :=
  ∀ x, .registered x ∈ es → x ∈ table.entries

section Runs

variable {table : Aliases} {a b : Frame} {x : Alias}

theorem Discarded.of_turnsTo
    (hturn : TurnsTo lower a b)
    (h : b.Discarded x) :
    a.Discarded x := by
  obtain ⟨c, d, hchain, hdiscards, hx⟩ := h
  exact ⟨c, d, hchain.head hturn, hdiscards, hx⟩

/-- What an object was registered for leads to it from a part of the value, or was discarded. -/
theorem Inherits.part_or_discarded
    {v : SchemaType}
    {es : List Event}
    (h : a.Inherits b v x es)
    (hes : Tabled table es)
    (hbelow : ∀ w, b.run.outcome = .ok w → Tabled table b.run.events →
      table.Reaches w.value x.name ∨ b.Discarded x) :
    (∃ w : SchemaType, w.Part v ∧ table.Reaches w x.name) ∨ a.Discarded x := by
  rcases h.kept with hdiscards | ⟨w, hw, hpart⟩
  · exact .inr ⟨a, b, .refl, hdiscards, h.registered⟩
  · rcases hbelow w hw fun y hy => hes y (h.events hy) with hreaches | hdiscarded
    · exact .inl ⟨w.value, hpart, hreaches⟩
    · exact .inr (hdiscarded.of_turnsTo h.turns)

/-- The value of a lowering leads to what it registers, unless that was discarded. -/
theorem reaches_or_discarded
    {depth : Nat}
    {a : Frame}
    (hdepth : (lowerWithin depth a.scope a.type).Terminates)
    {v : Nullable SchemaType}
    (h : a.run.outcome = .ok v)
    (htabled : Tabled table a.run.events)
    (hx : .registered x ∈ a.run.events) :
    table.Reaches v.value x.name ∨ a.Discarded x := by
  induction depth generalizing a v with
  | zero =>
      exact absurd rfl hdepth
  | succ depth ih =>
      have hbelow {u : SchemaType} {b : Frame} (hb : a.Inherits b u x a.run.events) :
          (∃ w : SchemaType, w.Part u ∧ table.Reaches w x.name) ∨ a.Discarded x :=
        hb.part_or_discarded htabled fun w hw hes =>
          ih (hb.turns.terminates_within hdepth) hw hes hb.registered
      rcases registered_cases h hx with hv | ⟨b, hb⟩ | ⟨o, b, hv, ho, hb⟩
      · rw [hv]
        exact .inl (table.reaches_alias x.name)
      · exact (hbelow hb).imp_left fun ⟨w, hpart, hreaches⟩ => hreaches.of_part hpart
      · rw [hv]
        exact (hbelow hb).imp_left fun ⟨w, hpart, hreaches⟩ =>
          hreaches.of_object (htabled o ho) hpart

end Runs

end Frame

/-! ## The objects of a member -/

namespace Member

/-- The type of the function that the member declares, as far as it is written there. -/
def functionType? : Member → Option Ty
  | method _ params result _ span => some (.function params result span)
  | property _ type _ _ => type
  | other .. => none

end Member

/-- The signature of a member is that of the function which its type stands for. -/
theorem memberSignature_of_ok
    {s : Scope}
    {m : Member}
    {found : Nullable Signature}
    (h : (memberSignature s m).outcome = .ok found) :
    (memberSignature s m).events = [] ∧ ∃ t span, m.functionType? = some t ∧
      (s.types.resolve t).type = .function found.value.params found.value.result span := by
  cases m with
  | method name params result optional span =>
      cases h
      exact ⟨rfl, _, span, rfl, s.types.resolve_function params result span⟩
  | property name type optional span =>
      cases type with
      | none =>
          cases h
      | some t =>
          simp only [memberSignature] at h ⊢
          split at h
          · rename_i params result inner htype
            cases h
            exact ⟨rfl, t, inner, rfl, htype⟩
          · cases h
  | other kind name span =>
      cases h

/-- The method of a member leads to what its lowering registers, unless that was discarded. -/
theorem reaches_or_discarded_of_property
    {s : Scope}
    {m : Member}
    {p : Shape}
    {table : Aliases}
    {x : Alias}
    (h : (lowerProperty s m).outcome = .ok p)
    (htabled : Frame.Tabled table (lowerProperty s m).events)
    (hx : .registered x ∈ (lowerProperty s m).events) :
    table.Reaches p.type.value x.name ∨
      ∃ t, m.functionType? = some t ∧ Frame.Discarded ⟨s, t⟩ x := by
  obtain ⟨found, hfound, h⟩ := Lowering.outcome_bind_eq_ok_iff.1 h
  obtain ⟨v, hv, h⟩ := Lowering.outcome_bind_eq_ok_iff.1 h
  cases h
  obtain ⟨hnil, t, span, ht, htype⟩ := memberSignature_of_ok hfound
  have hevents : (lowerProperty s m).events = (lowerSignature lower s found.value).events := by
    rw [lowerProperty, Lowering.events_bind_of_ok hfound, hnil,
      Lowering.events_bind_of_silent fun _ => rfl, List.nil_append]
  rw [hevents] at htabled hx
  obtain ⟨b, hb⟩ := Frame.registered_of_signature (a := ⟨s, t⟩) htype hv hx
  have hbelow := hb.part_or_discarded htabled fun w hw hes => by
    have hend : (lower b.scope b.type).Terminates := by
      have hok : (lower b.scope b.type).outcome = .ok w := hw
      rw [Lowering.Terminates, hok]
      rintro ⟨⟩
    exact Frame.reaches_or_discarded hend hw hes hb.registered
  rcases hbelow with ⟨w, hpart, hreaches⟩ | hdiscarded
  · exact .inl (hreaches.of_part hpart)
  · exact .inr ⟨t, ht, hdiscarded⟩

/-! ## The objects of a schema -/

/-- The object was registered for a method that is kept, for something discarded below it. -/
def Interface.Discarded
    (i : Interface)
    (s : Scope)
    (x : Alias) : Prop :=
  ∃ m p t, m ∈ i.members ∧ (lowerProperty s m).outcome = .ok p ∧
    m.functionType? = some t ∧ Frame.Discarded ⟨s, t⟩ x

/--
Every object of a built schema is reachable, or was registered for a parameter, a
property or an element of a method that is kept, which was then discarded.
-/
theorem alias_reachable
    {moduleName : String}
    {program : Program}
    {built : Built}
    (h : buildSchema moduleName program = .ok built) :
    ∃ i registered,
      findInterface moduleName program (Environment.ofProgram program) = .ok i ∧
      findRegisteredName moduleName program i = .ok registered ∧
      ∀ a, a ∈ built.schema.aliases.entries →
        built.schema.Reaches a.name ∨
          i.Discarded (programScope moduleName program registered) a := by
  obtain ⟨i, registered, entries, hi, hregistered, hentries, rfl⟩ := buildSchema_eq_ok h
  refine ⟨i, registered, hi, hregistered, fun a ha => ?_⟩
  have hmem := (Aliases.mem_of_mem_registerAll ha).resolve_left List.not_mem_nil
  obtain ⟨e, he, hae⟩ := List.mem_flatMap.1 hmem
  obtain ⟨m, hm, hme⟩ := exists_of_mem_mapM hentries he
  have hentry := entry_of_buildEntry hme
  rcases Capture.guard_eq_ok hentry.property with ⟨p, hp, hrun, hevents⟩ | ⟨hnone, -⟩
  · have haliases : e.aliases = Lowering.registered
        (lowerProperty (programScope moduleName program registered) m).events := by
      rw [hentry.aliases, hp, Option.isSome_some, if_pos rfl, hevents]
    rw [haliases] at hae
    have htabled : Frame.Tabled (Built.ofEntries moduleName registered entries).schema.aliases
        (lowerProperty (programScope moduleName program registered) m).events := by
      intro y hy
      refine Aliases.mem_of_find?_eq_some (find?_of_entries hentries he ?_)
      rw [haliases]
      exact Lowering.mem_registered.2 hy
    rcases reaches_or_discarded_of_property hrun htabled (Lowering.mem_registered.1 hae) with
      hreaches | ⟨t, ht, hdiscarded⟩
    · exact .inl ⟨p, List.mem_filterMap.2 ⟨e, he, hp⟩, hreaches⟩
    · exact .inr ⟨m, p, t, (List.mem_filter.1 hm).1, hrun, ht, hdiscarded⟩
  · rw [hentry.aliases, hnone] at hae
    cases hae

theorem mapSpec_alias_reachable :
    ∃ built, buildSchema "NativeMap" MapSpec.program = .ok built ∧
      built.schema.aliases.names = ["Size", "Area"] ∧
      ∃ i registered,
        findInterface "NativeMap" MapSpec.program (Environment.ofProgram MapSpec.program) =
          .ok i ∧
        findRegisteredName "NativeMap" MapSpec.program i = .ok registered ∧
        ∀ a, a ∈ built.schema.aliases.entries →
          built.schema.Reaches a.name ∨
            i.Discarded (programScope "NativeMap" MapSpec.program registered) a := by
  obtain ⟨built, hbuilt, hnames, -⟩ := MapSpec.exists_built
  exact ⟨built, hbuilt, hnames, alias_reachable hbuilt⟩

/-! ## An object that nothing mentions -/

namespace TrackSpec

/-- A method with a parameter that is dropped for its result, after its own parameter. -/
def spec : Interface :=
  ⟨interfaceName, [⟨baseMarker, none, Span.none⟩],
    [.method "track"
      [⟨"each",
        some (.function [⟨"size", some (MapSpec.name "Size"), false, Span.none⟩]
          (some (MapSpec.keyword "any")) Span.none), false, Span.none⟩]
      (some (MapSpec.keyword "void")) false Span.none],
    Span.none⟩

def program : Program :=
  ⟨[.declaration (.interface MapSpec.size), .declaration (.interface spec),
    .expression MapSpec.load Span.none], Span.none⟩

theorem exists_built :
    ∃ built, buildSchema "NativeMap" program = .ok built ∧
      built.schema.properties = [⟨"track", false, ⟨false, .function [] ⟨false, .void⟩⟩⟩] ∧
      built.schema.aliases.names = ["Size"] := by
  have hbuild : (buildSchema "NativeMap" program).toOption.map
      (fun built => (built.schema.properties, built.schema.aliases.names)) =
      some ([⟨"track", false, ⟨false, .function [] ⟨false, .void⟩⟩⟩], ["Size"]) := by
    cbv
  obtain ⟨built, hbuilt, hparts⟩ := exists_eq_ok_of_toOption hbuild
  simp only [Prod.mk.injEq] at hparts
  exact ⟨built, hbuilt, hparts⟩

end TrackSpec

/-- A dropped parameter leaves an object in the table that no method leads to. -/
theorem not_forall_alias_reachable :
    ¬ ∀ moduleName program built, buildSchema moduleName program = .ok built →
      ∀ name, name ∈ built.schema.aliases.names → built.schema.Reaches name := by
  intro hreachable
  obtain ⟨built, hbuilt, hproperties, hnames⟩ := TrackSpec.exists_built
  have hsize : "Size" ∈ built.schema.aliases.names := by
    rw [hnames]
    exact List.mem_cons_self
  obtain ⟨p, hp, first, hoccurs, -⟩ := hreachable _ _ built hbuilt "Size" hsize
  rw [hproperties] at hp
  obtain rfl := List.mem_singleton.1 hp
  rcases SchemaType.occurs_cases hoccurs with heq | ⟨c, hc, hoccurs⟩
  · cases heq
  · cases hc with
    | param result hp => cases hp
    | result params result =>
        rcases SchemaType.occurs_cases hoccurs with heq | ⟨c, hc, -⟩
        · cases heq
        · cases hc

end ModuleSpec
