import ModuleSpec.Proofs.Entries
import ModuleSpec.Proofs.Lowering.Carry
import ModuleSpec.Proofs.Schema.Table

/-!
# One object to a name

The same declaration is lowered in many places: through aliases of it, within
arrays, where every fault goes through, and within objects, where a fault drops
one property.  Whatever is registered under its name is always the same object,
so that nothing is lost when only the first registration counts.

That holds if what arrays record on the sink does not end the lowering.  A sink
that lets every fault through makes a difference: the fault of an inner array
then ends what an outer array lowers, and the outer one is left without an
element.

**Results.**  Every object that is registered is the one that a fresh lowering
of its name registers (`isFresh_of_registered`), an entry of a table is never
changed or moved, and so tables agree on the names that they share
(`registrations_agree`).  The table of a built schema has what each of its
methods has registered (`find?_of_entries`).
-/

namespace ModuleSpec

/-- What the sink accepts does not depend on the capture. -/
theorem Scope.AcceptsElements.passing
    {s : Scope}
    (h : s.AcceptsElements) :
    s.passing.AcceptsElements :=
  h

theorem acceptsElements_freshScope
    (moduleName : String)
    (env : Environment)
    (nativeOnly : Bool)
    (channel : Nat) :
    (freshScope moduleName env nativeOnly channel).AcceptsElements :=
  fun _ _ _ => Capture.accepts_recoverable channel _

/-! ## Fresh lowerings of a name -/

/-- The object is the one that fresh lowerings of its name register. -/
structure Alias.IsFresh
    (env : Environment)
    (nativeOnly : Bool)
    (a : Alias) : Prop where
  value : ∀ moduleName channel span, ∃ nullable,
    (lower (freshScope moduleName env nativeOnly channel) (.reference a.name none span)).outcome =
      .ok ⟨nullable, .alias a.name⟩
  last : ∀ moduleName channel span,
    (Lowering.registered (lower (freshScope moduleName env nativeOnly channel)
      (.reference a.name none span)).events).getLast? = some a

/-- Fresh lowerings register one object under a name in the end. -/
theorem Alias.IsFresh.eq
    {env : Environment}
    {nativeOnly : Bool}
    {a b : Alias}
    (ha : a.IsFresh env nativeOnly)
    (hb : b.IsFresh env nativeOnly)
    (hname : a.name = b.name) :
    a = b := by
  have hlast := ha.last "" 0 Span.none
  rw [hname, hb.last "" 0 Span.none] at hlast
  exact (Option.some.inj hlast).symm

/-- A name that was followed to an object resolves to that object by itself. -/
theorem resolve_name
    {env : Environment}
    {t : Ty}
    {name : String}
    {members : List Member}
    {inner : Span}
    (span : Span)
    (htype : (env.resolve t).type = .object members inner)
    (halias : (env.resolve t).alias? = some name) :
    (env.resolve (.reference name none span)).type = (env.resolve t).type ∧
      (env.resolve (.reference name none span)).alias? = (env.resolve t).alias? := by
  obtain ⟨u, hu, hpeel⟩ := Environment.resolve_type_of_alias_some halias
  have hstop : env.target? [name] u.peel.type = none := by
    rw [← hpeel, htype]
    rfl
  have hname : (Ty.reference name none span).peel.type = .reference name none span := by
    simp [Ty.peel]
  rw [Environment.resolve_reference hname hu hstop, hpeel, halias]
  exact ⟨rfl, rfl⟩

section Step

variable {s : Scope} {depth : Nat} {t : Ty} {members : List Member} {inner : Span}
variable {name : String} {properties : List Shape} {es : List Event}

/-- When a step registers an object, a fresh lowering of the name ends like the step. -/
theorem lower_name_of_step
    (helements : s.AcceptsElements)
    (htype : (s.types.resolve t).type = .object members inner)
    (halias : (s.types.resolve t).alias? = some name)
    (hstep : lowerStep (lowerWithin depth) s t =
      ⟨.ok ⟨(s.types.resolve t).nullable, .alias name⟩,
        es ++ [.registered ⟨name, properties⟩]⟩)
    (moduleName : String)
    (channel : Nat)
    (span : Span) :
    let run := lower (freshScope moduleName s.types s.nativeOnly channel)
      (.reference name none span)
    (∃ nullable, run.outcome = .ok ⟨nullable, .alias name⟩) ∧
      Lowering.registered run.events = Lowering.registered es ++ [⟨name, properties⟩] := by
  intro run
  obtain ⟨hfound, hfollowed⟩ := resolve_name span htype halias
  -- By itself the name is lowered in the same way, to the same depth.
  have hvalue := lowerStep_value (lowerWithin depth) s hfound hfollowed
  rw [hstep] at hvalue
  obtain ⟨⟨nullable, a⟩, ha, hname⟩ := Lowering.exists_of_map_eq_map hvalue
  obtain rfl : a = .alias name := ha
  have hcarried := (lowerWithin_carried moduleName channel helements (depth + 1)
    (.reference name none span)).1
  rw [lowerWithin, hname] at hcarried
  obtain ⟨hok, hregistered⟩ := hcarried
  have hrun : run = lowerWithin (depth + 1)
      (freshScope moduleName s.types s.nativeOnly channel) (.reference name none span) := by
    refine lower_eq_lowerWithin ?_
    intro hendless
    rw [hok] at hendless
    cases hendless
  rw [hrun]
  refine ⟨⟨nullable, hok⟩, ?_⟩
  rw [hregistered, Lowering.registered_append]
  rfl

/-- A step that registers an object registers what a fresh lowering of the name does. -/
theorem isFresh_of_step
    (helements : s.AcceptsElements)
    (htype : (s.types.resolve t).type = .object members inner)
    (halias : (s.types.resolve t).alias? = some name)
    (hstep : lowerStep (lowerWithin depth) s t =
      ⟨.ok ⟨(s.types.resolve t).nullable, .alias name⟩,
        es ++ [.registered ⟨name, properties⟩]⟩) :
    (⟨name, properties⟩ : Alias).IsFresh s.types s.nativeOnly := by
  have hfresh := lower_name_of_step helements htype halias hstep
  constructor
  · intro moduleName channel span
    exact (hfresh moduleName channel span).1
  · intro moduleName channel span
    rw [(hfresh moduleName channel span).2, List.getLast?_concat]

end Step

/-! ## Every registration -/

namespace AliasAgreement

/-- Only objects are registered that fresh lowerings register. -/
def invariant
    (env : Environment)
    (nativeOnly : Bool) :
    Invariant where
  node _ := True
  fault _ := True
  events es := ∀ a, .registered a ∈ es → a.IsFresh env nativeOnly
  value _ _ := True

theorem invariant_registers
    {s : Scope}
    (helements : s.AcceptsElements)
    (depth : Nat) :
    (invariant s.types s.nativeOnly).Registers (lowerWithin depth) s := by
  intro t members span name properties es htype halias hstep hes _
  refine ⟨?_, trivial⟩
  intro a ha
  rcases List.mem_append.1 ha with ha | ha
  · exact hes a ha
  · cases List.mem_singleton.1 ha
    exact isFresh_of_step helements htype halias hstep

theorem invariant_sound
    {s : Scope}
    (helements : s.AcceptsElements) :
    (invariant s.types s.nativeOnly).SoundWithin s :=
  Invariant.soundWithin_ofRegistered (invariant_registers helements)
    (invariant_registers helements.passing)

end AliasAgreement

open AliasAgreement (invariant_sound)

section Registrations

variable {env : Environment} {nativeOnly : Bool}

/-- Whatever the capture and the annotation, what is registered is what is fresh. -/
theorem isFresh_of_registered
    {s : Scope}
    (helements : s.AcceptsElements)
    {t : Ty}
    {a : Alias}
    (ha : .registered a ∈ (lower s t).events) :
    a.IsFresh s.types s.nativeOnly :=
  ((invariant_sound helements).keeps_lower fun _ _ => trivial).events a ha

/-- A fresh lowering registers one object under its name. -/
theorem Alias.IsFresh.eq_of_registered
    {moduleName : String}
    {channel : Nat}
    {t : Ty}
    {a b : Alias}
    (ha : a.IsFresh env nativeOnly)
    (hb : b ∈ Lowering.registered (lower (freshScope moduleName env nativeOnly channel) t).events)
    (hname : b.name = a.name) :
    b = a :=
  (isFresh_of_registered (acceptsElements_freshScope moduleName env nativeOnly channel)
    (Lowering.mem_registered.1 hb)).eq ha hname

/-- The objects of a member of the interface are what is fresh. -/
theorem isFresh_of_entry
    {moduleName : String}
    {m : Member}
    {e : Entry}
    (he : buildEntry (memberScope moduleName env nativeOnly) m = .ok e)
    {a : Alias}
    (ha : a ∈ e.aliases) :
    a.IsFresh env nativeOnly := by
  have hsound := invariant_sound
    (acceptsElements_freshScope moduleName env nativeOnly fileChannel)
  obtain ⟨es, hes, -, haliases, -⟩ :=
    hsound.keeps_buildEntry (fun _ _ => trivial) he
  rw [haliases] at ha
  split at ha
  · exact hes a (Lowering.mem_registered.1 ha)
  · cases ha

/-- What the table of a member's objects has under a name is what is fresh. -/
theorem isFresh_of_find?
    {moduleName name : String}
    {m : Member}
    {e : Entry}
    {properties : List Shape}
    (he : buildEntry (memberScope moduleName env nativeOnly) m = .ok e)
    (h : (Aliases.empty.registerAll e.aliases).find? name = some properties) :
    (⟨name, properties⟩ : Alias).IsFresh env nativeOnly := by
  have hmem := Aliases.mem_of_mem_registerAll (Aliases.mem_of_find?_eq_some h)
  exact isFresh_of_entry he (hmem.resolve_left List.not_mem_nil)

end Registrations

/-! ## The agreement -/

/-- The lowering gives the alias and registers the object, and no other of its name. -/
structure Alias.RegisteredBy
    (run : Lowering (Nullable SchemaType))
    (a : Alias) : Prop where
  value : ∃ nullable, run.outcome = .ok ⟨nullable, .alias a.name⟩
  registered : a ∈ Lowering.registered run.events
  only : ∀ b, b ∈ Lowering.registered run.events → b.name = a.name → b = a

/--
Given that its sink accepts what arrays record, a lowering registers the objects
that fresh lowerings of their names register.  No entry of a table changes or
moves, and the tables of two members of an interface agree on shared names.
-/
structure Environment.Agreement
    (env : Environment)
    (nativeOnly : Bool) : Prop where
  fresh : ∀ s t a, s.types = env → s.nativeOnly = nativeOnly → s.AcceptsElements →
    .registered a ∈ (lower s t).events →
    ∀ moduleName channel span,
      a.RegisteredBy (lower (freshScope moduleName env nativeOnly channel)
        (.reference a.name none span))
  kept : ∀ (table : Aliases) s t,
    table.entries <+: (table.registerAll (Lowering.registered (lower s t).events)).entries
  shared : ∀ moduleName m m' e e',
    buildEntry (memberScope moduleName env nativeOnly) m = .ok e →
    buildEntry (memberScope moduleName env nativeOnly) m' = .ok e' →
    ∀ name properties properties',
      (Aliases.empty.registerAll e.aliases).find? name = some properties →
      (Aliases.empty.registerAll e'.aliases).find? name = some properties' →
      properties = properties'

theorem registrations_agree
    (env : Environment)
    (nativeOnly : Bool) :
    env.Agreement nativeOnly := by
  refine ⟨?_, fun table s t => table.entries_isPrefix_registerAll _, ?_⟩
  · rintro s t a rfl rfl helements ha moduleName channel span
    have hfresh := isFresh_of_registered helements ha
    refine ⟨hfresh.value moduleName channel span, ?_, fun b hb => hfresh.eq_of_registered hb⟩
    exact List.mem_of_getLast? (hfresh.last moduleName channel span)
  · intro moduleName m m' e e' he he' name properties properties' h h'
    have heq := (isFresh_of_find? he h).eq (isFresh_of_find? he' h') rfl
    exact congrArg Alias.properties heq

/-- An interface with an array of arrays of void. -/
def gridTypes : Environment :=
  ⟨[.interface ⟨"Grid", [],
    [.property "cells"
      (some (.array (.array (.keyword "void" Span.none) Span.none) Span.none)) false Span.none],
    Span.none⟩]⟩

/-- What is registered for the interface when the inner array is recorded. -/
def gridObject : Alias :=
  ⟨"Grid", [⟨"cells", false, ⟨false, .array (some ⟨false, .array none⟩)⟩⟩]⟩

/-- With every fault let through but the sink kept, the interface is the fresh one. -/
theorem gridObject_registeredBy :
    .registered gridObject ∈
        (lower (freshScope "Native" gridTypes false fileChannel).passing
          (.array (.reference "Grid" none Span.none) Span.none)).events ∧
      gridObject.RegisteredBy (lower (freshScope "Native" gridTypes false fileChannel)
        (.reference "Grid" none Span.none)) := by
  have hmem : .registered gridObject ∈
      (lower (freshScope "Native" gridTypes false fileChannel).passing
        (.array (.reference "Grid" none Span.none) Span.none)).events := by
    rw [← Lowering.mem_registered]
    have hregistered : Lowering.registered
        (lower (freshScope "Native" gridTypes false fileChannel).passing
          (.array (.reference "Grid" none Span.none) Span.none)).events = [gridObject] := by
      cbv
    rw [hregistered]
    exact List.mem_cons_self
  refine ⟨hmem, ?_⟩
  exact (registrations_agree gridTypes false).fresh _ _ _ rfl rfl
    (acceptsElements_freshScope "Native" gridTypes false fileChannel).passing hmem
    "Native" fileChannel Span.none

/-- A sink that lets every fault through leaves the outer array without an element. -/
theorem not_forall_registeredBy :
    ¬ ∀ env nativeOnly s t a, s.types = env → s.nativeOnly = nativeOnly →
      (lower s t).Terminates → .registered a ∈ (lower s t).events →
      ∀ moduleName channel span,
        a.RegisteredBy (lower (freshScope moduleName env nativeOnly channel)
          (.reference a.name none span)) := by
  intro hagree
  let s : Scope := ⟨"Native", gridTypes, false, .passthrough, .passthrough⟩
  let t : Ty := .reference "Grid" none Span.none
  let a : Alias := ⟨"Grid", [⟨"cells", false, ⟨false, .array none⟩⟩]⟩
  have hrun : lower s t = ⟨.ok ⟨false, .alias "Grid"⟩, [.registered a]⟩ := by
    cbv
  have hterminates : (lower s t).Terminates := by
    rw [hrun]
    intro hendless
    cases hendless
  have hmem : .registered a ∈ (lower s t).events := by
    rw [hrun]
    exact List.mem_cons_self
  have hregistered := (hagree gridTypes false s t a rfl rfl hterminates hmem
    "Native" fileChannel Span.none).registered
  have hfresh : Lowering.registered (lower (freshScope "Native" gridTypes false fileChannel)
      (.reference "Grid" none Span.none)).events = [gridObject] := by
    cbv
  have heq : a = gridObject := by
    rw [hfresh] at hregistered
    exact List.mem_singleton.1 hregistered
  simp [a, gridObject] at heq

/-- Under the name of each object of its methods, a schema has that object. -/
theorem find?_of_entries
    {moduleName registered : String}
    {program : Program}
    {members : List Member}
    {entries : List Entry}
    (h : members.mapM (buildEntry (programScope moduleName program registered)) = .ok entries)
    {e : Entry}
    (he : e ∈ entries)
    {a : Alias}
    (ha : a ∈ e.aliases) :
    (Built.ofEntries moduleName registered entries).schema.aliases.find? a.name =
      some a.properties := by
  have hfresh : ∀ a, a ∈ entries.flatMap Entry.aliases →
      a.IsFresh (Environment.ofProgram program)
        (PlatformFacts.ofNames [registered, moduleName]).nativeOnly := by
    intro a ha
    obtain ⟨e, he, hae⟩ := List.mem_flatMap.1 ha
    obtain ⟨m, -, hme⟩ := exists_of_mem_mapM h he
    exact isFresh_of_entry hme hae
  have hmem : a ∈ entries.flatMap Entry.aliases := List.mem_flatMap.2 ⟨e, he, ha⟩
  exact Aliases.find?_registerAll hmem fun b hb hname => (hfresh b hb).eq (hfresh a hmem) hname

end ModuleSpec
