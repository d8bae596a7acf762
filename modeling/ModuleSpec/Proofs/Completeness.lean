import ModuleSpec.Proofs.AliasAgreement
import ModuleSpec.Proofs.Lowering.Render

/-!
# Nothing is lost without a fault

A built schema has the methods that the interface declares, and each method and
each named object has the parameters and the properties that the source gives
it, at every depth.  What is left out has a recorded fault, except for the
elements of arrays: an array stands without an element where the lowering of the
element ends with a fault, and that fault is not recorded.

**Results.**  `schema_accounted`: all of a schema renders what was declared, so
that what the schema has is in order what the source has, and all of it if no
fault was recorded.
-/

namespace ModuleSpec

namespace Built

/-- The object renders the members that its name stands for. -/
def RendersNamed
    (built : Built)
    (s : Scope)
    (a : Alias) : Prop :=
  ∃ members outer,
    (∀ span, (s.types.resolve (.reference a.name none span)).type = .object members outer ∧
      (s.types.resolve (.reference a.name none span)).alias? = some a.name) ∧
    built.RendersPlaces s (members.map .property) a.properties

end Built

/-! ## Named objects -/

namespace Completeness

section Objects

variable {built : Built} {scope : Scope}

/-- The object renders what its name stands for, in one of the scopes of a module. -/
def Rendered
    (built : Built)
    (scope : Scope)
    (a : Alias) : Prop :=
  built.RendersNamed scope a ∨ built.RendersNamed scope.passing a

/-- Objects render what their names stand for, if the schema includes the events. -/
def invariant
    (built : Built)
    (scope : Scope) : Invariant where
  node _ := True
  fault _ := True
  events es := built.Includes es → ∀ a, .registered a ∈ es → Rendered built scope a
  value _ _ := True

/-- The object that a step registers renders what its name stands for. -/
theorem rendersNamed_of_step
    {s : Scope}
    (hs : s.RecordsOnFile)
    {depth : Nat}
    {t : Ty}
    {members : List Member}
    {span : Span}
    {name : String}
    {properties : List Shape}
    {es : List Event}
    (htype : (s.types.resolve t).type = .object members span)
    (halias : (s.types.resolve t).alias? = some name)
    (hstep : lowerStep (lowerWithin depth) s t =
      ⟨.ok ⟨(s.types.resolve t).nullable, .alias name⟩,
        es ++ [.registered ⟨name, properties⟩]⟩)
    (hincluded : built.Includes es) :
    built.RendersNamed s ⟨name, properties⟩ := by
  have hmembers := Built.yields_lowerMembers (built.rendersBeneath_lowerWithin depth) hs members
  have hobject : lowerStep (lowerWithin depth) s t =
      (lowerMembers (lowerWithin depth) s members >>= fun properties => do
        .emit (.registered ⟨name, properties⟩)
        pure ⟨(s.types.resolve t).nullable, .alias name⟩) := by
    rw [lowerStep_of_object htype, lowerObject, halias]
    rfl
  generalize lowerMembers (lowerWithin depth) s members = run at hmembers hobject
  obtain ⟨halt | shapes, events⟩ := run
  · rw [hstep, Lowering.bind_error] at hobject
    cases hobject
  · rw [hstep, Lowering.bind_ok] at hobject
    obtain ⟨rfl, hlast⟩ := List.append_inj' (congrArg Lowering.events hobject) rfl
    cases hlast
    refine ⟨members, span, fun inner => ?_, hmembers properties rfl hincluded⟩
    obtain ⟨hfound, hfollowed⟩ := resolve_name inner htype halias
    exact ⟨hfound.trans htype, hfollowed.trans halias⟩

theorem invariant_registers
    {s : Scope}
    (hs : s.RecordsOnFile)
    (hscope : ∀ a, built.RendersNamed s a → Rendered built scope a)
    (depth : Nat) :
    (invariant built scope).Registers (lowerWithin depth) s := by
  intro t members span name properties es htype halias hstep hes _
  refine ⟨fun hincluded a ha => ?_, trivial⟩
  have hbefore := hincluded.of_subset (List.subset_append_left _ _)
  rcases List.mem_append.1 ha with ha | ha
  · exact hes hbefore a ha
  · cases List.mem_singleton.1 ha
    exact hscope _ (rendersNamed_of_step hs htype halias hstep hbefore)

theorem invariant_sound
    (hs : scope.RecordsOnFile) :
    (invariant built scope).SoundWithin scope where
  remaining := fun _ _ _ _ _ _ => trivial
  declared := fun _ _ _ _ _ => trivial
  nil := fun _ a ha => by cases ha
  append := fun hes hes' hincluded a ha => (List.mem_append.1 ha).elim
    (hes (hincluded.of_subset (List.subset_append_left _ _)) a)
    (hes' (hincluded.of_subset (List.subset_append_right _ _)) a)
  raised := fun _ _ => trivial
  recorded := fun _ _ a ha => by cases List.mem_singleton.1 ha
  mono := fun _ _ => trivial
  compose := fun _ _ _ => trivial
  registers := invariant_registers hs fun _ => .inl
  registersPassing := invariant_registers hs.passing fun _ => .inr

end Objects

/-! ## Members -/

/-- The schema has what the entry of a member gives. -/
structure Has
    (built : Built)
    (e : Entry) : Prop where
  names : ∀ a, a ∈ e.aliases → a.name ∈ built.schema.aliases.names
  faults : ∀ f, f ∈ e.faults → f ∈ built.faults

theorem has_of_mem
    (moduleName registered : String)
    {entries : List Entry}
    {e : Entry}
    (he : e ∈ entries) :
    Has (.ofEntries moduleName registered entries) e where
  names := fun _ ha => Aliases.mem_names_registerAll
    (.inr (List.mem_map_of_mem (List.mem_flatMap.2 ⟨e, he, ha⟩)))
  faults := fun _ hf => List.mem_flatMap.2 ⟨e, he, hf⟩

section Members

variable {built : Built} {s : Scope}

/-- The events of a member that is kept are included. -/
theorem Has.includes
    {e : Entry}
    (h : Has built e)
    {x : Shape}
    (hx : e.property? = some x)
    {es : List Event}
    (haliases : e.aliases = if e.property?.isSome then Lowering.registered es else [])
    (hfaults : e.faults = Lowering.recordedOn fileChannel es) :
    built.Includes es := by
  rw [hx, Option.isSome_some, if_pos rfl] at haliases
  constructor
  · intro a ha
    refine h.names a ?_
    rw [haliases]
    exact Lowering.mem_registered.2 ha
  · intro f hf
    refine h.faults f ?_
    rw [hfaults]
    exact Lowering.mem_recordedOn.2 hf

/-- The members of an interface are rendered, less those with a fault. -/
theorem rendersPlaces_of_entries
    (hs : s.RecordsOnFile)
    {members : List Member}
    {entries : List Entry}
    (hentries : members.mapM (buildEntry s) = .ok entries)
    (hhas : ∀ e, e ∈ entries → Has built e) :
    built.RendersPlaces s (members.map .method) (entries.filterMap Entry.property?) := by
  induction members generalizing entries with
  | nil =>
      cases hentries
      exact .nil
  | cons m ms ih =>
      obtain ⟨e, es, he, hes, rfl⟩ := mapM_cons_eq_ok_iff.1 hentries
      have hrest := ih hes fun c hc => hhas c (List.mem_cons_of_mem e hc)
      have hhere := hhas e List.mem_cons_self
      have hentry := entry_of_buildEntry he
      rcases Capture.guard_eq_ok hentry.property with
        ⟨x, hx, hrun, hevents⟩ | ⟨hx, f, hf, haccepts, hrecorded⟩
      · rw [List.filterMap_cons_some hx]
        have hincluded := hhere.includes hx hentry.aliases hentry.faults
        rw [hevents] at hincluded
        exact .kept (Built.yields_lowerProperty hs m x hrun hincluded) hrest
      · rw [List.filterMap_cons_none hx]
        rw [hs.capture f haccepts, ← Lowering.mem_recordedOn, ← hentry.faults] at hrecorded
        exact .dropped hf haccepts (hhere.faults f hrecorded) hrest

/-- The objects of a member that is kept render what their names stand for. -/
theorem rendered_of_entry
    (hs : s.RecordsOnFile)
    {m : Member}
    {e : Entry}
    (he : buildEntry s m = .ok e)
    (hhas : Has built e)
    {a : Alias}
    (ha : a ∈ e.aliases) :
    Rendered built s a := by
  obtain ⟨es, hevents, -, haliases, hfaults⟩ :=
    (invariant_sound hs).keeps_buildEntry (fun _ _ => trivial) he
  cases hx : e.property? with
  | none =>
      rw [haliases, hx] at ha
      cases ha
  | some x =>
      refine hevents (hhas.includes hx haliases hfaults) a (Lowering.mem_registered.1 ?_)
      rw [haliases, hx] at ha
      exact ha

end Members

end Completeness

open Completeness (has_of_mem rendered_of_entry rendersPlaces_of_entries)

/-! ## The schema -/

/--
Every method of the schema renders a member of the interface, and every named
object what its name stands for, both at every depth.  Of methods, parameters
and properties those that are left keep their names, flags and order.  If no
fault was recorded all of them are there, and an array lacks its element only
where the lowering of the element ends with a fault.
-/
structure Built.Accounted
    (built : Built)
    (s : Scope)
    (members : List Member) : Prop where
  methods : built.RendersPlaces s (members.map .method) built.schema.properties
  objects : ∀ a, a ∈ built.schema.aliases.entries →
    built.RendersNamed s a ∨ built.RendersNamed s.passing a
  sublist : ∀ scope ps xs, built.RendersPlaces scope ps xs →
    (xs.map Shape.label).Sublist (ps.map Place.label)
  whole : built.faults = [] → ∀ scope ps xs, built.RendersPlaces scope ps xs →
    List.Forall₂ (built.RendersPlace scope) ps xs ∧ xs.map Shape.label = ps.map Place.label
  elements : built.faults = [] → ∀ scope element, built.LosesElement scope element →
    ∃ f, (lower scope.passing element).outcome = .error (.fault f)

theorem schema_accounted
    {moduleName : String}
    {program : Program}
    {built : Built}
    (h : buildSchema moduleName program = .ok built) :
    ∃ i registered,
      findInterface moduleName program (Environment.ofProgram program) = .ok i ∧
      findRegisteredName moduleName program i = .ok registered ∧
      built.Accounted (programScope moduleName program registered)
        (i.members.filter Member.isProperty) := by
  obtain ⟨i, registered, entries, hi, hname, hentries, rfl⟩ := buildSchema_eq_ok h
  have hs : (programScope moduleName program registered).RecordsOnFile :=
    recordsOnFile_memberScope _ _ _
  have hhas : ∀ e, e ∈ entries →
      Completeness.Has (.ofEntries moduleName registered entries) e :=
    fun _ => has_of_mem moduleName registered
  refine ⟨i, registered, hi, hname, ?_⟩
  constructor
  · exact rendersPlaces_of_entries hs hentries hhas
  · intro a ha
    have hmem := (Aliases.mem_of_mem_registerAll ha).resolve_left List.not_mem_nil
    obtain ⟨e, he, hae⟩ := List.mem_flatMap.1 hmem
    obtain ⟨m, -, hme⟩ := exists_of_mem_mapM hentries he
    exact rendered_of_entry hs hme (hhas e he) hae
  · exact fun _ _ _ => Built.RendersPlaces.sublist
  · exact fun hfaults _ _ _ hxs => ⟨hxs.forall₂ hfaults, hxs.labels_eq hfaults⟩
  · exact fun hfaults _ _ => Built.LosesElement.exists_fault hfaults

/-! ## A module without faults -/

namespace WholeSpec

def point : Interface :=
  ⟨"Point", [],
    [.property "x" (some (.keyword "number" Span.none)) false Span.none,
      .property "label" (some (.keyword "string" Span.none)) true Span.none],
    Span.none⟩

/-- A method with an optional parameter, and one whose array has an unknown element. -/
def spec : Interface :=
  ⟨interfaceName, [⟨baseMarker, none, Span.none⟩],
    [.method "move"
        [⟨"to", some (.reference "Point" none Span.none), false, Span.none⟩,
          ⟨"by", some (.keyword "number" Span.none), true, Span.none⟩]
        (some (.keyword "void" Span.none)) false Span.none,
      .method "trace" []
        (some (.array (.reference "Missing" none Span.none) Span.none)) true Span.none],
    Span.none⟩

/-- A file with a named object, an interface and a load. -/
def program : Program :=
  ⟨[.declaration (.interface point), .declaration (.interface spec),
    .expression MapSpec.load Span.none], Span.none⟩

theorem exists_built :
    ∃ built, buildSchema "NativeMap" program = .ok built ∧
      built.faults = [] ∧
      built.schema.properties.map Shape.label = [("move", false), ("trace", true)] ∧
      built.schema.aliases.entries.map (fun a => a.properties.map Shape.label) =
        [[("x", false), ("label", true)]] := by
  have hbuild : (buildSchema "NativeMap" program).toOption.map
      (fun built => (built.faults.map Fault.kind, built.schema.properties.map Shape.label,
        built.schema.aliases.entries.map fun a => a.properties.map Shape.label)) =
      some ([], [("move", false), ("trace", true)], [[("x", false), ("label", true)]]) := by
    decide +kernel
  obtain ⟨built, hbuilt, hparts⟩ := exists_eq_ok_of_toOption hbuild
  simp only [Prod.mk.injEq, List.map_eq_nil_iff] at hparts
  exact ⟨built, hbuilt, hparts⟩

end WholeSpec

theorem wholeSpec_accounted :
    ∃ built, buildSchema "NativeMap" WholeSpec.program = .ok built ∧
      built.faults = [] ∧
      built.schema.properties.map Shape.label = [("move", false), ("trace", true)] ∧
      built.schema.aliases.entries.map (fun a => a.properties.map Shape.label) =
        [[("x", false), ("label", true)]] ∧
      ∃ i registered,
        findInterface "NativeMap" WholeSpec.program (Environment.ofProgram WholeSpec.program) =
          .ok i ∧
        findRegisteredName "NativeMap" WholeSpec.program i = .ok registered ∧
        built.Accounted (programScope "NativeMap" WholeSpec.program registered)
          (i.members.filter Member.isProperty) := by
  obtain ⟨built, hbuilt, hfaults, hproperties, hobjects⟩ := WholeSpec.exists_built
  exact ⟨built, hbuilt, hfaults, hproperties, hobjects, schema_accounted hbuilt⟩

end ModuleSpec
