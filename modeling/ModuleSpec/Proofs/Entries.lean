import ModuleSpec.Build
import ModuleSpec.Proofs.Lowering.Invariant
import ModuleSpec.Proofs.Result

/-!
# What the members of an interface give

A schema is put together from one entry for each member of the interface that
declares a method or a property.  This file takes a built schema apart again:
into the interface, the name it is registered under, and the entries.

**Results.**  `buildSchema_eq_ok` names the parts of a built schema.  A sound
invariant of lowering describes the entry of every member, and with it the methods and the
named objects of the schema (`Invariant.SoundWithin.method_of_entries`,
`Invariant.SoundWithin.registered_of_entries`).
-/

namespace ModuleSpec

/-! ## The parts of a schema -/

section Parts

variable {moduleName : String} {program : Program}

/-- The scope in which the members of the interface are lowered. -/
def programScope
    (moduleName : String)
    (program : Program)
    (registered : String) :
    Scope :=
  memberScope moduleName (Environment.ofProgram program)
    (PlatformFacts.ofNames [registered, moduleName]).nativeOnly

/-- What the entries of the members are put together to. -/
def Built.ofEntries
    (moduleName registered : String)
    (entries : List Entry) :
    Built :=
  let facts := PlatformFacts.ofNames [registered, moduleName]
  let members := Members.ofEntries entries
  let excluded := if facts.excluded.isEmpty then none else some (facts.excluded.map Platform.name)
  ⟨⟨members.aliases, members.properties, [registered], excluded⟩, members.faults⟩

theorem buildSchema_of_interface_error
    {f : Fault}
    (h : findInterface moduleName program (Environment.ofProgram program) = .error f) :
    buildSchema moduleName program = .error (.fault f) := by
  simp [buildSchema, h, ofFault, bind, Except.bind]

theorem buildSchema_of_name_error
    {i : Interface}
    {f : Fault}
    (hi : findInterface moduleName program (Environment.ofProgram program) = .ok i)
    (h : findRegisteredName moduleName program i = .error f) :
    buildSchema moduleName program = .error (.fault f) := by
  simp [buildSchema, hi, h, ofFault, bind, Except.bind]

theorem buildMembers_eq_map
    (scope : Scope)
    (members : List Member) :
    buildMembers scope members =
      ((members.filter Member.isProperty).mapM (buildEntry scope)).map Members.ofEntries := by
  unfold buildMembers
  cases (members.filter Member.isProperty).mapM (buildEntry scope) <;>
    rfl

/-- With an interface and a registered name, only a member can stop the build. -/
theorem buildSchema_of_found
    {i : Interface}
    {registered : String}
    (hi : findInterface moduleName program (Environment.ofProgram program) = .ok i)
    (hname : findRegisteredName moduleName program i = .ok registered) :
    buildSchema moduleName program =
      ((i.members.filter Member.isProperty).mapM
        (buildEntry (programScope moduleName program registered))).map
          (Built.ofEntries moduleName registered) := by
  simp only [buildSchema, hi, hname, ofFault, bind, Except.bind, buildMembers_eq_map,
    programScope]
  cases (i.members.filter Member.isProperty).mapM (buildEntry
    (memberScope moduleName (Environment.ofProgram program)
      (PlatformFacts.ofNames [registered, moduleName]).nativeOnly)) <;>
    rfl

/-- A built schema comes from an interface, a registered name and entries. -/
theorem buildSchema_eq_ok
    {built : Built}
    (h : buildSchema moduleName program = .ok built) :
    ∃ i registered entries,
      findInterface moduleName program (Environment.ofProgram program) = .ok i ∧
      findRegisteredName moduleName program i = .ok registered ∧
      (i.members.filter Member.isProperty).mapM
        (buildEntry (programScope moduleName program registered)) = .ok entries ∧
      built = Built.ofEntries moduleName registered entries := by
  cases hi : findInterface moduleName program (Environment.ofProgram program) with
  | error f =>
      rw [buildSchema_of_interface_error hi] at h
      cases h
  | ok i =>
      cases hname : findRegisteredName moduleName program i with
      | error f =>
          rw [buildSchema_of_name_error hi hname] at h
          cases h
      | ok registered =>
          rw [buildSchema_of_found hi hname] at h
          cases hentries : (i.members.filter Member.isProperty).mapM
              (buildEntry (programScope moduleName program registered)) with
          | error halt =>
              rw [hentries] at h
              cases h
          | ok entries =>
              rw [hentries] at h
              cases h
              exact ⟨i, registered, entries, rfl, hname, hentries, rfl⟩

end Parts

/-! ## One entry -/

/-- The events of a member's lowering, as far as they show in its entry. -/
structure Entry.Of
    (e : Entry)
    (run : Lowering (Option Shape)) : Prop where
  property : run.outcome = .ok e.property?
  aliases : e.aliases =
    if e.property?.isSome then Lowering.registered run.events else []
  faults : e.faults = Lowering.recordedOn fileChannel run.events

theorem entry_of_buildEntry
    {scope : Scope}
    {m : Member}
    {e : Entry}
    (h : buildEntry scope m = .ok e) :
    e.Of (scope.capture.guard (lowerProperty scope m)) := by
  unfold buildEntry at h
  generalize hrun : scope.capture.guard (lowerProperty scope m) = run at h
  obtain ⟨outcome, events⟩ := run
  cases outcome with
  | error halt =>
      cases h
  | ok property? =>
      cases h
      exact ⟨rfl, rfl, rfl⟩

/-! ## What an invariant says of the parts -/

section Invariants

variable {inv : Invariant} {scope : Scope}

/-- The entry of a member is as a sound invariant of lowering says. -/
theorem Invariant.SoundWithin.keeps_buildEntry
    (h : inv.SoundWithin scope)
    {m : Member}
    (hm : (Node.member m).Every inv.node)
    {e : Entry}
    (he : buildEntry scope m = .ok e) :
    ∃ es, inv.events es ∧
      (∀ s, e.property? = some s → inv.Method es s) ∧
      e.aliases = (if e.property?.isSome then Lowering.registered es else []) ∧
      e.faults = Lowering.recordedOn fileChannel es := by
  have hrun := h.keeps_guard scope.capture (h.keeps_lowerProperty hm)
  have hentry := entry_of_buildEntry he
  exact ⟨_, hrun.events, hrun.of_ok hentry.property, hentry.aliases, hentry.faults⟩

variable {members : List Member} {entries : List Entry}

/--
Every method of a schema is as a sound invariant says, given events that it
allows, and the objects registered by these events are offered to the schema.
-/
theorem Invariant.SoundWithin.method_of_entries
    (h : inv.SoundWithin scope)
    (hmembers : ∀ m, m ∈ members → (Node.member m).Every inv.node)
    (hentries : (members.filter Member.isProperty).mapM (buildEntry scope) = .ok entries)
    {s : Shape}
    (hs : s ∈ entries.filterMap Entry.property?) :
    ∃ es, inv.events es ∧ inv.Method es s ∧
      Lowering.registered es ⊆ entries.flatMap Entry.aliases := by
  obtain ⟨e, he, hes⟩ := List.mem_filterMap.1 hs
  obtain ⟨m, hm, hme⟩ := exists_of_mem_mapM hentries he
  obtain ⟨es, hevents, hmethod, haliases, -⟩ :=
    h.keeps_buildEntry (hmembers m (List.mem_filter.1 hm).1) hme
  refine ⟨es, hevents, hmethod s hes, ?_⟩
  intro a ha
  refine List.mem_flatMap.2 ⟨e, he, ?_⟩
  rw [haliases, hes]
  exact ha

/-- Every named object of a schema was registered among events that the invariant allows. -/
theorem Invariant.SoundWithin.registered_of_entries
    (h : inv.SoundWithin scope)
    (hmembers : ∀ m, m ∈ members → (Node.member m).Every inv.node)
    (hentries : (members.filter Member.isProperty).mapM (buildEntry scope) = .ok entries)
    {a : Alias}
    (ha : a ∈ (Aliases.empty.registerAll (entries.flatMap Entry.aliases)).entries) :
    ∃ es, inv.events es ∧ .registered a ∈ es := by
  have hmem := (Aliases.mem_of_mem_registerAll ha).resolve_left List.not_mem_nil
  obtain ⟨e, he, hae⟩ := List.mem_flatMap.1 hmem
  obtain ⟨m, hm, hme⟩ := exists_of_mem_mapM hentries he
  obtain ⟨es, hevents, -, haliases, -⟩ :=
    h.keeps_buildEntry (hmembers m (List.mem_filter.1 hm).1) hme
  rw [haliases] at hae
  split at hae
  · exact ⟨es, hevents, Lowering.mem_registered.1 hae⟩
  · cases hae

end Invariants

/-! ## A small module -/

namespace MapSpec

def keyword (word : String) : Ty := .keyword word Span.none

def name (n : String) : Ty := .reference n none Span.none

def property
    (n : String)
    (type : Ty) :
    Member :=
  .property n (some type) false Span.none

def size : Interface :=
  ⟨"Size", [], [property "width" (keyword "number")], Span.none⟩

/-- An object with a nullable named object, an array within an array, and a function. -/
def area : Interface :=
  ⟨"Area", [],
    [property "size" (.union [name "Size", keyword "null"] Span.none),
      property "cells" (.array (.array (keyword "void") Span.none) Span.none),
      property "hit" (.function [] (some (keyword "void")) Span.none)],
    Span.none⟩

/-- An interface with one method, of which a parameter is dropped, and no other. -/
def spec : Interface :=
  ⟨interfaceName, [⟨baseMarker, none, Span.none⟩],
    [.method "area"
        [⟨"at", some (name "Size"), false, Span.none⟩, ⟨"raw", none, false, Span.none⟩]
        (some (name "Area")) false Span.none,
      property "lost" (keyword "number")],
    Span.none⟩

def load : Expr :=
  .call
    (.member (.identifier registryName Span.none) (.identifier "get" Span.none) false Span.none)
    [.string "NativeMap" Span.none] (some [name interfaceName]) Span.none

/-- A file with two named objects, an interface and a load. -/
def program : Program :=
  ⟨[.declaration (.interface size), .declaration (.interface area),
    .declaration (.interface spec), .expression load Span.none], Span.none⟩

theorem exists_built :
    ∃ built, buildSchema "NativeMap" program = .ok built ∧
      built.schema.aliases.names = ["Size", "Area"] ∧
      built.schema.properties.map Shape.name = ["area"] ∧
      built.faults.map Fault.kind =
        [.paramUntyped, .arrayElement, .objectValue, .memberNoFunction] := by
  have hbuild : (buildSchema "NativeMap" program).toOption.map
      (fun built => (built.schema.aliases.names, built.schema.properties.map Shape.name,
        built.faults.map Fault.kind)) =
      some (["Size", "Area"], ["area"],
        [.paramUntyped, .arrayElement, .objectValue, .memberNoFunction]) := by
    decide +kernel
  obtain ⟨built, hbuilt, hparts⟩ := exists_eq_ok_of_toOption hbuild
  simp only [Prod.mk.injEq] at hparts
  exact ⟨built, hbuilt, hparts⟩

end MapSpec

end ModuleSpec
