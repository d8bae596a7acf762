import Mathlib.Data.List.Induction
import ModuleSpec.Proofs.Shape

/-!
# One interface and one load

A built schema comes from one interface and one load.  The interface is counted
among the declarations that stand: a declaration is replaced by a later one of
the same name, whatever that declares, and a replaced interface counts for
nothing.  So a file can declare two module interfaces of one name; the schema is
built from the later one and the methods of the earlier are lost.

**Idea.**  The environment holds the declarations that stand, each once.  It may
hold them in another order, since a declaration takes the place of the one that
it replaces, but one entry has only one order.

**Results.**  `built_unique`; with no module interface replaced, the interface is
the only one of the file.  `not_forall_moduleInterface_unique`: one may be.
-/

namespace ModuleSpec

namespace Program

/-- The types that a file declares at its top level, in order. -/
def declarations (program : Program) : List Declaration :=
  program.body.filterMap Statement.declaration?

end Program

/-! ## Declarations that stand -/

namespace Declaration

/-- The declarations that no later one of the same name replaces. -/
def standing : List Declaration → List Declaration
  | [] => []
  | d :: ds => if d.name ∈ ds.map name then standing ds else d :: standing ds

/-- A further declaration stands and replaces those of its name. -/
theorem standing_concat
    (ds : List Declaration)
    (d : Declaration) :
    standing (ds ++ [d]) = (standing ds).filter (fun e => e.name ≠ d.name) ++ [d] := by
  induction ds with
  | nil =>
      simp [standing]
  | cons e ds ih =>
      have hmem : e.name ∈ (ds ++ [d]).map name ↔ e.name ∈ ds.map name ∨ e.name = d.name := by
        simp only [List.map_append, List.mem_append, List.map_cons, List.map_nil,
          List.mem_singleton]
      rw [List.cons_append, standing, standing, ih]
      by_cases hlater : e.name ∈ ds.map name
      · rw [if_pos hlater, if_pos (hmem.2 (.inl hlater))]
      · by_cases hname : e.name = d.name
        · rw [if_neg hlater, if_pos (hmem.2 (.inr hname)),
            List.filter_cons_of_neg (by simp [hname])]
        · rw [if_neg hlater, if_neg fun h => (hmem.1 h).elim hlater hname,
            List.filter_cons_of_pos (by simp [hname]), List.cons_append]

/-- Where no declaration that counts is replaced, all that count stand. -/
theorem filterMap_standing
    {α : Type}
    {counts : Declaration → Option α}
    {ds : List Declaration}
    (h : ∀ before d after, ds = before ++ d :: after → (counts d).isSome = true →
      d.name ∉ after.map name) :
    (standing ds).filterMap counts = ds.filterMap counts := by
  induction ds with
  | nil =>
      rfl
  | cons d ds ih =>
      have hrest := ih fun before e after heq => h (d :: before) e after (by rw [heq]; rfl)
      rw [standing]
      split
      · rename_i hlater
        have hnone : counts d = none := by
          by_contra hsome
          exact h [] d ds rfl (Option.isSome_iff_ne_none.2 hsome) hlater
        rw [hrest, List.filterMap_cons_none hnone]
      · rw [List.filterMap_cons, List.filterMap_cons, hrest]

end Declaration

namespace Environment

open Declaration (standing)

/-- A declaration that is placed is there once, and no other of its name. -/
theorem place_perm
    (d : Declaration)
    {es : List Declaration}
    (h : (es.map Declaration.name).Nodup) :
    (place d es).Perm (es.filter (fun e => e.name ≠ d.name) ++ [d]) := by
  induction es with
  | nil =>
      exact .refl [d]
  | cons e es ih =>
      rw [List.map_cons, List.nodup_cons] at h
      obtain ⟨he, hes⟩ := h
      rw [place]
      split
      · rename_i hname
        have hkeep : es.filter (fun c => c.name ≠ d.name) = es := by
          rw [List.filter_eq_self]
          intro c hc
          rw [decide_eq_true_iff]
          rintro hcname
          exact he (List.mem_map.2 ⟨c, hc, hcname.trans hname.symm⟩)
        simp only [List.filter_cons, hname, ne_eq, not_true_eq_false, decide_false,
          Bool.false_eq_true, if_false]
        rw [hkeep]
        exact (List.perm_append_singleton d es).symm
      · rename_i hname
        simp only [List.filter_cons, hname, ne_eq, not_false_eq_true, decide_true, if_true]
        exact (ih hes).cons e

/-- The environment of a file has the declarations that stand. -/
theorem ofProgram_perm
    (program : Program) :
    (ofProgram program).declarations.Perm (standing program.declarations) := by
  have hfold : ∀ ds : List Declaration,
      (ds.foldl declare empty).declarations.Perm (standing ds) ∧
        ((ds.foldl declare empty).declarations.map Declaration.name).Nodup := by
    intro ds
    induction ds using List.reverseRecOn with
    | nil =>
        exact ⟨.refl [], .nil⟩
    | append_singleton ds d ih =>
        obtain ⟨hperm, hnodup⟩ := ih
        rw [List.foldl_append, Declaration.standing_concat]
        have hplace := place_perm d hnodup
        refine ⟨hplace.trans ((hperm.filter _).append_right [d]), ?_⟩
        rw [List.foldl_cons, List.foldl_nil, declare, (hplace.map Declaration.name).nodup_iff,
          List.map_append, List.nodup_append]
        refine ⟨hnodup.sublist (List.filter_sublist.map _), by simp, ?_⟩
        rintro _ hname _ hother rfl
        obtain ⟨e, he, hename⟩ := List.mem_map.1 hname
        cases List.mem_singleton.1 hother
        exact of_decide_eq_true (List.mem_filter.1 he).2 hename
  exact (hfold program.declarations).1

end Environment

/-! ## What a built schema comes from -/

/-- The one interface and the one load that a built schema comes from. -/
structure Built.From
    (moduleName : String)
    (program : Program)
    (built : Built)
    (i : Interface)
    (load : Load) : Prop where
  standing : (Declaration.standing program.declarations).filterMap
    Declaration.moduleInterface? = [i]
  named : i.name = interfaceName
  members : ∃ registered entries,
    (i.members.filter Member.isProperty).mapM
      (buildEntry (programScope moduleName program registered)) = .ok entries ∧
    built = .ofEntries moduleName registered entries
  loads : program.loads = [load]
  typeArg : ∃ span, load.typeArgs = some [.reference i.name none span]

section Unique

variable {moduleName : String} {program : Program}

theorem standing_of_moduleInterfaces
    {i : Interface}
    (h : program.moduleInterfaces = [i]) :
    (Declaration.standing program.declarations).filterMap Declaration.moduleInterface? = [i] := by
  have hperm := (Environment.ofProgram_perm program).filterMap Declaration.moduleInterface?
  have hone : (Environment.ofProgram program).declarations.filterMap
      Declaration.moduleInterface? = [i] := h
  rw [hone] at hperm
  exact List.perm_singleton.1 hperm.symm

theorem name_of_findInterface
    {i : Interface}
    (h : findInterface moduleName program (Environment.ofProgram program) = .ok i) :
    i.name = interfaceName := by
  unfold findInterface at h
  split at h
  · cases h
  · split at h
    · cases h
      assumption
    · cases h
  · cases h

theorem exists_load_of_findRegisteredName
    {i : Interface}
    {registered : String}
    (h : findRegisteredName moduleName program i = .ok registered) :
    ∃ load, program.loads = [load] ∧ load.registeredName moduleName = .ok registered := by
  unfold findRegisteredName at h
  split at h
  · cases h
  · rename_i load hload
    exact ⟨load, hload, h⟩
  · cases h

/-- A load whose name is found has the interface for its only type argument. -/
theorem typeArgs_of_registeredName
    {load : Load}
    {registered : String}
    (h : load.registeredName moduleName = .ok registered) :
    ∃ span, load.typeArgs = some [.reference interfaceName none span] := by
  unfold Load.registeredName at h
  simp only [] at h
  split at h
  · split at h
    · cases h
    · rename_i type span htype
      split at h
      · rename_i hname
        exact ⟨span, by rw [htype, hname]⟩
      · cases h
    · cases h
  · cases h
  · cases h

/--
A built schema comes from one interface, the only one that stands, and one load.
If no module interface is replaced, it is the only one of the file.
-/
theorem built_unique
    {built : Built}
    (h : buildSchema moduleName program = .ok built) :
    ∃ i load, built.From moduleName program i load ∧
      ((∀ before d after, program.declarations = before ++ d :: after →
          d.moduleInterface?.isSome = true → d.name ∉ after.map Declaration.name) →
        program.declarations.filterMap Declaration.moduleInterface? = [i]) := by
  obtain ⟨i, registered, entries, hi, hregistered, hentries, hbuilt⟩ := buildSchema_eq_ok h
  have hname : i.name = interfaceName := name_of_findInterface hi
  have hstanding := standing_of_moduleInterfaces (moduleInterfaces_of_findInterface hi)
  obtain ⟨load, hload, hname?⟩ := exists_load_of_findRegisteredName hregistered
  obtain ⟨span, hspan⟩ := typeArgs_of_registeredName hname?
  refine ⟨i, load, ⟨hstanding, hname, ⟨registered, entries, hentries, hbuilt⟩, hload,
    span, by rw [hspan, hname]⟩, ?_⟩
  intro hkept
  rw [← hstanding, Declaration.filterMap_standing hkept]

end Unique

theorem mapSpec_unique :
    ∃ built, buildSchema "NativeMap" MapSpec.program = .ok built ∧
      ∃ i load, built.From "NativeMap" MapSpec.program i load ∧
        MapSpec.program.declarations.filterMap Declaration.moduleInterface? = [i] := by
  obtain ⟨built, hbuilt, -⟩ := MapSpec.exists_built
  obtain ⟨i, load, hfrom, honly⟩ := built_unique hbuilt
  refine ⟨built, hbuilt, i, load, hfrom, honly ?_⟩
  have hdistinct : (MapSpec.program.declarations.map Declaration.name).Nodup := by
    decide
  intro before d after heq _ hmem
  rw [heq, List.map_append, List.map_cons, List.nodup_append] at hdistinct
  exact (List.nodup_cons.1 hdistinct.2.1).1 hmem

/-! ## An interface that is replaced -/

namespace TwinSpec

/-- A module interface with one method. -/
def spec (method : String) : Interface :=
  ⟨interfaceName, [⟨baseMarker, none, Span.none⟩],
    [.method method [] (some (MapSpec.keyword "void")) false Span.none], Span.none⟩

/-- A file that declares its module interface twice. -/
def program : Program :=
  ⟨[.declaration (.interface (spec "start")), .declaration (.interface (spec "stop")),
    .expression MapSpec.load Span.none], Span.none⟩

/-- The schema has the method of the second interface and nothing of the first. -/
theorem exists_built :
    ∃ built, buildSchema "NativeMap" program = .ok built ∧
      built.schema.properties.map Shape.name = ["stop"] ∧ built.faults = [] := by
  have hbuilt : (buildSchema "NativeMap" program).toOption.map
      (fun built => (built.schema.properties.map Shape.name, built.faults)) =
        some (["stop"], []) := by
    cbv
  obtain ⟨built, hok, hparts⟩ := exists_eq_ok_of_toOption hbuilt
  exact ⟨built, hok, congrArg Prod.fst hparts, congrArg Prod.snd hparts⟩

end TwinSpec

/-- A schema is built although the file declares two module interfaces. -/
theorem not_forall_moduleInterface_unique :
    ¬ ∀ moduleName (program : Program) built, buildSchema moduleName program = .ok built →
      ∃ i, program.declarations.filterMap Declaration.moduleInterface? = [i] := by
  intro hunique
  obtain ⟨built, hbuilt, -⟩ := TwinSpec.exists_built
  obtain ⟨i, hi⟩ := hunique _ _ built hbuilt
  have htwo : TwinSpec.program.declarations.filterMap Declaration.moduleInterface? =
      [TwinSpec.spec "start", TwinSpec.spec "stop"] := by
    rfl
  rw [htwo] at hi
  cases hi

end ModuleSpec
