import ModuleSpec.Proofs.FaultContract

/-!
# Where faults point

A fault carries nodes, and a reader is shown where the first of them stands in
the file.  Most of these nodes are nodes of the file.  Two sorts are put together
while an annotation is resolved: a union without its nulls, and the object that
an interface stands for.  Both take over the span of the node that they are made
from.

**Idea.**  What a file gives (`Program.Gives`) is what resolution can make of its
nodes.  To take more members from a union makes nothing new, and what stands
beneath a node that is put together stands in the file itself.  So the nodes that
a file gives are an invariant of lowering, and every step that raises or records a
fault raises it about a node it has at hand.

**Results.**  Every fault, whether it ends a build or is recorded by it, carries
nodes that the file gives, and points into the file (`faults_point_into_file`).
-/

namespace ModuleSpec

/-! ## Nodes that a file gives -/

/-- What stands beneath a node of a tree stands in the tree. -/
theorem Node.mem_walk_of_child
    {n m c : Node}
    (hm : m ∈ n.walk)
    (hc : c ∈ m.children) :
    c ∈ n.walk := by
  -- A child's walk is a part of the walk, so this is an induction on its length.
  induction hlength : n.walk.length using Nat.strongRecOn generalizing n with
  | ind length ih =>
    rw [Node.walk_eq_cons] at hm hlength ⊢
    rcases List.mem_cons.1 hm with rfl | hm
    · refine List.mem_cons_of_mem _ (List.mem_flatMap.2 ⟨c, hc, ?_⟩)
      rw [Node.walk_eq_cons]
      exact List.mem_cons_self
    · obtain ⟨d, hd, hmd⟩ := List.mem_flatMap.1 hm
      have hshorter : d.walk.length < length := by
        have hle :=
          (List.sublist_flatten_of_mem (List.mem_map_of_mem (f := Node.walk) hd)).length_le
        rw [← hlength, List.length_cons, List.flatMap_def]
        omega
      exact List.mem_cons_of_mem _ (List.mem_flatMap.2 ⟨d, hd, ih _ hshorter hmd rfl⟩)

namespace Program

/-- The node is one of the file, or is put together from one in a resolution. -/
inductive Gives (program : Program) : Node → Prop
  | own
      {n : Node}
      (hn : n ∈ program.walk) :
      Gives program n
  | remaining
      {members rest : List Ty}
      {span : Span}
      (hunion : .type (.union members span) ∈ program.walk)
      (hsub : rest.Sublist members) :
      Gives program (.type (.union rest span))
  | object
      {i : Interface}
      (hi : i.node ∈ program.walk) :
      Gives program (.type (.object i.members i.span))

variable {program : Program}

/-- What a file gives has the span of a node of the file. -/
theorem Gives.exists_span
    {n : Node}
    (h : program.Gives n) :
    ∃ m, m ∈ program.walk ∧ m.span = n.span := by
  cases h with
  | own hn => exact ⟨n, hn, rfl⟩
  | remaining hunion _ => exact ⟨_, hunion, rfl⟩
  | object hi => exact ⟨_, hi, rfl⟩

theorem keepsRemaining_gives
    (program : Program) :
    KeepsRemaining program.Gives := by
  intro members rest span hsub _ h
  cases h with
  | own hunion => exact .remaining hunion hsub
  | remaining hunion hsub' => exact .remaining hunion (hsub.trans hsub')

theorem every_walk
    (program : Program) :
    (Node.program program).Every fun n => n ∈ program.walk :=
  fun _ hn => hn

/-- A file gives what the names that it declares stand for. -/
theorem every_gives_ofProgram
    (program : Program) :
    (Environment.ofProgram program).Every program.Gives := by
  intro name t ht
  obtain ⟨d, hd, htype⟩ := Option.bind_eq_some_iff.1 ht
  have hevery := Environment.every_declaration program.every_walk (List.mem_of_find?_eq_some hd)
  cases d with
  | interface i =>
      cases htype
      -- The object itself is put together; its members are those of the interface.
      refine (Node.every_iff _).2 ⟨.object hevery.self, fun c hc m hm => .own ?_⟩
      exact hevery.child (List.mem_append_right _ hc) m hm
  | typeAlias a =>
      cases htype
      exact fun m hm => .own (hevery.child List.mem_cons_self m hm)
  | enum e =>
      cases htype

end Program

/-! ## Faults that point into a file -/

/-- The fault carries nodes that the file gives, and points to where one of the file stands. -/
structure Fault.PointsInto
    (program : Program)
    (f : Fault) : Prop where
  carries : f.nodes ≠ []
  given : ∀ n, n ∈ f.nodes → program.Gives n
  spans : ∀ n, n ∈ f.nodes → ∃ m, m ∈ program.walk ∧ m.span = n.span
  span : ∃ m, m ∈ program.walk ∧ m.span = f.span

section Faults

variable {moduleName : String} {program : Program} {f : Fault}

theorem Fault.pointsInto_of_gives
    (hcarries : f.nodes ≠ [])
    (hgiven : ∀ n, n ∈ f.nodes → program.Gives n) :
    f.PointsInto program := by
  refine ⟨hcarries, hgiven, fun n hn => (hgiven n hn).exists_span, ?_⟩
  obtain ⟨moduleName, nodes, cause⟩ := f
  cases nodes with
  | nil => exact absurd rfl hcarries
  | cons n nodes => exact (hgiven n List.mem_cons_self).exists_span

theorem Fault.pointsInto_of_node
    {n : Node}
    {cause : Cause}
    (hn : program.Gives n) :
    Fault.PointsInto program ⟨moduleName, [n], cause⟩ := by
  refine Fault.pointsInto_of_gives (List.cons_ne_nil _ _) ?_
  intro m hm
  cases List.mem_singleton.1 hm
  exact hn

/-- A fault that is about several nodes of the file points into the file. -/
theorem Fault.pointsInto_of_several
    {α : Type}
    {as : List α}
    {node : α → Node}
    {cause : Cause}
    (hseveral : 1 < as.length)
    (hnodes : ∀ a, a ∈ as → node a ∈ program.walk) :
    Fault.PointsInto program ⟨moduleName, as.map node, cause⟩ := by
  refine Fault.pointsInto_of_gives ?_ fun n hn => ?_
  · exact List.ne_nil_of_length_pos (by rw [List.length_map]; omega)
  · obtain ⟨a, ha, rfl⟩ := List.mem_map.1 hn
    exact .own (hnodes a ha)

/-! ## The interface and the load -/

theorem node_mem_walk_of_moduleInterfaces
    {i : Interface}
    (hi : i ∈ program.moduleInterfaces) :
    i.node ∈ program.walk := by
  obtain ⟨d, hd, hdi⟩ := List.mem_filterMap.1 hi
  have hevery := Environment.every_declaration program.every_walk hd
  cases d with
  | interface j =>
      simp only [Declaration.moduleInterface?, Option.ite_none_right_eq_some,
        Option.some.injEq] at hdi
      obtain ⟨-, rfl⟩ := hdi
      exact hevery.self
  | _ => cases hdi

/-- A load is a call, and what it is given are arguments of the call. -/
theorem eq_call_of_load?
    {n : Node}
    {load : Load}
    (h : n.load? = some load) :
    ∃ callee typeArgs span,
      load.call = .call callee load.arguments typeArgs span ∧ n = .expr load.call := by
  cases n with
  | expr e =>
      change e.load? = some load at h
      unfold Expr.load? at h
      split at h
      · rw [Option.ite_none_right_eq_some] at h
        cases h.2
        exact ⟨_, _, _, rfl, rfl⟩
      · cases h
  | _ => cases h

theorem mem_walk_of_loads
    {load : Load}
    (hload : load ∈ program.loads) :
    .expr load.call ∈ program.walk ∧
      ∀ argument, argument ∈ load.arguments → .expr argument ∈ program.walk := by
  obtain ⟨n, hn, hfound⟩ := List.mem_filterMap.1 hload
  obtain ⟨callee, typeArgs, span, hcall, rfl⟩ := eq_call_of_load? hfound
  refine ⟨hn, fun argument hargument => Node.mem_walk_of_child (n := .program program) hn ?_⟩
  rw [hcall]
  exact List.mem_cons_of_mem _ (List.mem_append_left _ (List.mem_map.2 ⟨_, hargument, rfl⟩))

/-- What the first check that fails reports points into the file. -/
theorem pointsInto_of_report
    {k : FaultKind}
    (hviolated : program.Violates k)
    (h : program.Report moduleName k f) :
    f.PointsInto program := by
  have hone : ∀ {load}, program.loads = [load] → load ∈ program.loads :=
    fun hload => hload ▸ List.mem_singleton_self _
  cases h with
  | interfaceMissing =>
      exact Fault.pointsInto_of_node (.own (program.every_walk.self))
  | interfacesSeveral =>
      refine Fault.pointsInto_of_several hviolated fun i hi => ?_
      exact node_mem_walk_of_moduleInterfaces hi
  | interfaceMisnamed hi | loadMissing hi =>
      exact Fault.pointsInto_of_node
        (.own (node_mem_walk_of_moduleInterfaces (hi ▸ List.mem_singleton_self _)))
  | loadsSeveral =>
      refine Fault.pointsInto_of_several hviolated fun load hload => ?_
      exact (mem_walk_of_loads hload).1
  | loadArity hload | loadUntyped hload _ | loadMistyped hload _ =>
      exact Fault.pointsInto_of_node (.own (mem_walk_of_loads (hone hload)).1)
  | loadArgument hload harguments =>
      refine Fault.pointsInto_of_node (.own ((mem_walk_of_loads (hone hload)).2 _ ?_))
      rw [harguments]
      exact List.mem_singleton_self _

/-! ## The members of the interface -/

namespace FaultPlaces

/-- Faults carry nodes that the file gives. -/
def invariant (program : Program) : Invariant :=
  .ofFaults program.Gives fun f => f.nodes ≠ [] ∧ ∀ n, n ∈ f.nodes → program.Gives n

theorem invariant_sound
    (registered : String) :
    (invariant program).SoundWithin (programScope moduleName program registered) := by
  refine Invariant.soundWithin_ofFaults program.keepsRemaining_gives
    program.every_gives_ofProgram ?_
  intro n cause hn _
  refine ⟨List.cons_ne_nil _ _, fun m hm => ?_⟩
  cases List.mem_singleton.1 hm
  exact hn

end FaultPlaces

open FaultPlaces (invariant invariant_sound)

/-- A file gives the nodes of the members of its interface. -/
theorem every_gives_of_found
    {i : Interface}
    (hi : findInterface moduleName program (Environment.ofProgram program) = .ok i)
    {m : Member}
    (hm : m ∈ i.members) :
    (Node.member m).Every (invariant program).node := by
  have hmem : i ∈ program.moduleInterfaces := by
    rw [moduleInterfaces_of_findInterface hi]
    exact List.mem_cons_self
  exact fun n hn => .own (every_member program.every_walk hmem hm n hn)

/-- A fault that the capture of a member lets through points into the file. -/
theorem pointsInto_of_entry_error
    {registered : String}
    {m : Member}
    (hm : (Node.member m).Every (invariant program).node)
    (h : buildEntry (programScope moduleName program registered) m = .error (.fault f)) :
    f.PointsInto program := by
  have hsound : (invariant program).SoundWithin (programScope moduleName program registered) :=
    invariant_sound registered
  have hrun := hsound.keeps_guard (programScope moduleName program registered).capture
    (hsound.keeps_lowerProperty hm)
  obtain ⟨hcarries, hgiven⟩ := hrun.of_fault (map_eq_error_iff.1 h)
  exact Fault.pointsInto_of_gives hcarries hgiven

/-- What the build of a member records points into the file. -/
theorem pointsInto_of_entry
    {registered : String}
    {m : Member}
    (hm : (Node.member m).Every (invariant program).node)
    {e : Entry}
    (he : buildEntry (programScope moduleName program registered) m = .ok e)
    (hf : f ∈ e.faults) :
    f.PointsInto program := by
  obtain ⟨es, hes, -, -, hfaults⟩ := (invariant_sound registered).keeps_buildEntry hm he
  rw [hfaults] at hf
  obtain ⟨hcarries, hgiven⟩ := hes fileChannel f (Lowering.mem_recordedOn.1 hf)
  exact Fault.pointsInto_of_gives hcarries hgiven

/-! ## The build -/

/--
Every fault of a build, whether it ends the build or is recorded, carries nodes of the file, or
nodes that resolution puts together from them with their spans.
-/
theorem faults_point_into_file
    (moduleName : String)
    (program : Program) :
    (∀ f, buildSchema moduleName program = .error (.fault f) → f.PointsInto program) ∧
      ∀ built, buildSchema moduleName program = .ok built →
        ∀ f, f ∈ built.faults → f.PointsInto program := by
  constructor
  · intro f hf
    rcases no_violation_or_exists_first program with hnone | ⟨k, hk⟩
    · obtain ⟨i, load, name, span, -, -, hi, hname⟩ := found_of_no_violation hnone
      rw [buildSchema_of_found hi hname] at hf
      obtain ⟨m, hm, hme⟩ := exists_of_mapM_eq_error (map_eq_error_iff.1 hf)
      exact pointsInto_of_entry_error (every_gives_of_found hi (List.mem_filter.1 hm).1) hme
    · obtain ⟨f', hreport, hf'⟩ := buildSchema_of_firstViolation hk
      rw [hf'] at hf
      cases hf
      exact pointsInto_of_report hk.violated hreport
  · intro built hbuilt f hf
    obtain ⟨i, registered, entries, hi, -, hentries, rfl⟩ := buildSchema_eq_ok hbuilt
    obtain ⟨e, he, hfe⟩ := List.mem_flatMap.1 hf
    obtain ⟨m, hm, hme⟩ := exists_of_mem_mapM hentries he
    exact pointsInto_of_entry (every_gives_of_found hi (List.mem_filter.1 hm).1) hme hfe

end Faults

end ModuleSpec
