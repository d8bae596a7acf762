import ModuleSpec.Proofs.FaultContract
import ModuleSpec.Proofs.Lowering.Weaken
import ModuleSpec.Proofs.Uniqueness

/-!
# Statements that do not matter

A schema depends on the declarations that its interface leads to, and on the one
load of the file.  Where the names that a file declares are distinct, the order of
its statements does not matter, and neither do further statements that load
nothing, declare no module interface, and declare names that occur nowhere else.

**Idea.**  A name stands for its last declaration.  Where names are distinct the
last is the only one, so an occurring name stands for the same in any order of
the statements.

**Results.**  `buildSchema_rearranged`: the same schema, with its objects in the
same order, and the same faults.
-/

namespace ModuleSpec

/-! ## What a name of a file stands for -/

namespace Environment

/-- A name stands for its last declaration. -/
theorem find?_ofProgram
    (program : Program)
    (name : String) :
    (ofProgram program).find? name =
      (program.declarations.filter fun d => d.name == name).getLast? := by
  have hfold : ∀ ds : List Declaration,
      (ds.foldl declare empty).find? name =
        (ds.filter fun d => d.name == name).getLast? := by
    intro ds
    induction ds using List.reverseRecOn with
    | nil =>
        rfl
    | append_singleton ds d ih =>
        rw [List.foldl_append, List.foldl_cons, List.foldl_nil, find?_declare,
          List.filter_append]
        by_cases hname : d.name = name
        · simp [hname]
        · simp [hname, ih]
  exact hfold program.declarations

end Environment

theorem length_filter_name_le_one
    {ds : List Declaration}
    (h : (ds.map Declaration.name).Nodup)
    (name : String) :
    (ds.filter fun d => d.name == name).length ≤ 1 := by
  have hsame : (ds.filter fun d => d.name == name).map Declaration.name =
      List.replicate (ds.filter fun d => d.name == name).length name := by
    rw [List.eq_replicate_iff, List.length_map]
    refine ⟨rfl, ?_⟩
    intro n hn
    obtain ⟨d, hd, rfl⟩ := List.mem_map.1 hn
    simpa using (List.mem_filter.1 hd).2
  have hsub : (ds.filter fun d => d.name == name).Sublist ds := List.filter_sublist
  have hnodup := h.sublist (hsub.map Declaration.name)
  rw [hsame, List.nodup_replicate] at hnodup
  exact hnodup

/-! ## Rearranged files -/

/-- A name that no reference to a type and no declaration of a file mentions. -/
def Program.Fresh
    (program : Program)
    (name : String) : Prop :=
  ∀ n, n ∈ program.walk → name ∉ n.mentions

/-- A statement that loads nothing and declares at most a fresh name for no module interface. -/
structure Statement.Unrelated
    (program : Program)
    (s : Statement) : Prop where
  silent : ∀ n, n ∈ s.walk → n.load? = none
  ordinary : ∀ d, s.declaration? = some d → d.moduleInterface? = none
  fresh : ∀ d, s.declaration? = some d → program.Fresh d.name

/-- The statements of a file in any order, with unrelated ones among them. -/
structure Program.Rearranges
    (program program' : Program)
    (inserted : List Statement) : Prop where
  distinct : (program.declarations.map Declaration.name).Nodup
  perm : program'.body.Perm (program.body ++ inserted)
  unrelated : ∀ s, s ∈ inserted → s.Unrelated program

section Rearranges

variable {program program' : Program} {inserted : List Statement}

theorem Program.name_ne_of_fresh
    {d : Declaration}
    (hd : d ∈ program.declarations)
    {name : String}
    (hfresh : program.Fresh name) :
    d.name ≠ name := by
  rintro rfl
  obtain ⟨s, hs, hsd⟩ := List.mem_filterMap.1 hd
  cases s with
  | declaration e =>
      cases hsd
      have hmem : Node.statement (.declaration d) ∈ program.walk := by
        have hwalk : program.walk = Node.walk (.program program) := rfl
        rw [hwalk, Node.walk_eq_cons]
        refine List.mem_cons_of_mem _ (List.mem_flatMap.2 ?_)
        refine ⟨.statement (.declaration d), List.mem_map.2 ⟨_, hs, rfl⟩, ?_⟩
        rw [Node.walk_eq_cons]
        exact List.mem_cons_self
      exact hfresh _ hmem List.mem_cons_self
  | _ => cases hsd

namespace Program.Rearranges

theorem declarations
    (h : program.Rearranges program' inserted) :
    program'.declarations.Perm
      (program.declarations ++ inserted.filterMap Statement.declaration?) := by
  rw [Program.declarations, Program.declarations, ← List.filterMap_append]
  exact h.perm.filterMap Statement.declaration?

theorem declaration_unrelated
    (h : program.Rearranges program' inserted)
    {d : Declaration}
    (hd : d ∈ inserted.filterMap Statement.declaration?) :
    d.moduleInterface? = none ∧ program.Fresh d.name := by
  obtain ⟨s, hs, hsd⟩ := List.mem_filterMap.1 hd
  exact ⟨(h.unrelated s hs).ordinary d hsd, (h.unrelated s hs).fresh d hsd⟩

/-- The declarations of a name that occurs in the file are those in the file. -/
theorem filter_name
    (h : program.Rearranges program' inserted)
    {name : String}
    (hname : ¬ program.Fresh name) :
    (program'.declarations.filter fun d => d.name == name).Perm
      (program.declarations.filter fun d => d.name == name) := by
  have hnone : (inserted.filterMap Statement.declaration?).filter (fun d => d.name == name)
      = [] := by
    rw [List.filter_eq_nil_iff]
    intro d hd heq
    exact hname (eq_of_beq heq ▸ (h.declaration_unrelated hd).2)
  have hperm := h.declarations.filter fun d => d.name == name
  rwa [List.filter_append, hnone, List.append_nil] at hperm

/-- A name that occurs in the file stands for the same after the rearrangement. -/
theorem find?_eq
    (h : program.Rearranges program' inserted)
    {name : String}
    (hname : ¬ program.Fresh name) :
    (Environment.ofProgram program').find? name = (Environment.ofProgram program).find? name := by
  rw [Environment.find?_ofProgram, Environment.find?_ofProgram]
  have hperm := h.filter_name hname
  have hone := length_filter_name_le_one h.distinct name
  generalize program.declarations.filter (fun d => d.name == name) = ds at hperm hone
  match ds, hone with
  | [], _ =>
      rw [List.perm_nil.1 hperm]
  | [d], _ =>
      rw [List.perm_singleton.1 hperm]

theorem knows
    {n : Node}
    (hn : n ∈ program.walk) :
    ∀ name, name ∈ n.mentions → ¬ program.Fresh name :=
  fun _ hname hfresh => hfresh n hn hname

/-- The environments of the two files agree on the names that occur in the first. -/
theorem agreeOn
    (h : program.Rearranges program' inserted) :
    (Environment.ofProgram program).AgreeOn (fun name => ¬ program.Fresh name)
      (Environment.ofProgram program') where
  find? := fun _ hname => h.find?_eq hname
  closed := by
    have hevery : (Node.program program).Every
        fun m => ∀ name, name ∈ m.mentions → ¬ program.Fresh name :=
      fun _ hn => knows hn
    exact Environment.every_ofProgram hevery fun _ _ => nofun

/-! ## The interface and the load -/

/-- The file has the same module interface, which nothing replaces. -/
theorem moduleInterfaces
    (h : program.Rearranges program' inserted)
    {i : Interface}
    (hi : program.moduleInterfaces = [i]) :
    program'.moduleInterfaces = [i] := by
  have hkept : ∀ before d after, program.declarations = before ++ d :: after →
      (Declaration.moduleInterface? d).isSome = true → d.name ∉ after.map Declaration.name := by
    intro before d after heq _ hmem
    have hdistinct := h.distinct
    rw [heq, List.map_append, List.map_cons, List.nodup_append] at hdistinct
    exact (List.nodup_cons.1 hdistinct.2.1).1 hmem
  have hkept' : ∀ before d after, program'.declarations = before ++ d :: after →
      (Declaration.moduleInterface? d).isSome = true → d.name ∉ after.map Declaration.name := by
    intro before d after heq hcounts hmem
    have hd : d ∈ program.declarations := by
      have hmem' : d ∈ program'.declarations := by
        rw [heq]
        exact List.mem_append_right _ List.mem_cons_self
      refine (List.mem_append.1 (h.declarations.mem_iff.1 hmem')).resolve_right fun hinserted => ?_
      rw [(h.declaration_unrelated hinserted).1] at hcounts
      cases hcounts
    -- Two declarations of the name would be two in the first file.
    have hone := length_filter_name_le_one h.distinct d.name
    rw [← (h.filter_name fun hfresh => Program.name_ne_of_fresh hd hfresh rfl).length_eq, heq,
      List.filter_append, List.filter_cons_of_pos (by simp), List.length_append,
      List.length_cons] at hone
    obtain ⟨e, he, hname⟩ := List.mem_map.1 hmem
    have hpos : 0 < (after.filter fun e => e.name == d.name).length :=
      List.length_pos_of_mem (List.mem_filter.2 ⟨he, by simpa using hname⟩)
    omega
  have hfirst := standing_of_moduleInterfaces hi
  rw [Declaration.filterMap_standing hkept] at hfirst
  have hnone : (inserted.filterMap Statement.declaration?).filterMap
      Declaration.moduleInterface? = [] := by
    rw [List.filterMap_eq_nil_iff]
    exact fun d hd => (h.declaration_unrelated hd).1
  have hsecond := h.declarations.filterMap Declaration.moduleInterface?
  rw [List.filterMap_append, hfirst, hnone, List.append_nil] at hsecond
  have hperm := (Environment.ofProgram_perm program').filterMap Declaration.moduleInterface?
  rw [Declaration.filterMap_standing hkept'] at hperm
  exact List.perm_singleton.1 (hperm.trans hsecond)

/-- The loads of the file are those before the rearrangement. -/
theorem loads
    (h : program.Rearranges program' inserted) :
    program'.loads.Perm program.loads := by
  have hloads : ∀ p : Program,
      p.loads = (p.body.flatMap Statement.walk).filterMap Node.load? := by
    intro p
    obtain ⟨body, span⟩ := p
    simp only [Program.loads, Program.walk, Statement.walkAll_eq_flatMap]
    rfl
  have hnone : (inserted.flatMap Statement.walk).filterMap Node.load? = [] := by
    rw [List.filterMap_eq_nil_iff]
    intro n hn
    obtain ⟨s, hs, hns⟩ := List.mem_flatMap.1 hn
    exact (h.unrelated s hs).silent n hns
  have hperm := (h.perm.flatMap_right Statement.walk).filterMap Node.load?
  rwa [List.flatMap_append, List.filterMap_append, hnone, List.append_nil, ← hloads,
    ← hloads] at hperm

end Program.Rearranges

/-! ## The schema -/

variable {moduleName : String} {built : Built}

/--
The order of the statements of a file, and statements that are unrelated to them,
do not matter to its schema nor to its faults.
-/
theorem buildSchema_rearranged
    (h : program.Rearranges program' inserted)
    (hbuilt : buildSchema moduleName program = .ok built) :
    buildSchema moduleName program' = .ok built := by
  obtain ⟨i, registered, entries, hi, hregistered, hentries, rfl⟩ := buildSchema_eq_ok hbuilt
  have hinterface := moduleInterfaces_of_findInterface hi
  have hi' : findInterface moduleName program' (Environment.ofProgram program') = .ok i :=
    findInterface_of_named (h.moduleInterfaces hinterface) (name_of_findInterface hi)
  obtain ⟨load, hload, hname⟩ := exists_load_of_findRegisteredName hregistered
  have hloads := h.loads
  rw [hload] at hloads
  have hregistered' : findRegisteredName moduleName program' i = .ok registered :=
    (findRegisteredName_of_loads i (List.perm_singleton.1 hloads)).trans hname
  rw [buildSchema_of_found hi' hregistered']
  have hentries' : (i.members.filter Member.isProperty).mapM
      (buildEntry (programScope moduleName program' registered)) = .ok entries := by
    refine mapM_eq_ok_of_forall hentries fun m hm e he => ?_
    have hmember : (Node.member m).Knows fun name => ¬ program.Fresh name := by
      have hevery : (Node.program program).Every
          fun n => ∀ name, name ∈ n.mentions → ¬ program.Fresh name :=
        fun _ hn => Program.Rearranges.knows hn
      have hi : i ∈ program.moduleInterfaces := by
        rw [hinterface]
        exact List.mem_cons_self
      exact every_member hevery hi (List.mem_filter.1 hm).1
    exact buildEntry_inTypes (s := programScope moduleName program registered) h.agreeOn hmember he
  rw [hentries']
  rfl

end Rearranges

namespace MapSpec

/-- An alias, an enum and an interface of one new name, and a call that loads nothing. -/
def spare : List Statement :=
  [.declaration (.typeAlias ⟨"Width", name "Size", Span.none⟩),
    .declaration (.enum ⟨"Unit", [⟨"metre", none, Span.none⟩], Span.none⟩),
    .declaration (.interface ⟨"Unit", [], [property "area" (name "Area")], Span.none⟩),
    .expression
      (.call (.identifier "get" Span.none) [.string "Size" Span.none] none Span.none) Span.none]

/-- The file with the statements of both in the opposite order. -/
def rearranged : Program :=
  ⟨(program.body ++ spare).reverse, Span.none⟩

theorem rearranges :
    program.Rearranges rearranged spare := by
  refine ⟨by decide, List.reverse_perm _, ?_⟩
  have hsilent : ∀ s, s ∈ spare → ∀ n, n ∈ s.walk → n.load? = none := by
    decide +kernel
  have hordinary : ∀ s, s ∈ spare → ∀ d, d ∈ s.declaration?.toList →
      d.moduleInterface? = none ∧ ∀ n, n ∈ program.walk → d.name ∉ n.mentions := by
    decide +kernel
  intro s hs
  exact ⟨hsilent s hs, fun d hd => (hordinary s hs d (Option.mem_toList.2 hd)).1,
    fun d hd => (hordinary s hs d (Option.mem_toList.2 hd)).2⟩

end MapSpec

theorem mapSpec_rearranged :
    MapSpec.program.Rearranges MapSpec.rearranged MapSpec.spare ∧
      ∃ built, buildSchema "NativeMap" MapSpec.program = .ok built ∧
        buildSchema "NativeMap" MapSpec.rearranged = .ok built := by
  obtain ⟨built, hbuilt, -⟩ := MapSpec.exists_built
  exact ⟨MapSpec.rearranges, built, hbuilt, buildSchema_rearranged MapSpec.rearranges hbuilt⟩

end ModuleSpec
