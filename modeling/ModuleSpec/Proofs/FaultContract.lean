import ModuleSpec.Proofs.Lowering.Depth
import ModuleSpec.Proofs.Shape

/-!
# Which faults end a build

A fault of a member, of a parameter or of an element is raised somewhere deep in
a lowering.  Each is confined: the lowering of a member of the interface runs
under a capture that accepts everything but the faults of the shape of a file,
and a lowering raises none of those.  So only a check of the shape ends a build.

The exceptions are a union without members, for which a lowering has no kind to
give, and a member whose lowering does not terminate.

**Results.**  A build ends with a fault exactly when the file violates a check,
and then with the fault of the first such check; otherwise it gives a schema
under the one name that is registered, and the faults that it has recorded are
not fatal and name the module (`build_contract`).
-/

namespace ModuleSpec

/-! ## What a file passes on to its declarations -/

namespace Environment

theorem mem_of_mem_place
    {d e : Declaration}
    {es : List Declaration}
    (h : e ∈ place d es) :
    e = d ∨ e ∈ es := by
  induction es with
  | nil =>
      exact .inl (List.mem_singleton.1 h)
  | cons c es ih =>
      rw [place] at h
      split at h
      · rcases List.mem_cons.1 h with rfl | h
        · exact .inl rfl
        · exact .inr (List.mem_cons_of_mem c h)
      · rcases List.mem_cons.1 h with rfl | h
        · exact .inr List.mem_cons_self
        · exact (ih h).imp_right (List.mem_cons_of_mem c)

/-- The declarations of a file are among its statements. -/
theorem mem_of_mem_ofProgram
    {program : Program}
    {d : Declaration}
    (h : d ∈ (ofProgram program).declarations) :
    .declaration d ∈ program.body := by
  have hfold : ∀ (ds : List Declaration) (env : Environment),
      d ∈ (ds.foldl declare env).declarations → d ∈ env.declarations ∨ d ∈ ds := by
    intro ds
    induction ds with
    | nil =>
        exact fun env h => .inl h
    | cons c ds ih =>
        intro env h
        rcases ih (env.declare c) h with h | h
        · rcases mem_of_mem_place h with rfl | h
          · exact .inr List.mem_cons_self
          · exact .inl h
        · exact .inr (List.mem_cons_of_mem c h)
  obtain ⟨s, hs, hd⟩ := List.mem_filterMap.1 ((hfold _ empty h).resolve_left List.not_mem_nil)
  cases s with
  | declaration e =>
      cases hd
      exact hs
  | _ => cases hd

end Environment

section Every

variable {P : Node → Prop} {program : Program}

theorem Environment.every_declaration
    {d : Declaration}
    (h : (Node.program program).Every P)
    (hd : d ∈ (Environment.ofProgram program).declarations) :
    (Node.statement (.declaration d)).Every P :=
  h.child (List.mem_map.2 ⟨_, Environment.mem_of_mem_ofProgram hd, rfl⟩)

/-- A property of all nodes of a file holds of what the declared names stand for. -/
theorem Environment.every_ofProgram
    (h : (Node.program program).Every P)
    (hobject : ∀ members span, P (.type (.object members span))) :
    (Environment.ofProgram program).Every P := by
  intro name t ht
  obtain ⟨d, hd, htype⟩ := Option.bind_eq_some_iff.1 ht
  have hevery := Environment.every_declaration h (List.mem_of_find?_eq_some hd)
  cases d with
  | interface i =>
      cases htype
      rw [Node.every_iff]
      refine ⟨hobject _ _, ?_⟩
      intro c hc
      exact hevery.child (List.mem_append_right _ hc)
  | typeAlias a =>
      cases htype
      exact hevery.child List.mem_cons_self
  | enum e =>
      cases htype

/-- A property of all nodes of a file holds of the members of its module interface. -/
theorem every_member
    {i : Interface}
    {m : Member}
    (h : (Node.program program).Every P)
    (hi : i ∈ program.moduleInterfaces)
    (hm : m ∈ i.members) :
    (Node.member m).Every P := by
  obtain ⟨d, hd, hdi⟩ := List.mem_filterMap.1 hi
  have hevery := Environment.every_declaration h hd
  cases d with
  | interface j =>
      simp only [Declaration.moduleInterface?, Option.ite_none_right_eq_some,
        Option.some.injEq] at hdi
      obtain ⟨-, rfl⟩ := hdi
      exact hevery.child (List.mem_append_right _ (List.mem_map.2 ⟨m, hm, rfl⟩))
  | _ => cases hdi

end Every

/-! ## What a lowering raises and records -/

/-- Whether the node is a union without members. -/
def Node.isEmptyUnion : Node → Bool
  | .type (.union [] _) => true
  | _ => false

/-- No union of a file is without members. -/
def Program.UnionsInhabited (program : Program) : Prop :=
  ∀ n, n ∈ program.walk → n.isEmptyUnion = false

instance (program : Program) : Decidable program.UnionsInhabited :=
  inferInstanceAs (Decidable (∀ n, n ∈ program.walk → n.isEmptyUnion = false))

namespace FaultContract

/-- No union without members is lowered, and faults are not fatal and name the module. -/
def invariant (moduleName : String) : Invariant where
  node n := n.isEmptyUnion = false
  fault f := f.fatal = false ∧ f.moduleName = moduleName
  events es := ∀ channel f, .recorded channel f ∈ es →
    f.fatal = false ∧ f.moduleName = moduleName
  value _ _ := True

theorem invariant_sound
    {scope : Scope}
    (henv : scope.types.Every (invariant scope.moduleName).node) :
    (invariant scope.moduleName).SoundWithin scope := by
  refine Invariant.soundWithin_ofFaults ?_ henv fun _ hcause => ⟨hcause, rfl⟩
  intro members rest span _ hne _
  cases rest with
  | nil => exact absurd rfl hne
  | cons m rest => rfl

end FaultContract

open FaultContract (invariant invariant_sound)

/-! ## The members of the interface -/

section Members

variable {scope : Scope}

/-- Under a capture a lowering that terminates gives a value, or nothing. -/
theorem exists_guard_eq_ok
    {α : Type}
    {moduleName : String}
    {post : List Event → α → Prop}
    {x : Lowering α}
    (channel : Nat)
    (hkeeps : (invariant moduleName).Keeps post x)
    (hend : x.Terminates) :
    ∃ o, ((Capture.recoverable channel).guard x).outcome = .ok o := by
  obtain ⟨(f | _ | _) | a, events⟩ := x
  · have hfault : f.fatal = false := hkeeps.ends.1
    have haccepts : (Capture.recoverable channel).accepts f = true := by
      rw [Capture.accepts_recoverable, Bool.not_eq_true']
      exact hfault
    rw [Capture.guard_of_accepts haccepts]
    exact ⟨_, rfl⟩
  · obtain ⟨span, hspan⟩ := hkeeps.ends
    cases hspan
  · exact absurd rfl hend
  · rw [Capture.guard_ok]
    exact ⟨_, rfl⟩

/-- Under its capture a member whose lowering terminates gives an entry. -/
theorem exists_entry
    (hsound : (invariant scope.moduleName).SoundWithin scope)
    (hcapture : scope.capture = .recoverable fileChannel)
    {m : Member}
    (hm : (Node.member m).Every (invariant scope.moduleName).node)
    (hend : (lowerProperty scope m).Terminates) :
    ∃ e, buildEntry scope m = .ok e := by
  obtain ⟨property?, hproperty⟩ :=
    exists_guard_eq_ok fileChannel (hsound.keeps_lowerProperty hm) hend
  simp only [buildEntry, hcapture, hproperty]
  exact ⟨_, rfl⟩

/-- The faults of an entry are not fatal and name the module. -/
theorem fault_of_entry
    (hsound : (invariant scope.moduleName).SoundWithin scope)
    {m : Member}
    (hm : (Node.member m).Every (invariant scope.moduleName).node)
    {e : Entry}
    (he : buildEntry scope m = .ok e)
    {f : Fault}
    (hf : f ∈ e.faults) :
    f.fatal = false ∧ f.moduleName = scope.moduleName := by
  obtain ⟨es, hes, -, -, hfaults⟩ := hsound.keeps_buildEntry hm he
  rw [hfaults] at hf
  exact hes fileChannel f (Lowering.mem_recordedOn.1 hf)

end Members

/-! ## The contract -/

/-- The members of the interface of a module are lowered to an end. -/
def MembersTerminate
    (moduleName : String)
    (program : Program) : Prop :=
  ∀ i registered,
    findInterface moduleName program (Environment.ofProgram program) = .ok i →
    findRegisteredName moduleName program i = .ok registered →
    ∀ m, m ∈ i.members →
      (lowerProperty (programScope moduleName program registered) m).Terminates

/-- When a build ends with a fault, with which, and what it gives otherwise. -/
structure BuildContract
    (moduleName : String)
    (program : Program) : Prop where
  raises_iff : (∃ halt, buildSchema moduleName program = .error halt) ↔
    ∃ k, k ∈ shapeChecks ∧ program.Violates k
  raised_iff : ∀ halt, buildSchema moduleName program = .error halt ↔
    ∃ k f, program.FirstViolation k ∧ program.Report moduleName k f ∧ halt = .fault f
  confined : ∀ halt, buildSchema moduleName program = .error halt →
    ∃ f, halt = .fault f ∧ f.fatal = true ∧ f.moduleName = moduleName
  returns : (∀ k, k ∈ shapeChecks → ¬ program.Violates k) →
    ∃ built load name span, buildSchema moduleName program = .ok built ∧
      program.loads = [load] ∧ load.arguments = [.string name span] ∧
      built.schema.moduleNames = [name]
  recorded : ∀ built, buildSchema moduleName program = .ok built →
    ∀ f, f ∈ built.faults → f.fatal = false ∧ f.moduleName = moduleName

section Contract

variable {moduleName : String} {program : Program}

theorem invariant_sound_programScope
    (hunions : program.UnionsInhabited)
    (registered : String) :
    (invariant moduleName).SoundWithin (programScope moduleName program registered) := by
  have hevery : (Node.program program).Every (invariant moduleName).node := hunions
  have henv : (programScope moduleName program registered).types.Every
      (invariant moduleName).node :=
    Environment.every_ofProgram hevery fun _ _ => rfl
  exact invariant_sound henv

/-- The members of the interface that is found are without empty unions. -/
theorem every_member_of_found
    (hunions : program.UnionsInhabited)
    {i : Interface}
    (hi : findInterface moduleName program (Environment.ofProgram program) = .ok i)
    {m : Member}
    (hm : m ∈ i.members) :
    (Node.member m).Every (invariant moduleName).node := by
  have hmem : i ∈ program.moduleInterfaces := by
    rw [moduleInterfaces_of_findInterface hi]
    exact List.mem_cons_self
  exact every_member hunions hmem hm

/-- A file that violates no check gives a schema under the name that it registers. -/
theorem exists_built
    (hunions : program.UnionsInhabited)
    (hterminate : MembersTerminate moduleName program)
    (h : ∀ k, k ∈ shapeChecks → ¬ program.Violates k) :
    ∃ built load name span, buildSchema moduleName program = .ok built ∧
      program.loads = [load] ∧ load.arguments = [.string name span] ∧
      built.schema.moduleNames = [name] := by
  obtain ⟨i, load, name, span, hload, harguments, hi, hname⟩ := found_of_no_violation h
  have hentry : ∀ m, m ∈ i.members.filter Member.isProperty →
      ∃ e, buildEntry (programScope moduleName program name) m = .ok e := by
    intro m hm
    have hmem : m ∈ i.members := (List.mem_filter.1 hm).1
    exact exists_entry (invariant_sound_programScope hunions name) rfl
      (every_member_of_found hunions hi hmem) (hterminate i name hi hname m hmem)
  obtain ⟨entries, hentries⟩ := exists_mapM_eq_ok hentry
  refine ⟨.ofEntries moduleName name entries, load, name, span, ?_, hload, harguments, rfl⟩
  rw [buildSchema_of_found hi hname, hentries]
  rfl

/-- What a build records is not fatal and names the module. -/
theorem fault_of_built
    (hunions : program.UnionsInhabited)
    {built : Built}
    (h : buildSchema moduleName program = .ok built)
    {f : Fault}
    (hf : f ∈ built.faults) :
    f.fatal = false ∧ f.moduleName = moduleName := by
  obtain ⟨i, registered, entries, hi, -, hentries, rfl⟩ := buildSchema_eq_ok h
  obtain ⟨e, he, hfe⟩ := List.mem_flatMap.1 hf
  obtain ⟨m, hm, hme⟩ := exists_of_mem_mapM hentries he
  exact fault_of_entry (invariant_sound_programScope hunions registered)
    (every_member_of_found hunions hi (List.mem_filter.1 hm).1) hme hfe

/--
Without empty unions and with members that terminate, a build ends with the
fault of the first check that the file violates, or gives a schema.
-/
theorem build_contract
    (hunions : program.UnionsInhabited)
    (hterminate : MembersTerminate moduleName program) :
    BuildContract moduleName program := by
  have hraised : ∀ halt, buildSchema moduleName program = .error halt ↔
      ∃ k f, program.FirstViolation k ∧ program.Report moduleName k f ∧ halt = .fault f := by
    intro halt
    constructor
    · intro hhalt
      rcases no_violation_or_exists_first program with hnone | ⟨k, hk⟩
      · obtain ⟨built, -, -, -, hbuilt, -⟩ := exists_built hunions hterminate hnone
        rw [hbuilt] at hhalt
        cases hhalt
      · obtain ⟨f, hreport, hf⟩ := buildSchema_of_firstViolation hk
        rw [hf] at hhalt
        cases hhalt
        exact ⟨k, f, hk, hreport, rfl⟩
    · rintro ⟨k, f, hk, hreport, rfl⟩
      obtain ⟨f', hreport', hf'⟩ := buildSchema_of_firstViolation hk
      rw [hf', hreport'.unique hreport]
  refine ⟨⟨?_, ?_⟩, hraised, ?_, exists_built hunions hterminate,
    fun _ => fault_of_built hunions⟩
  · rintro ⟨halt, hhalt⟩
    obtain ⟨k, f, hk, -, -⟩ := (hraised halt).1 hhalt
    exact ⟨k, hk.check, hk.violated⟩
  · rintro ⟨k, hcheck, hviolated⟩
    rcases no_violation_or_exists_first program with hnone | ⟨j, hj⟩
    · exact absurd hviolated (hnone k hcheck)
    · obtain ⟨f, -, hf⟩ := buildSchema_of_firstViolation hj
      exact ⟨_, hf⟩
  · intro halt hhalt
    obtain ⟨k, f, -, hreport, rfl⟩ := (hraised halt).1 hhalt
    exact ⟨f, rfl, hreport.spec.2⟩

end Contract

theorem mapSpec_unionsInhabited :
    MapSpec.program.UnionsInhabited := by
  decide +kernel

theorem mapSpec_terminates :
    MembersTerminate "NativeMap" MapSpec.program := by
  intro i registered hi hname m hm
  have hfound : findInterface "NativeMap" MapSpec.program
      (Environment.ofProgram MapSpec.program) = .ok MapSpec.spec := by
    rfl
  have hregistered : findRegisteredName "NativeMap" MapSpec.program MapSpec.spec =
      .ok "NativeMap" := by
    rfl
  obtain rfl : MapSpec.spec = i := Except.ok.inj (hfound.symm.trans hi)
  obtain rfl : "NativeMap" = registered := Except.ok.inj (hregistered.symm.trans hname)
  have hall : ∀ m, m ∈ MapSpec.spec.members →
      (lowerProperty (programScope "NativeMap" MapSpec.program "NativeMap") m).Terminates := by
    decide +kernel
  exact hall m hm

theorem mapSpec_contract :
    MapSpec.program.UnionsInhabited ∧ MembersTerminate "NativeMap" MapSpec.program ∧
      BuildContract "NativeMap" MapSpec.program :=
  ⟨mapSpec_unionsInhabited, mapSpec_terminates,
    build_contract mapSpec_unionsInhabited mapSpec_terminates⟩

end ModuleSpec
