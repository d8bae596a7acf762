import Mathlib.Tactic.ByContra
import Mathlib.Tactic.Push
import ModuleSpec.Proofs.Entries

/-!
# The shape of a file

A file has the right shape when it declares one module interface, named Spec,
and loads the module once, by a call with one string for its argument and the
interface for its type argument.  The checks of the shape come in a fixed order,
and what is reported is the first that the file does not pass.

Each check is stated by itself (`Program.Violates`), so that the order is that of
the list `shapeChecks` and of nothing else.

**Results.**  The first check that a file violates ends the build with a fault of
its sort (`buildSchema_of_firstViolation`).  A file that violates none has an
interface and a registered name (`found_of_no_violation`).
-/

namespace ModuleSpec

/-- The checks of the shape of a file, in their order. -/
def shapeChecks : List FaultKind :=
  [.interfaceMissing, .interfacesSeveral, .interfaceMisnamed, .loadMissing, .loadsSeveral,
    .loadArity, .loadArgument, .loadUntyped, .loadMistyped]

namespace Program

/-- The module interfaces that a file declares. -/
def moduleInterfaces (program : Program) : List Interface :=
  (Environment.ofProgram program).moduleInterfaces

/-- The file does not pass the check. -/
def Violates
    (program : Program) :
    FaultKind → Prop
  | .interfaceMissing => program.moduleInterfaces = []
  | .interfacesSeveral => 1 < program.moduleInterfaces.length
  | .interfaceMisnamed => ∃ i, program.moduleInterfaces = [i] ∧ i.name ≠ interfaceName
  | .loadMissing => program.loads = []
  | .loadsSeveral => 1 < program.loads.length
  | .loadArity => ∃ load, program.loads = [load] ∧ load.arguments.length ≠ 1
  | .loadArgument =>
      ∃ load argument, program.loads = [load] ∧ load.arguments = [argument] ∧
        ∀ name span, argument ≠ .string name span
  | .loadUntyped => ∃ load, program.loads = [load] ∧ load.typeArgs = none
  | .loadMistyped =>
      ∃ load, program.loads = [load] ∧
        ∀ span, load.typeArgs ≠ some [.reference interfaceName none span]
  | _ => False

/-- The file passes all checks before this one, and not this one. -/
structure FirstViolation
    (program : Program)
    (k : FaultKind) : Prop where
  check : k ∈ shapeChecks
  violated : program.Violates k
  before : ∀ j, j ∈ shapeChecks.takeWhile (fun j => j != k) → ¬ program.Violates j

/-- The fault that a check reports: where it points and what it mentions. -/
inductive Report
    (moduleName : String)
    (program : Program) :
    FaultKind → Fault → Prop
  | interfaceMissing :
      Report moduleName program .interfaceMissing
        ⟨moduleName, [.program program], .interfaceMissing⟩
  | interfacesSeveral :
      Report moduleName program .interfacesSeveral
        ⟨moduleName, program.moduleInterfaces.map Interface.node,
          .interfacesSeveral (program.moduleInterfaces.map Interface.name)⟩
  | interfaceMisnamed
      {i : Interface}
      (hi : program.moduleInterfaces = [i]) :
      Report moduleName program .interfaceMisnamed
        ⟨moduleName, [i.node], .interfaceMisnamed i.name⟩
  | loadMissing
      {i : Interface}
      (hi : program.moduleInterfaces = [i]) :
      Report moduleName program .loadMissing ⟨moduleName, [i.node], .loadMissing⟩
  | loadsSeveral :
      Report moduleName program .loadsSeveral
        ⟨moduleName, program.loads.map fun load => .expr load.call,
          .loadsSeveral program.loads.length⟩
  | loadArity
      {load : Load}
      (hload : program.loads = [load]) :
      Report moduleName program .loadArity
        ⟨moduleName, [.expr load.call], .loadArity load.method load.arguments.length⟩
  | loadArgument
      {load : Load}
      {argument : Expr}
      (hload : program.loads = [load])
      (harguments : load.arguments = [argument]) :
      Report moduleName program .loadArgument
        ⟨moduleName, [.expr argument], .loadArgument load.method argument.kind⟩
  | loadUntyped
      {load : Load}
      {name : String}
      {span : Span}
      (hload : program.loads = [load])
      (harguments : load.arguments = [.string name span]) :
      Report moduleName program .loadUntyped
        ⟨moduleName, [.expr load.call], .loadUntyped load.method name⟩
  | loadMistyped
      {load : Load}
      {name : String}
      {span : Span}
      (hload : program.loads = [load])
      (harguments : load.arguments = [.string name span]) :
      Report moduleName program .loadMistyped
        ⟨moduleName, [.expr load.call], .loadMistyped load.method name⟩

end Program

section Shape

variable {moduleName : String} {program : Program}

/-- The fault that a check reports is of the check's sort, is fatal and names the module. -/
theorem Program.Report.spec
    {k : FaultKind}
    {f : Fault}
    (h : program.Report moduleName k f) :
    f.kind = k ∧ f.fatal = true ∧ f.moduleName = moduleName := by
  cases h <;>
    exact ⟨rfl, rfl, rfl⟩

/-- A check reports one fault. -/
theorem Program.Report.unique
    {k : FaultKind}
    {f f' : Fault}
    (h : program.Report moduleName k f)
    (h' : program.Report moduleName k f') :
    f = f' := by
  cases h with
  | interfaceMissing =>
      cases h'
      rfl
  | interfacesSeveral =>
      cases h'
      rfl
  | interfaceMisnamed hi =>
      cases h' with
      | interfaceMisnamed hi' =>
          cases hi.symm.trans hi'
          rfl
  | loadMissing hi =>
      cases h' with
      | loadMissing hi' =>
          cases hi.symm.trans hi'
          rfl
  | loadsSeveral =>
      cases h'
      rfl
  | loadArity hload =>
      cases h' with
      | loadArity hload' =>
          cases hload.symm.trans hload'
          rfl
  | loadArgument hload harguments =>
      cases h' with
      | loadArgument hload' harguments' =>
          cases hload.symm.trans hload'
          cases harguments.symm.trans harguments'
          rfl
  | loadUntyped hload harguments =>
      cases h' with
      | loadUntyped hload' harguments' =>
          cases hload.symm.trans hload'
          cases harguments.symm.trans harguments'
          rfl
  | loadMistyped hload harguments =>
      cases h' with
      | loadMistyped hload' harguments' =>
          cases hload.symm.trans hload'
          cases harguments.symm.trans harguments'
          rfl

/-! ## The interface -/

theorem exists_eq_singleton
    {α : Type}
    {as : List α}
    (hnil : as ≠ [])
    (hseveral : ¬ 1 < as.length) :
    ∃ a, as = [a] := by
  rw [← List.length_eq_one_iff]
  have := List.length_pos_iff.2 hnil
  omega

theorem findInterface_of_named
    {i : Interface}
    (hi : program.moduleInterfaces = [i])
    (hname : i.name = interfaceName) :
    findInterface moduleName program (Environment.ofProgram program) = .ok i := by
  have hi' : (Environment.ofProgram program).moduleInterfaces = [i] := hi
  simp [findInterface, hi', hname]

/-- The interface that is found is the only one. -/
theorem moduleInterfaces_of_findInterface
    {i : Interface}
    (h : findInterface moduleName program (Environment.ofProgram program) = .ok i) :
    program.moduleInterfaces = [i] := by
  unfold findInterface at h
  split at h
  · cases h
  · rename_i j hone
    split at h
    · cases h
      exact hone
    · cases h
  · cases h

/-- A file that passes the checks of its interface has one. -/
theorem exists_interface
    (hmissing : ¬ program.Violates .interfaceMissing)
    (hseveral : ¬ program.Violates .interfacesSeveral)
    (hmisnamed : ¬ program.Violates .interfaceMisnamed) :
    ∃ i, program.moduleInterfaces = [i] ∧ i.name = interfaceName := by
  obtain ⟨i, hi⟩ := exists_eq_singleton hmissing hseveral
  refine ⟨i, hi, ?_⟩
  by_contra hname
  exact hmisnamed ⟨i, hi, hname⟩

/-- A check of the interface that is the first to fail is what finding it reports. -/
theorem findInterface_of_firstViolation
    {k : FaultKind}
    (h : program.FirstViolation k)
    (hk : k ∈ [.interfaceMissing, .interfacesSeveral, .interfaceMisnamed]) :
    ∃ f, program.Report moduleName k f ∧
      findInterface moduleName program (Environment.ofProgram program) = .error f := by
  have hviolated := h.violated
  simp only [List.mem_cons, List.not_mem_nil, or_false] at hk
  rcases hk with rfl | rfl | rfl
  · have hnone : (Environment.ofProgram program).moduleInterfaces = [] := hviolated
    exact ⟨_, .interfaceMissing, by simp [findInterface, hnone]⟩
  · refine ⟨_, .interfacesSeveral, ?_⟩
    unfold findInterface
    change 1 < (Environment.ofProgram program).moduleInterfaces.length at hviolated
    split
    · rename_i hnil
      simp [hnil] at hviolated
    · rename_i i hone
      simp [hone] at hviolated
    · rfl
  · obtain ⟨i, hi, hname⟩ := hviolated
    have hone : (Environment.ofProgram program).moduleInterfaces = [i] := hi
    exact ⟨_, .interfaceMisnamed hi, by simp [findInterface, hone, hname]⟩

/-! ## The load -/

/-- The one load of a file that passes the checks of its argument has a string for it. -/
theorem exists_argument
    {load : Load}
    (hload : program.loads = [load])
    (harity : ¬ program.Violates .loadArity)
    (hargument : ¬ program.Violates .loadArgument) :
    ∃ name span, load.arguments = [.string name span] := by
  have hone : load.arguments.length = 1 := by
    by_contra hlength
    exact harity ⟨load, hload, hlength⟩
  obtain ⟨argument, harguments⟩ := List.length_eq_one_iff.1 hone
  have hstring : ∃ name span, argument = .string name span := by
    by_contra hno
    push Not at hno
    exact hargument ⟨load, argument, hload, harguments, hno⟩
  obtain ⟨name, span, rfl⟩ := hstring
  exact ⟨name, span, harguments⟩

theorem registeredName_of_arity
    {load : Load}
    (h : load.arguments.length ≠ 1) :
    load.registeredName moduleName =
      .error ⟨moduleName, [.expr load.call], .loadArity load.method load.arguments.length⟩ := by
  unfold Load.registeredName
  simp only []
  split
  · rename_i name span hone
    rw [hone] at h
    exact absurd rfl h
  · rename_i argument _ hone
    rw [hone] at h
    exact absurd rfl h
  · rfl

theorem registeredName_of_argument
    {load : Load}
    {argument : Expr}
    (harguments : load.arguments = [argument])
    (h : ∀ name span, argument ≠ .string name span) :
    load.registeredName moduleName =
      .error ⟨moduleName, [.expr argument], .loadArgument load.method argument.kind⟩ := by
  unfold Load.registeredName
  rw [harguments]
  cases argument with
  | string name span => exact absurd rfl (h name span)
  | _ => rfl

theorem registeredName_of_untyped
    {load : Load}
    {name : String}
    {span : Span}
    (harguments : load.arguments = [.string name span])
    (h : load.typeArgs = none) :
    load.registeredName moduleName =
      .error ⟨moduleName, [.expr load.call], .loadUntyped load.method name⟩ := by
  simp [Load.registeredName, harguments, h]

theorem registeredName_of_mistyped
    {load : Load}
    {name : String}
    {span : Span}
    (harguments : load.arguments = [.string name span])
    (htyped : load.typeArgs ≠ none)
    (h : ∀ inner, load.typeArgs ≠ some [.reference interfaceName none inner]) :
    load.registeredName moduleName =
      .error ⟨moduleName, [.expr load.call], .loadMistyped load.method name⟩ := by
  simp only [Load.registeredName, harguments]
  split
  · rename_i hnone
    exact absurd hnone htyped
  · rename_i type inner hsome
    have hother : type ≠ interfaceName := by
      rintro rfl
      exact h inner hsome
    rw [if_neg hother]
  · rfl

theorem registeredName_of_typed
    {load : Load}
    {name : String}
    {span inner : Span}
    (harguments : load.arguments = [.string name span])
    (h : load.typeArgs = some [.reference interfaceName none inner]) :
    load.registeredName moduleName = .ok name := by
  simp [Load.registeredName, harguments, h]

theorem findRegisteredName_of_loads
    {load : Load}
    (i : Interface)
    (h : program.loads = [load]) :
    findRegisteredName moduleName program i = load.registeredName moduleName := by
  simp [findRegisteredName, h]

/-- A check of the load that is the first to fail is what finding the name reports. -/
theorem findRegisteredName_of_firstViolation
    {k : FaultKind}
    {i : Interface}
    (hi : program.moduleInterfaces = [i])
    (h : program.FirstViolation k)
    (hk : k ∈ [.loadMissing, .loadsSeveral, .loadArity, .loadArgument, .loadUntyped,
      .loadMistyped]) :
    ∃ f, program.Report moduleName k f ∧
      findRegisteredName moduleName program i = .error f := by
  obtain ⟨-, hviolated, hbefore⟩ := h
  simp only [List.mem_cons, List.not_mem_nil, or_false] at hk
  rcases hk with rfl | rfl | rfl | rfl | rfl | rfl
  · have hnone : program.loads = [] := hviolated
    exact ⟨_, .loadMissing hi, by simp [findRegisteredName, hnone]⟩
  · refine ⟨_, .loadsSeveral, ?_⟩
    unfold findRegisteredName
    change 1 < program.loads.length at hviolated
    split
    · rename_i hnil
      simp [hnil] at hviolated
    · rename_i load hone
      simp [hone] at hviolated
    · rfl
  · obtain ⟨load, hload, hlength⟩ := hviolated
    refine ⟨_, .loadArity hload, ?_⟩
    rw [findRegisteredName_of_loads i hload, registeredName_of_arity hlength]
  · obtain ⟨load, argument, hload, harguments, hother⟩ := hviolated
    refine ⟨_, .loadArgument hload harguments, ?_⟩
    rw [findRegisteredName_of_loads i hload, registeredName_of_argument harguments hother]
  · obtain ⟨load, hload, huntyped⟩ := hviolated
    obtain ⟨name, span, harguments⟩ := exists_argument hload
      (hbefore .loadArity (by decide)) (hbefore .loadArgument (by decide))
    refine ⟨_, .loadUntyped hload harguments, ?_⟩
    rw [findRegisteredName_of_loads i hload, registeredName_of_untyped harguments huntyped]
  · obtain ⟨load, hload, hmistyped⟩ := hviolated
    obtain ⟨name, span, harguments⟩ := exists_argument hload
      (hbefore .loadArity (by decide)) (hbefore .loadArgument (by decide))
    have htyped : load.typeArgs ≠ none :=
      fun hnone => hbefore .loadUntyped (by decide) ⟨load, hload, hnone⟩
    refine ⟨_, .loadMistyped hload harguments, ?_⟩
    rw [findRegisteredName_of_loads i hload,
      registeredName_of_mistyped harguments htyped hmistyped]

/-! ## The build -/

/-- The first check that a file violates is what the build ends with. -/
theorem buildSchema_of_firstViolation
    {k : FaultKind}
    (h : program.FirstViolation k) :
    ∃ f, program.Report moduleName k f ∧
      buildSchema moduleName program = .error (.fault f) := by
  have hsplit : k ∈ [.interfaceMissing, .interfacesSeveral, .interfaceMisnamed] ∨
      k ∈ [.loadMissing, .loadsSeveral, .loadArity, .loadArgument, .loadUntyped,
        .loadMistyped] :=
    List.mem_append.1 h.check
  rcases hsplit with hk | hk
  · obtain ⟨f, hreport, hf⟩ := findInterface_of_firstViolation h hk
    exact ⟨f, hreport, buildSchema_of_interface_error hf⟩
  · have hearlier : ∀ k, k ∈ [FaultKind.loadMissing, .loadsSeveral, .loadArity,
        .loadArgument, .loadUntyped, .loadMistyped] →
        ∀ j, j ∈ [FaultKind.interfaceMissing, .interfacesSeveral, .interfaceMisnamed] →
          j ∈ shapeChecks.takeWhile fun j => j != k := by
      decide
    have hbefore := fun j hj => h.before j (hearlier k hk j hj)
    obtain ⟨i, hi, hname⟩ := exists_interface (hbefore .interfaceMissing (by decide))
      (hbefore .interfacesSeveral (by decide)) (hbefore .interfaceMisnamed (by decide))
    obtain ⟨f, hreport, hf⟩ := findRegisteredName_of_firstViolation hi h hk
    exact ⟨f, hreport, buildSchema_of_name_error (findInterface_of_named hi hname) hf⟩

/-- A file that violates no check has an interface and registers a name. -/
theorem found_of_no_violation
    (h : ∀ k, k ∈ shapeChecks → ¬ program.Violates k) :
    ∃ i load name span,
      program.loads = [load] ∧ load.arguments = [.string name span] ∧
      findInterface moduleName program (Environment.ofProgram program) = .ok i ∧
      findRegisteredName moduleName program i = .ok name := by
  obtain ⟨i, hi, hname⟩ := exists_interface (h .interfaceMissing (by decide))
    (h .interfacesSeveral (by decide)) (h .interfaceMisnamed (by decide))
  obtain ⟨load, hload⟩ := exists_eq_singleton (h .loadMissing (by decide))
    (h .loadsSeveral (by decide))
  obtain ⟨name, span, harguments⟩ := exists_argument hload (h .loadArity (by decide))
    (h .loadArgument (by decide))
  have htyped : ∃ inner, load.typeArgs = some [.reference interfaceName none inner] := by
    by_contra hno
    push Not at hno
    exact h .loadMistyped (by decide) ⟨load, hload, hno⟩
  obtain ⟨inner, htyped⟩ := htyped
  refine ⟨i, load, name, span, hload, harguments, findInterface_of_named hi hname, ?_⟩
  rw [findRegisteredName_of_loads i hload, registeredName_of_typed harguments htyped]

/-- Of the entries of a list for which a property holds, one is the first. -/
theorem exists_first
    {α : Type}
    [BEq α]
    [LawfulBEq α]
    {P : α → Prop}
    {as : List α}
    (h : ∃ a, a ∈ as ∧ P a) :
    ∃ a, a ∈ as ∧ P a ∧ ∀ b, b ∈ as.takeWhile (fun b => b != a) → ¬ P b := by
  induction as with
  | nil =>
      obtain ⟨a, ha, -⟩ := h
      cases ha
  | cons c as ih =>
      by_cases hc : P c
      · refine ⟨c, List.mem_cons_self, hc, ?_⟩
        intro b hb
        simp at hb
      · have hrest : ∃ a, a ∈ as ∧ P a := by
          obtain ⟨a, ha, hPa⟩ := h
          rcases List.mem_cons.1 ha with rfl | ha
          · exact absurd hPa hc
          · exact ⟨a, ha, hPa⟩
        obtain ⟨a, ha, hPa, hbefore⟩ := ih hrest
        refine ⟨a, List.mem_cons_of_mem c ha, hPa, ?_⟩
        intro b hb
        rw [List.takeWhile_cons] at hb
        split at hb
        · rcases List.mem_cons.1 hb with rfl | hb
          · exact hc
          · exact hbefore b hb
        · cases hb

/-- A file violates no check, or one of them first. -/
theorem no_violation_or_exists_first
    (program : Program) :
    (∀ k, k ∈ shapeChecks → ¬ program.Violates k) ∨ ∃ k, program.FirstViolation k := by
  by_cases h : ∃ k, k ∈ shapeChecks ∧ program.Violates k
  · obtain ⟨k, hk, hviolated, hbefore⟩ := exists_first h
    exact .inr ⟨k, hk, hviolated, hbefore⟩
  · push Not at h
    exact .inl h

end Shape

end ModuleSpec
