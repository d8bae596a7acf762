import ModuleSpec.Proofs.Concrete.Bases
import ModuleSpec.Proofs.Concrete.Slices
import ModuleSpec.Proofs.FaultContract
import ModuleSpec.Proofs.Merging

/-!
# Files that are no candidates

Only a candidate is read as a module spec, and whether a file is one is decided by a
search of its text.  Whether a file has a schema is decided on its tree, where a base
of an interface has to be the base of module interfaces.  The name of a base is a
slice of the text, so where a tree has that base the search finds it, as long as no
name in the tree begins in the middle of a word.

**Results.**  `candidates_cover_modules`: a file that is no candidate, and does not
register a component, ends with a fatal fault; so every file that has a schema is a
candidate, unless it registers a component.
-/

namespace ModuleSpec

namespace Concrete.Node

/-- The offset at which a node begins. -/
def start : Node → Nat
  | .mk _ _ _ start _ _ => start

end Concrete.Node

section Candidates

variable {text : String} {root : Concrete.Node} {program : Program}

/-- A module interface has the base of module interfaces. -/
theorem exists_base_of_mem_moduleInterfaces
    {i : Interface}
    (hi : i ∈ program.moduleInterfaces) :
    .declaration (.interface i) ∈ program.body ∧ ∃ b, b ∈ i.bases ∧ b.name = baseMarker := by
  obtain ⟨d, hd, hdi⟩ := List.mem_filterMap.1 hi
  have hbody := Environment.mem_of_mem_ofProgram hd
  cases d with
  | interface j =>
      simp only [Declaration.moduleInterface?, Option.ite_none_right_eq_some,
        Option.some.injEq] at hdi
      obtain ⟨hmodule, rfl⟩ := hdi
      refine ⟨hbody, ?_⟩
      unfold Interface.isModule at hmodule
      split at hmodule
      · rename_i b hbases
        exact ⟨b, by rw [hbases]; exact List.mem_cons_self, eq_of_beq hmodule⟩
      · cases hmodule
  | _ => cases hdi

/-- A text mentions the name of each node that it names a base by. -/
theorem occurs_of_baseName
    {t : Concrete.Node}
    {name : String}
    (htext : (t.head (.ofString text)).text = .ok name)
    (hname : name ≠ "")
    (hword : Text.WordStart text t.start) :
    Text.Occurs false name.toList false text.toList := by
  obtain ⟨kind, named, field, start, stop, children⟩ := t
  rw [Concrete.Head.text] at htext
  cases hslice : (Concrete.Source.ofString text).slice start stop with
  | error e =>
      rw [Concrete.Node.head, hslice] at htext
      cases htext
  | ok piece =>
      rw [Concrete.Node.head, hslice] at htext
      cases htext
      exact Concrete.Source.occurs_of_slice hslice hname hword

/-- A file that declares a module interface mentions the base of module interfaces. -/
theorem occurs_of_moduleInterface
    (hprogram : root.program (.ofString text) = .ok program)
    (hwords : ∀ t, t ∈ root.baseNames → Text.WordStart text t.start)
    {i : Interface}
    (hi : i ∈ program.moduleInterfaces) :
    Text.Occurs false moduleMarker.toList false text.toList := by
  obtain ⟨hbody, b, hb, hname⟩ := exists_base_of_mem_moduleInterfaces hi
  obtain ⟨t, ht, htext⟩ := Concrete.exists_baseName_of_program hprogram hbody hb
  rw [hname] at htext
  exact occurs_of_baseName htext (by decide) (hwords t ht)

theorem buildSchema_of_no_moduleInterface
    (moduleName : String)
    (h : program.moduleInterfaces = []) :
    buildSchema moduleName program =
      .error (.fault ⟨moduleName, [.program program], .interfaceMissing⟩) := by
  refine buildSchema_of_interface_error ?_
  rw [findInterface]
  change (Environment.ofProgram program).moduleInterfaces = [] at h
  rw [h]

/--
A file that is no candidate and does not register a component ends with a fatal
fault.  So each file that has a schema is a candidate or registers a component.
-/
theorem candidates_cover_modules
    (hprogram : root.program (.ofString text) = .ok program)
    (hwords : ∀ t, t ∈ root.baseNames → Text.WordStart text t.start)
    (moduleName : String) :
    (isCandidate text = false →
      ¬ Text.Occurs true componentMarker.toList false text.toList →
        ∃ f, buildSchema moduleName program = .error (.fault f) ∧ f.fatal = true) ∧
    (∀ built, buildSchema moduleName program = .ok built →
      isCandidate text = true ∨ Text.Occurs true componentMarker.toList false text.toList) := by
  have hfatal (hcandidate : isCandidate text = false)
      (hcomponent : ¬ Text.Occurs true componentMarker.toList false text.toList) :
      ∃ f, buildSchema moduleName program = .error (.fault f) ∧ f.fatal = true := by
    have hnone : program.moduleInterfaces = [] := by
      refine List.eq_nil_iff_forall_not_mem.2 fun i hi => ?_
      have hoccurs := occurs_of_moduleInterface hprogram hwords hi
      rw [isCandidate_iff.2 ⟨hcomponent, hoccurs⟩] at hcandidate
      cases hcandidate
    exact ⟨_, buildSchema_of_no_moduleInterface moduleName hnone, rfl⟩
  refine ⟨hfatal, fun built hbuilt => ?_⟩
  by_cases hcomponent : Text.Occurs true componentMarker.toList false text.toList
  · exact .inr hcomponent
  · refine .inl (Bool.of_not_eq_false fun hcandidate => ?_)
    obtain ⟨f, hf, -⟩ := hfatal hcandidate hcomponent
    rw [hf] at hbuilt
    cases hbuilt

end Candidates

/-! ## Two files, one of them no candidate -/

namespace TurboSpec

open FooFiles (token leaf)

def text : String :=
  "interface Spec extends Turbo<Module> \x7b\x7d"

/-- What the interface extends, by the name of a generic type. -/
def base : Concrete.Node :=
  .mk "generic_type" true (some "type") 23 36
    [leaf "type_identifier" (some "name") 23 28,
      .mk "type_arguments" true (some "type_arguments") 28 36
        [token "<" 28 29, leaf "type_identifier" none 29 35, token ">" 35 36]]

/-- The concrete tree of the text. -/
def root : Concrete.Node :=
  .mk "program" true none 0 39
    [.mk "interface_declaration" true none 0 39
      [token "interface" 0 9, leaf "type_identifier" (some "name") 10 14,
        .mk "extends_type_clause" true none 15 36 [token "extends" 15 22, base],
        .mk "interface_body" true (some "body") 37 39 [token "\x7b" 37 38, token "\x7d" 38 39]]]

theorem wordStart
    (t : Concrete.Node)
    (ht : t ∈ root.baseNames) :
    Text.WordStart text t.start := by
  have hnames : root.baseNames = [leaf "type_identifier" (some "name") 23 28] := by rfl
  have htext : text = "interface Spec extends " ++ "Turbo<Module> \x7b\x7d" := by decide +kernel
  have hsize : t.start = "interface Spec extends ".utf8ByteSize := by
    rw [hnames, List.mem_singleton] at ht
    rw [ht]
    decide +kernel
  rw [htext, hsize]
  exact Text.wordStart_of_append (by decide +kernel)

end TurboSpec

theorem turboSpec_ends :
    ∃ program f, TurboSpec.root.program (.ofString TurboSpec.text) = .ok program ∧
      isCandidate TurboSpec.text = false ∧
      buildSchema "NativeFoo" program = .error (.fault f) ∧ f.fatal = true := by
  have hread : (TurboSpec.root.program (.ofString TurboSpec.text)).toOption.map
      (fun program => program.body.length) = some 1 := by
    decide +kernel
  obtain ⟨program, hprogram, -⟩ := exists_eq_ok_of_toOption hread
  have hcandidate : isCandidate TurboSpec.text = false := by decide +kernel
  have hcomponent : ¬ Text.Occurs true componentMarker.toList false TurboSpec.text.toList := by
    rw [← Text.hasMarker_iff]
    decide +kernel
  obtain ⟨f, hbuild, hfatal⟩ :=
    (candidates_cover_modules hprogram TurboSpec.wordStart "NativeFoo").1 hcandidate hcomponent
  exact ⟨program, f, hprogram, hcandidate, hbuild, hfatal⟩

end ModuleSpec
