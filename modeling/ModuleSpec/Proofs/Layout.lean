import ModuleSpec.Proofs.Bare.Build
import ModuleSpec.Proofs.Bare.Same
import ModuleSpec.Proofs.Concrete.Pairs

/-!
# The layout of a source file

What a source file says does not depend on its layout: on blanks, on line breaks
and on comments.  Two files whose concrete trees differ in nothing else declare
the same module, and have the same faults.

**Results.**  `program_coincides`: without comments the trees are read alike, and
with them they are read as without.  Programs that are bare the same build alike.
-/

namespace ModuleSpec

namespace Concrete

/-- Without comments the trees have the same shape, and the same texts are read of them.

The texts are those of the nodes that a reading looks at, in the order in which it
does, so that for trees of the same shape they are compared node by node. -/
structure Coincide
    (source : Source)
    (root : Node)
    (source' : Source)
    (root' : Node) : Prop where
  shape : root.strip.shape = root'.strip.shape
  texts :
    root.strip.texts source (.part .statements) = root'.strip.texts source' (.part .statements)

/-- Trees that coincide are read as programs that are bare the same. -/
theorem Coincide.bare_eq
    {source source' : Source}
    {root root' : Node}
    (h : Coincide source root source' root')
    (hplain : root.CommentsPlain)
    (hplain' : root'.CommentsPlain)
    {program program' : Program}
    (hprogram : root.program source = .ok program)
    (hprogram' : root'.program source' = .ok program') :
    program.bare = program'.bare := by
  have htexts := congrArg (· ++ []) h.texts
  obtain ⟨halike, -⟩ := alikeIn_of_texts_eq h.shape htexts
  rw [Node.read_strip hplain, Node.read_strip hplain'] at halike
  obtain ⟨body, hbody, rfl⟩ := map_eq_ok_iff.1 hprogram
  obtain ⟨body', hbody', rfl⟩ := map_eq_ok_iff.1 hprogram'
  have hbare : body.map Statement.bare = body'.map Statement.bare :=
    halike body body' hbody hbody'
  simp [Program.bare, hbare]

/-- What a source file says does not depend on its layout. -/
theorem program_coincides
    {source source' : Source}
    {root root' : Node}
    (h : Coincide source root source' root')
    (hplain : root.CommentsPlain)
    (hplain' : root'.CommentsPlain)
    {program program' : Program}
    (hprogram : root.program source = .ok program)
    (hprogram' : root'.program source' = .ok program') :
    program.bare = program'.bare ∧
      (program.Numeric → program.same program' = true) ∧
      ∀ moduleName,
        BuildsAlike (buildSchema moduleName program) (buildSchema moduleName program') := by
  have hbare := h.bare_eq hplain hplain' hprogram hprogram'
  exact ⟨hbare, Program.same_of_bare_eq hbare, buildsAlike_of_bare_eq hbare⟩

/-! ## A file in two layouts -/

namespace TwoLayouts

section Tree

-- Where in the text each offset of the first layout has moved.
variable (moved : Nat → Nat)

def token (kind : String) (start stop : Nat) : Node :=
  .mk kind false none (moved start) (moved stop) []

def leaf (kind : String) (field : Option String) (start stop : Nat) : Node :=
  .mk kind true field (moved start) (moved stop) []

def inner
    (kind : String)
    (field : Option String)
    (start stop : Nat)
    (children : List Node) :
    Node :=
  .mk kind true field (moved start) (moved stop) children

/-- A method that takes what no parameter can be. -/
def method : Node :=
  inner moved "method_signature" none 37 53
    [leaf moved "property_identifier" (some "name") 37 38,
      inner moved "formal_parameters" (some "parameters") 38 47
        [token moved "(" 38 39,
          inner moved "required_parameter" none 39 46
            [leaf moved "identifier" (some "pattern") 39 40,
              inner moved "type_annotation" (some "type") 40 46
                [token moved ":" 40 41,
                  inner moved "predefined_type" none 42 46 [token moved "void" 42 46]]],
          token moved ")" 46 47],
      inner moved "type_annotation" (some "return_type") 47 53
        [token moved ":" 47 48,
          inner moved "predefined_type" none 49 53 [token moved "void" 49 53]]]

def load : Node :=
  inner moved "call_expression" (some "value") 72 108
    [inner moved "member_expression" (some "function") 72 95
        [leaf moved "identifier" (some "object") 72 91, token moved "." 91 92,
          leaf moved "property_identifier" (some "property") 92 95],
      inner moved "type_arguments" (some "type_arguments") 95 101
        [token moved "<" 95 96, leaf moved "type_identifier" none 96 100,
          token moved ">" 100 101],
      inner moved "arguments" (some "arguments") 101 108
        [token moved "(" 101 102,
          inner moved "string" none 102 107
            [token moved "'" 102 103, leaf moved "string_fragment" none 103 106,
              token moved "'" 106 107],
          token moved ")" 107 108]]

/-- The tree of the file, with comments before the method. -/
def tree (comments : List Node) : Node :=
  inner moved "program" none 0 109
    [inner moved "interface_declaration" none 0 56
        [token moved "interface" 0 9, leaf moved "type_identifier" (some "name") 10 14,
          inner moved "extends_type_clause" none 15 34
            [token moved "extends" 15 22, leaf moved "type_identifier" (some "type") 23 34],
          inner moved "interface_body" (some "body") 35 56
            (token moved "\x7b" 35 36 :: comments
              ++ [method moved, token moved ";" 53 54, token moved "\x7d" 55 56])],
      inner moved "export_statement" none 57 109
        [token moved "export" 57 63, token moved "default" 64 71, load moved,
          token moved ";" 108 109]]

end Tree

def compact : Source :=
  .ofString ("interface Spec extends TurboModule \x7b f(x: void): void; \x7d\n"
    ++ "export default TurboModuleRegistry.get<Spec>('Foo');")

def compactRoot : Node := tree id []

/-- The same file with a comment, each declaration on lines of its own. -/
def spread : Source :=
  .ofString ("interface Spec extends TurboModule \x7b\n  // to be removed\n"
    ++ "  f(x: void): void;\n\x7d\n\nexport default TurboModuleRegistry.get<Spec>('Foo');")

def spreadRoot : Node :=
  tree (fun n => if n ≤ 36 then n else if n ≤ 56 then n + 21 else n + 22)
    [.mk "comment" true none 39 55 []]

theorem coincide : Coincide compact compactRoot spread spreadRoot where
  shape := rfl
  texts := by decide +kernel

theorem commentsPlain_compactRoot : compactRoot.CommentsPlain where
  field := by decide +kernel
  first := by decide +kernel

theorem commentsPlain_spreadRoot : spreadRoot.CommentsPlain where
  field := by decide +kernel
  first := by decide +kernel

/-- In either layout one fault is recorded, on another line. -/
theorem exists_program :
    (∃ program, compactRoot.program compact = .ok program ∧ program.Numeric ∧
        (buildSchema "NativeFoo" program).toOption.map (fun b => b.faults.map Fault.line) =
          some [1]) ∧
      ∃ program, spreadRoot.program spread = .ok program ∧
        (buildSchema "NativeFoo" program).toOption.map (fun b => b.faults.map Fault.line) =
          some [3] := by
  constructor
  · have h : (compactRoot.program compact).toOption.map (fun program =>
        (program.walk.all fun n => !n.isNotANumber,
          (buildSchema "NativeFoo" program).toOption.map fun b => b.faults.map Fault.line)) =
          some (true, some [1]) := by
      decide +kernel
    obtain ⟨program, hprogram, hrest⟩ := exists_eq_ok_of_toOption h
    obtain ⟨hnumeric, hlines⟩ := Prod.mk.inj hrest
    refine ⟨program, hprogram, fun n hn => ?_, hlines⟩
    simpa using List.all_eq_true.1 hnumeric n hn
  · have h : (spreadRoot.program spread).toOption.map (fun program =>
        (buildSchema "NativeFoo" program).toOption.map fun b => b.faults.map Fault.line) =
          some (some [3]) := by
      decide +kernel
    exact exists_eq_ok_of_toOption h

end TwoLayouts

theorem twoLayouts_coincide :
    ∃ program program',
      TwoLayouts.compactRoot.program TwoLayouts.compact = .ok program ∧
        TwoLayouts.spreadRoot.program TwoLayouts.spread = .ok program' ∧
        program.bare = program'.bare ∧ program.same program' = true ∧
        ∀ moduleName,
          BuildsAlike (buildSchema moduleName program) (buildSchema moduleName program') := by
  obtain ⟨⟨program, hprogram, hnumeric, -⟩, program', hprogram', -⟩ := TwoLayouts.exists_program
  obtain ⟨hbare, hsame, hbuild⟩ := program_coincides TwoLayouts.coincide
    TwoLayouts.commentsPlain_compactRoot TwoLayouts.commentsPlain_spreadRoot hprogram hprogram'
  exact ⟨program, program', hprogram, hprogram', hbare, hsame hnumeric, hbuild⟩

end Concrete

end ModuleSpec
