import Mathlib.Logic.Relation
import ModuleSpec.Proofs.Concrete.Gather

/-!
# Which calls of a source file are kept

A file is read for the calls in it, among which its load is looked for.  A node
that no rule of reading knows keeps all its named children, so that a call deep
inside it is found.  A node that a rule knows keeps the children that the rule
asks for.  So not every call of a file is found that has only named nodes around
it: of a variable only the value is kept, and a call in the pattern that stands
for its name is lost.

**Idea.**  A place is a node together with the role in which it is read.  A place
keeps the places that its reading is put together from, and a call is found when
it is reached from the whole file in this way.

**Results.**  `mem_calls_program_iff`, by induction on the tree from `mem_calls_iff`.
`not_forall_named_call_kept`: named nodes alone do not keep a call.
-/

namespace ModuleSpec

namespace Program

/-- Where the calls stand that are anywhere in a file, in order. -/
def calls (program : Program) : List Span :=
  program.walk.filterMap Node.callSpan?

/-- The calls of a file are those of its statements. -/
theorem calls_eq
    (program : Program) :
    program.calls = Node.calls (program.body.map .statement) := by
  have hcalls : program.calls = Node.calls [.program program] := by
    rw [Node.calls, List.flatMap_singleton]
    rfl
  rw [hcalls, Node.calls_singleton rfl]
  rfl

end Program

namespace Concrete

namespace Node

/-! ## Nodes and their children -/

def children : Node → List Node
  | .mk _ _ _ _ _ children => children

def head (source : Source) : Node → Head
  | .mk kind named field start stop _ =>
      ⟨kind, named, field, source.span start stop, source.slice start stop⟩

def kind : Node → String
  | .mk kind _ _ _ _ _ => kind

def field : Node → Option String
  | .mk _ _ field _ _ _ => field

def isNamed : Node → Bool
  | .mk _ named _ _ _ _ => named

/-- The second node is a named child of the first, and no comment. -/
def HasNamed (n c : Node) : Prop :=
  c ∈ n.children ∧ c.isNamed = true ∧ c.kind ≠ "comment"

def span (source : Source) (n : Node) : Span :=
  (n.head source).span

/-- The node is a call that has a callee. -/
def IsCall (n : Node) : Prop :=
  n.kind = "call_expression" ∧ ∃ c, c ∈ n.children ∧ c.field = some "function"

theorem readAll_eq_map
    (source : Source)
    (ns : List Node) :
    readAll source ns = ns.map (read source) := by
  induction ns with
  | nil =>
      rfl
  | cons n ns ih =>
      rw [readAll, ih, List.map_cons]

theorem read_eq
    (source : Source)
    (n : Node) :
    n.read source = .ofChildren (n.head source) (n.children.map (read source)) := by
  obtain ⟨kind, named, field, start, stop, children⟩ := n
  rw [read, readAll_eq_map]
  rfl

theorem field_read
    (source : Source)
    (n : Node) :
    (n.read source).head.field = n.field := by
  obtain ⟨kind, named, field, start, stop, children⟩ := n
  rfl

theorem kind_head
    (source : Source)
    (n : Node) :
    (n.head source).kind = n.kind := by
  obtain ⟨kind, named, field, start, stop, children⟩ := n
  rfl

/-- What holds of a node when it holds of its children holds of every node. -/
@[elab_as_elim]
theorem induction
    {motive : Node → Prop}
    (h : ∀ n, (∀ c, c ∈ n.children → motive c) → motive n)
    (n : Node) :
    motive n :=
  h n fun c _ => induction h c
termination_by n
decreasing_by
  obtain ⟨kind, named, field, start, stop, children⟩ := n
  rename_i hc
  have hlt := List.sizeOf_lt_of_mem hc
  simp only [Node.children] at hlt
  simp only [mk.sizeOf_spec]
  omega

end Node

/-! ## Gathered calls -/

namespace Gathers

variable {ps : List Part} {spans : List Span}

theorem exists_nodes
    (h : Gathers ps spans)
    {p : Part}
    (hp : p ∈ ps) :
    ∃ ns, p.nodes = .ok ns := by
  induction h with
  | nil =>
      cases hp
  | cons hq _ ih =>
      rcases List.mem_cons.1 hp with rfl | hp
      · exact ⟨_, hq⟩
      · exact ih hp

theorem mem_iff
    (h : Gathers ps spans)
    {span : Span} :
    span ∈ spans ↔ ∃ p ns, p ∈ ps ∧ p.nodes = .ok ns ∧ span ∈ ModuleSpec.Node.calls ns := by
  induction h with
  | nil =>
      simp
  | cons hq _ ih =>
      rw [List.mem_append, ih]
      constructor
      · rintro (hspan | ⟨p, ns, hp, hns, hspan⟩)
        · exact ⟨_, _, List.mem_cons_self, hq, hspan⟩
        · exact ⟨p, ns, List.mem_cons_of_mem _ hp, hns, hspan⟩
      · rintro ⟨p, ns, hp, hns, hspan⟩
        rcases List.mem_cons.1 hp with rfl | hp
        · cases hq.symm.trans hns
          exact .inl hspan
        · exact .inr ⟨p, ns, hp, hns, hspan⟩

end Gathers

/-! ## Places -/

/-- A node and the role in which it is read. -/
structure Place where
  role : Role
  node : Node

namespace Place

/-- The second node is a child of the first, and its reading is part of that of the first. -/
def Keeps (source : Source) (a b : Place) : Prop :=
  b.node ∈ a.node.children ∧
    Part.mk b.role (b.node.read source) ∈
      a.role.kept (a.node.head source) (a.node.children.map (Node.read source))

/-- The reading of a place is put together, over any number of steps, from that of a call. -/
def KeepsCall (source : Source) (a : Place) (call : Node) : Prop :=
  Relation.ReflTransGen (Keeps source) a ⟨.expression, call⟩ ∧ call.IsCall

end Place

section Places

variable {source : Source} {n : Node} {role : Role} {span : Span}

theorem isSome_field?_iff
    {field : String} :
    (Children.field? (n.children.map (Node.read source)) field).isSome = true ↔
      ∃ c, c ∈ n.children ∧ c.field = some field := by
  rw [Children.field?, List.find?_map, Option.isSome_map, List.find?_isSome]
  simp only [Function.comp_apply, Node.field_read, beq_iff_eq]

theorem own?_eq_some_iff :
    role.own? (n.head source) (n.children.map (Node.read source)) = some span ↔
      role = .expression ∧ n.IsCall ∧ n.span source = span := by
  cases role with
  | expression =>
      rw [Role.own?, Option.ite_none_right_eq_some, isSome_field?_iff, Option.some_inj]
      simp only [Node.IsCall, Node.span, Node.kind_head, true_and]
  | _ =>
      simp [Role.own?]

/-- What a node is read as has the calls that its place keeps, and no others. -/
theorem mem_calls_iff
    {ns : List ModuleSpec.Node}
    (h : (Part.mk role (n.read source)).nodes = .ok ns) :
    span ∈ ModuleSpec.Node.calls ns ↔
      ∃ call, Place.KeepsCall source ⟨role, n⟩ call ∧ call.span source = span := by
  -- Every kept part is the reading of a child in some role, so the induction is for all roles.
  induction n using Node.induction generalizing role ns with
  | h n ih =>
      rw [Node.read_eq] at h
      obtain ⟨spans, hgathers, hcalls⟩ := gathers_kept h
      rw [hcalls, List.mem_append, Option.mem_toList, hgathers.mem_iff, own?_eq_some_iff]
      constructor
      · rintro (⟨rfl, hcall, hspan⟩ | ⟨p, ns', hp, hns', hspan⟩)
        · exact ⟨n, ⟨.refl, hcall⟩, hspan⟩
        · obtain ⟨c, hc, hread⟩ := List.mem_map.1 (Role.mem_of_mem_kept hp)
          have hp' : Part.mk p.role (c.read source) = p := by
            rw [hread]
          rw [← hp'] at hp hns'
          obtain ⟨call, ⟨hchain, hcall⟩, hspan⟩ := (ih c hc hns').1 hspan
          exact ⟨call, ⟨hchain.head ⟨hc, hp⟩, hcall⟩, hspan⟩
      · rintro ⟨call, ⟨hchain, hcall⟩, hspan⟩
        rcases hchain.cases_head with heq | ⟨⟨role', c⟩, ⟨hc, hkept⟩, hchain⟩
        · cases heq
          exact .inl ⟨rfl, hcall, hspan⟩
        · obtain ⟨ns', hns'⟩ := hgathers.exists_nodes hkept
          exact .inr ⟨_, ns', hkept, hns', (ih c hc hns').2 ⟨call, ⟨hchain, hcall⟩, hspan⟩⟩

end Places

/-- The calls of a source file are those that its reading keeps. -/
theorem mem_calls_program_iff
    {source : Source}
    {root : Node}
    {program : Program}
    (h : root.program source = .ok program)
    (span : Span) :
    span ∈ program.calls ↔
      ∃ call, Place.KeepsCall source ⟨.statements, root⟩ call ∧ call.span source = span := by
  obtain ⟨body, hbody, rfl⟩ := map_eq_ok_iff.1 h
  have hnodes : (Part.mk .statements (root.read source)).nodes = .ok (body.map .statement) :=
    map_eq_ok_iff.2 ⟨body, hbody, rfl⟩
  rw [Program.calls_eq, mem_calls_iff hnodes]

/-! ## A call that is lost -/

namespace PatternSpec

def source : Source :=
  .ofString "const {a = f()} = g()"

/-- A call without arguments of a function with a name of one letter. -/
def call (field : String) (start : Nat) : Node :=
  .mk "call_expression" true (some field) start (start + 3)
    [.mk "identifier" true (some "function") start (start + 1) [],
      .mk "arguments" true (some "arguments") (start + 1) (start + 3) []]

/-- The default value of the variable. -/
def lost : Node := call "right" 11

def assignment : Node :=
  .mk "object_assignment_pattern" true none 7 14
    [.mk "shorthand_property_identifier_pattern" true (some "left") 7 8 [], lost]

def pattern : Node :=
  .mk "object_pattern" true (some "name") 6 15 [assignment]

def declarator : Node :=
  .mk "variable_declarator" true none 6 21 [pattern, call "value" 18]

def declaration : Node :=
  .mk "lexical_declaration" true none 0 21 [declarator]

/-- A file that declares one variable, by a pattern with a default value. -/
def root : Node :=
  .mk "program" true none 0 21 [declaration]

/-- Of the two calls only the value that the pattern is matched with is kept. -/
theorem exists_program :
    ∃ program, root.program source = .ok program ∧ program.calls = [⟨1, 18, 1, 21⟩] := by
  have hcalls : (root.program source).toOption.map Program.calls = some [⟨1, 18, 1, 21⟩] := by
    decide +kernel
  exact exists_eq_ok_of_toOption hcalls

theorem reaches_lost :
    Relation.ReflTransGen Node.HasNamed root lost := by
  have hdeclaration : root.HasNamed declaration :=
    ⟨List.mem_cons_self, rfl, by decide⟩
  have hdeclarator : declaration.HasNamed declarator :=
    ⟨List.mem_cons_self, rfl, by decide⟩
  have hpattern : declarator.HasNamed pattern :=
    ⟨List.mem_cons_self, rfl, by decide⟩
  have hassignment : pattern.HasNamed assignment :=
    ⟨List.mem_cons_self, rfl, by decide⟩
  have hlost : assignment.HasNamed lost :=
    ⟨List.mem_cons_of_mem _ List.mem_cons_self, rfl, by decide⟩
  exact .head hdeclaration (.head hdeclarator (.head hpattern (.head hassignment (.single hlost))))

end PatternSpec

theorem patternSpec_calls :
    ∃ program, PatternSpec.root.program PatternSpec.source = .ok program ∧
      program.calls = [⟨1, 18, 1, 21⟩] ∧
      ∀ span, span ∈ program.calls ↔
        ∃ call, Place.KeepsCall PatternSpec.source ⟨.statements, PatternSpec.root⟩ call ∧
          call.span PatternSpec.source = span := by
  obtain ⟨program, hprogram, hcalls⟩ := PatternSpec.exists_program
  exact ⟨program, hprogram, hcalls, mem_calls_program_iff hprogram⟩

/-- A call in a default value is beneath named nodes only, and yet it is lost. -/
theorem not_forall_named_call_kept :
    ¬ ∀ (source : Source) (root : Node) program, root.program source = .ok program →
      ∀ call, Relation.ReflTransGen Node.HasNamed root call → call.IsCall →
        call.span source ∈ program.calls := by
  intro hkept
  obtain ⟨program, hprogram, hcalls⟩ := PatternSpec.exists_program
  have hcall : PatternSpec.lost.IsCall :=
    ⟨rfl, _, List.mem_cons_self, rfl⟩
  have hmem := hkept _ _ program hprogram _ PatternSpec.reaches_lost hcall
  have hspan : PatternSpec.lost.span PatternSpec.source ∉ [(⟨1, 18, 1, 21⟩ : Span)] := by
    decide +kernel
  rw [hcalls] at hmem
  exact hspan hmem

end Concrete

end ModuleSpec
