import Mathlib.Data.List.Forall2
import ModuleSpec.Proofs.Concrete.Complete
import ModuleSpec.Proofs.Concrete.Slices
import ModuleSpec.Proofs.Numeral.Literal

/-!
# Well-formed trees are converted

A tree is well-formed when its nodes lie between characters, when there is something to
name each generic type and each assignment in an enum by, and when its numerals are
numeric literals with finite values.  Nothing is asked of what the nodes are, or of what
stands beneath them: the tree can hold errors, gaps and nodes that no rule knows.

**Idea.**  Each node of a well-formed tree is sound, and a sound node is completely read
when its children are.  So by induction the root is, and as a list of statements above all.

**Results.**  `wellFormed_converts`: a well-formed tree has an abstract tree, in which one
statement stands for each named child of the root, in order.
-/

namespace ModuleSpec

/-- The results of a list of computations stand side by side with what they are from. -/
theorem forall₂_of_mapM
    {α β ε : Type}
    {f : α → Except ε β}
    {as : List α}
    {bs : List β}
    (h : as.mapM f = .ok bs) :
    List.Forall₂ (fun a b => f a = .ok b) as bs := by
  induction as generalizing bs with
  | nil =>
      cases h
      exact .nil
  | cons a as ih =>
      obtain ⟨b, bs, hb, hbs, rfl⟩ := mapM_cons_eq_ok_iff.1 h
      exact .cons hb (ih hbs)

namespace Concrete

namespace Node

/-- The offsets between which a node lies. -/
def offsets : Node → List Nat
  | .mk _ _ _ start stop _ => [start, stop]

/--
The nodes of the tree lie between characters of the text, what has to be named can be,
and the numerals are literals with a finite nearest double.
-/
structure WellFormed (text : String) (root : Node) : Prop where
  offsets : ∀ n ∈ root.nodes, ∀ k ∈ n.offsets, (String.Pos.Raw.mk k).IsValid text
  name : ∀ n ∈ root.nodes, n.kind = "generic_type" ∨ n.kind = "enum_assignment" →
    (∃ c ∈ n.children, c.field = some "name") ∨ n.namedChildren ≠ []
  numeral : ∀ n ∈ root.nodes, n.kind = "number" →
    ∃ l : Numeral.Literal, (n.head (.ofString text)).text = .ok (String.ofList l.text)
      ∧ ∃ x : Double, x.IsNearest l.value ∧ x.isFinite = true

section WellFormed

variable {text : String} {n : Node}

theorem WellFormed.child
    (h : n.WellFormed text)
    {c : Node}
    (hc : c ∈ n.children) :
    c.WellFormed text := by
  have hnodes {m : Node} (hm : m ∈ c.nodes) : m ∈ n.nodes := by
    rw [nodes_eq n]
    exact List.mem_cons_of_mem n (List.mem_flatMap.2 ⟨c, hc, hm⟩)
  exact ⟨fun m hm => h.offsets m (hnodes hm), fun m hm => h.name m (hnodes hm),
    fun m hm => h.numeral m (hnodes hm)⟩

theorem mem_nodes_self (n : Node) : n ∈ n.nodes := by
  rw [nodes_eq]
  exact List.mem_cons_self

/-- A node that lies between characters has a text. -/
theorem WellFormed.reads_text
    (h : n.WellFormed text) :
    Reads (n.head (.ofString text)).text := by
  have hoffsets := h.offsets n n.mem_nodes_self
  obtain ⟨kind, named, field, start, stop, children⟩ := n
  obtain ⟨piece, hpiece⟩ := Source.exists_slice (hoffsets start List.mem_cons_self)
    (hoffsets stop (List.mem_cons_of_mem _ List.mem_cons_self))
  exact ⟨piece, mapError_eq_ok_iff.2 hpiece⟩

theorem WellFormed.sound
    (h : n.WellFormed text) :
    (n.head (.ofString text)).Sound (n.children.map (read (.ofString text))) where
  text := h.reads_text
  number hkind literal hliteral := by
    rw [kind_head] at hkind
    obtain ⟨l, hl, x, hnearest, hfinite⟩ := h.numeral n n.mem_nodes_self hkind
    obtain rfl : String.ofList l.text = literal := Except.ok.inj (hl.symm.trans hliteral)
    refine ⟨x, ?_⟩
    rw [readNumber, String.toList_ofList, Numeral.read_literal hnearest hfinite]
  name hkind := by
    rw [kind_head] at hkind
    rw [field?_map_read, named_map_read, List.head?_map, Ne, Option.or_eq_none_iff,
      Option.map_eq_none_iff, Option.map_eq_none_iff, List.head?_eq_none_iff]
    rintro ⟨hfield, hnamed⟩
    rcases h.name n n.mem_nodes_self hkind with ⟨c, hc, hname⟩ | hne
    · exact List.find?_eq_none.1 hfield c hc (beq_iff_eq.2 hname)
    · exact hne hnamed

/-- Every node of a well-formed tree is completely read. -/
theorem WellFormed.complete
    (h : n.WellFormed text) :
    (n.read (.ofString text)).Complete := by
  induction n using Node.induction with
  | h n ih =>
      rw [read_eq]
      refine complete_ofChildren h.sound fun r hr => ?_
      obtain ⟨c, hc, rfl⟩ := List.mem_map.1 hr
      exact ih c hc (h.child hc)

end WellFormed

end Node

end Concrete

/--
A well-formed tree is converted, whatever its nodes are, and the named children of its
root are its statements, one by one and in order.
-/
theorem wellFormed_converts
    {text : String}
    {root : Concrete.Node}
    (h : root.WellFormed text) :
    ∃ program, root.program (.ofString text) = .ok program
      ∧ List.Forall₂ (fun c s => (c.read (.ofString text)).statement = .ok s)
        root.namedChildren program.body := by
  have hchildren : Concrete.Children.Complete
      (root.children.map (Concrete.Node.read (.ofString text))) := by
    intro r hr
    obtain ⟨c, hc, rfl⟩ := List.mem_map.1 hr
    exact (h.child hc).complete
  obtain ⟨body, hbody⟩ := Concrete.reads_named hchildren fun _ hr => hr.statement
  refine ⟨⟨body, (root.read (.ofString text)).span⟩, ?_, ?_⟩
  · rw [Concrete.Node.program, Concrete.Node.read_eq]
    exact map_eq_ok_iff.2 ⟨body, hbody, rfl⟩
  · rw [Concrete.Children.readNamed, Concrete.Node.named_map_read] at hbody
    exact List.forall₂_map_left_iff.1 (forall₂_of_mapM hbody)

/-! ## A file with an error and a gap in it -/

namespace TornFile

def text : String :=
  "enum E { A = 0x1F }\ntype T = Map<A>; // é\n? 1_0.5e1"

/-- The value in the enum, with a mark and a capital digit. -/
def marked : Concrete.Node :=
  .mk "number" true (some "value") 13 17 []

/-- A numeral with an underscore, a fraction and an exponent. -/
def pointed : Concrete.Node :=
  .mk "number" true none 45 52 []

def enumeration : Concrete.Node :=
  .mk "enum_declaration" true none 0 19
    [.mk "enum" false none 0 4 [],
      .mk "identifier" true (some "name") 5 6 [],
      .mk "enum_body" true (some "body") 7 19
        [.mk "enum_assignment" true none 9 17
          [.mk "property_identifier" true (some "name") 9 10 [],
            .mk "=" false none 11 12 [], marked]]]

/-- An alias; the generic type in it is named by its first child. -/
def aliasMap : Concrete.Node :=
  .mk "type_alias_declaration" true none 20 36
    [.mk "type_identifier" true (some "name") 25 26 [],
      .mk "generic_type" true (some "value") 29 35
        [.mk "type_identifier" true none 29 32 [],
          .mk "type_arguments" true (some "type_arguments") 32 35
            [.mk "type_identifier" true none 33 34 []]]]

/-- A comment that ends with a character of two bytes. -/
def comment : Concrete.Node :=
  .mk "comment" true none 37 42 []

def error : Concrete.Node :=
  .mk "ERROR" true none 43 52
    [.mk "?" false none 43 44 [], pointed]

/-- A name that the parser has added without finding it. -/
def gap : Concrete.Node :=
  .mk "identifier" true none 52 52 []

def root : Concrete.Node :=
  .mk "program" true none 0 52 [enumeration, aliasMap, comment, error, gap]

def integer : Numeral.IntegerLiteral :=
  ⟨.hexadecimal, false,
    ⟨⟨⟨1, Numeral.Base.one_lt_size _⟩, false⟩, [(0, ⟨⟨15, by decide⟩, true⟩)]⟩, false⟩

def decimal : Numeral.DecimalLiteral where
  whole := some ⟨⟨⟨1, Numeral.Base.one_lt_size _⟩, false⟩, [(1, ⟨⟨0, by decide⟩, false⟩)]⟩
  point := true
  fraction := some ⟨⟨⟨5, by decide⟩, false⟩, []⟩
  exponent := some ⟨false, none, ⟨⟨⟨1, Numeral.Base.one_lt_size _⟩, false⟩, []⟩⟩
  some_digits := .inl nofun
  point_of_fraction := nofun

theorem finite_integer : ∃ x : Double, x.IsNearest integer.value ∧ x.isFinite = true :=
  ⟨_, Double.isNearest_ofNat integer.value, by decide +kernel⟩

theorem finite_decimal : ∃ x : Double, x.IsNearest decimal.value ∧ x.isFinite = true := by
  obtain ⟨x, hnearest, hread⟩ := Numeral.read_decimal decimal
  have hfinite : (Numeral.read decimal.text).toOption.map Double.isFinite = some true := by
    decide +kernel
  rw [hread] at hfinite
  exact ⟨x, hnearest, Option.some.inj hfinite⟩

theorem wellFormed_root : root.WellFormed text where
  offsets := by decide +kernel
  name := by decide +kernel
  numeral n hn hkind := by
    have hnumbers : root.nodes.filter (fun n => n.kind == "number") = [marked, pointed] := rfl
    have hmem : n ∈ root.nodes.filter fun n => n.kind == "number" :=
      List.mem_filter.2 ⟨hn, beq_iff_eq.2 hkind⟩
    rw [hnumbers, List.mem_pair] at hmem
    rcases hmem with rfl | rfl
    · exact ⟨.integer integer, by decide +kernel, finite_integer⟩
    · exact ⟨.decimal decimal, by decide +kernel, finite_decimal⟩

end TornFile

/-- The enum, the alias, the error and the gap are statements; the comment is none. -/
theorem tornFile_converts :
    ∃ program, TornFile.root.program (.ofString TornFile.text) = .ok program
      ∧ program.body.length = 4 := by
  obtain ⟨program, hprogram, hbody⟩ := wellFormed_converts TornFile.wellFormed_root
  exact ⟨program, hprogram, hbody.length_eq.symm⟩

end ModuleSpec
