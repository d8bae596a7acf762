import ModuleSpec.Proofs.Concrete.Pairs
import ModuleSpec.Proofs.Result

/-!
# Where the names of bases are written

An interface that a file declares is read from a node of its tree, and each of its
bases from an entry of the extends clause there.  The name of a base is the text of
one node: of the entry itself, or of the name in it when the entry has type
arguments.

**Idea.**  A reading is taken apart along the rules: from a statement to the
declaration that it exports, by induction on the tree, then from the declaration to
its clause, its entries and their names.

**Results.**  `exists_baseName_of_program`: the name of every base of a declared
interface is the text of a node among `Node.baseNames`.
-/

namespace ModuleSpec

namespace Concrete

namespace Node

/-! ## The names of bases -/

/-- The named children of a node, without comments. -/
def namedChildren (n : Node) : List Node :=
  n.children.filter fun c => c.isNamed && c.kind != "comment"

/-- The node that an entry of an extends clause is named by. -/
def baseName? (n : Node) : Option Node :=
  if n.kind = "generic_type" then
    (n.children.find? fun c => c.field == some "name").or n.namedChildren.head?
  else
    some n

/-- The clause of a node that lists the bases of an interface. -/
def extendsClause? (n : Node) : Option Node :=
  n.children.find? fun c => ["extends_type_clause", "extends_clause"].contains c.kind

/-- The nodes that name the bases of one interface. -/
def ownBaseNames (n : Node) : List Node :=
  n.extendsClause?.toList.flatMap fun clause => clause.namedChildren.filterMap baseName?

/-- The nodes that name the bases of the interfaces anywhere in a tree. -/
def baseNames (root : Node) : List Node :=
  (root.nodes.filter fun n => n.kind == "interface_declaration").flatMap ownBaseNames

/-! ## Children and their readings -/

section Children

variable (source : Source) (n : Node)

theorem named_map_read :
    Children.named (n.children.map (read source)) = n.namedChildren.map (read source) := by
  rw [Children.named, namedChildren, List.filter_map]
  congr 1
  refine List.filter_congr fun c _ => ?_
  simp only [Function.comp_apply, head_read, named_head, kind_read]

theorem field?_map_read
    (field : String) :
    Children.field? (n.children.map (read source)) field =
      (n.children.find? fun c => c.field == some field).map (read source) := by
  rw [Children.field?, List.find?_map]
  congr 2
  funext c
  simp only [Function.comp_apply, field_read]

theorem ofKind?_map_read
    (kinds : List String) :
    Children.ofKind? (n.children.map (read source)) kinds =
      (n.children.find? fun c => kinds.contains c.kind).map (read source) := by
  rw [Children.ofKind?, List.find?_map]
  congr 2
  funext c
  simp only [Function.comp_apply, kind_read]

end Children

/-! ## From readings back to nodes -/

section Readings

variable {source : Source} {n : Node}

theorem exists_baseName
    {b : Base}
    (h : (n.read source).base = .ok b) :
    ∃ t, n.baseName? = some t ∧ (t.read source).text = .ok b.name := by
  rw [read_eq] at h
  change readBase _ _ = _ at h
  rw [readBase, kind_head] at h
  rw [baseName?]
  split at h
  case isTrue hgeneric =>
      rw [if_pos hgeneric]
      obtain ⟨g, hg, rfl⟩ := map_eq_ok_iff.1 h
      rw [readGeneric, field?_map_read, named_map_read, List.head?_map, ← Option.map_or] at hg
      cases hname : (n.children.find? fun c => c.field == some "name").or
          n.namedChildren.head? with
      | none =>
          rw [hname] at hg
          cases hg
      | some t =>
          rw [hname] at hg
          obtain ⟨_, -, hg⟩ := bind_eq_ok_iff.1 hg
          obtain ⟨name, htext, hg⟩ := bind_eq_ok_iff.1 hg
          cases hg
          exact ⟨t, rfl, htext⟩
  case isFalse hgeneric =>
      rw [if_neg hgeneric]
      obtain ⟨name, htext, rfl⟩ := map_eq_ok_iff.1 h
      refine ⟨n, rfl, ?_⟩
      rw [Reading.text, head_read]
      exact htext

theorem exists_ownBaseName
    {i : Interface}
    (h : readInterface (n.head source) (n.children.map (read source)) = .ok i)
    {b : Base}
    (hb : b ∈ i.bases) :
    ∃ t, t ∈ n.ownBaseNames ∧ (t.read source).text = .ok b.name := by
  rw [readInterface, ofKind?_map_read] at h
  obtain ⟨name, -, h⟩ := bind_eq_ok_iff.1 h
  obtain ⟨bases, hbases, h⟩ := bind_eq_ok_iff.1 h
  obtain ⟨members, -, h⟩ := bind_eq_ok_iff.1 h
  cases h
  cases hclause : n.children.find? fun c =>
      ["extends_type_clause", "extends_clause"].contains c.kind with
  | none =>
      rw [hclause] at hbases
      cases hbases
      cases hb
  | some clause =>
      rw [hclause] at hbases
      obtain ⟨list, hlist, rfl⟩ := map_eq_ok_iff.1 hbases
      rw [read_eq] at hlist
      change Children.readNamed _ Reading.base = _ at hlist
      rw [Children.readNamed, named_map_read] at hlist
      obtain ⟨r, hr, hbase⟩ := exists_of_mem_mapM hlist hb
      obtain ⟨entry, hentry, rfl⟩ := List.mem_map.1 hr
      obtain ⟨t, ht, htext⟩ := exists_baseName hbase
      refine ⟨t, List.mem_flatMap.2 ⟨clause, ?_, List.mem_filterMap.2 ⟨entry, hentry, ht⟩⟩, htext⟩
      rw [extendsClause?, hclause]
      exact List.mem_singleton_self clause

theorem not_declaration_of_other
    {head : Head}
    {children : Children}
    {d : Declaration}
    (h : readOtherStatement head children = .ok (.declaration d)) :
    False := by
  obtain ⟨_, -, h⟩ := bind_eq_ok_iff.1 h
  cases h

/-- A declaration that is exported is read from a child. -/
theorem exists_exported
    {d : Declaration}
    (h : readExport (n.head source) (n.children.map (read source)) = .ok (.declaration d)) :
    ∃ c, c ∈ n.children ∧ (c.read source).statement = .ok (.declaration d) := by
  unfold readExport at h
  split at h
  case h_1 hfield =>
      obtain ⟨c, hc, rfl⟩ := List.mem_map.1 (List.mem_of_find?_eq_some hfield)
      exact ⟨c, hc, h⟩
  case h_2 =>
      split at h
      · obtain ⟨_, -, h⟩ := map_eq_ok_iff.1 h
        cases h
      · exact (not_declaration_of_other h).elim
  case h_3 => exact (not_declaration_of_other h).elim

/-- A statement that declares an interface has a node in it that is read as the interface. -/
theorem exists_interface_of_statement
    {i : Interface}
    (h : (n.read source).statement = .ok (.declaration (.interface i))) :
    ∃ m, m ∈ n.nodes ∧ m.kind = "interface_declaration" ∧
      readInterface (m.head source) (m.children.map (read source)) = .ok i := by
  induction n using Node.induction with
  | h n ih =>
      have hread := h
      rw [read_eq] at hread
      change readStatement _ _ = _ at hread
      unfold readStatement at hread
      split at hread
      case h_1 hkind =>
          obtain ⟨j, hj, hij⟩ := map_eq_ok_iff.1 hread
          cases hij
          rw [kind_head] at hkind
          refine ⟨n, ?_, hkind, hj⟩
          rw [nodes_eq]
          exact List.mem_cons_self
      case h_2 | h_3 | h_4 | h_5 =>
          obtain ⟨_, -, hread⟩ := map_eq_ok_iff.1 hread
          cases hread
      case h_6 =>
          split at hread
          · obtain ⟨_, -, hread⟩ := map_eq_ok_iff.1 hread
            cases hread
          · exact (not_declaration_of_other hread).elim
      case h_7 =>
          obtain ⟨c, hc, hexported⟩ := exists_exported hread
          obtain ⟨m, hm, hinterface⟩ := ih c hc hexported
          refine ⟨m, ?_, hinterface⟩
          rw [nodes_eq]
          exact List.mem_cons_of_mem n (List.mem_flatMap.2 ⟨c, hc, hm⟩)
      case h_8 =>
          exact (not_declaration_of_other hread).elim

end Readings

end Node

/-- The name of each base of a declared interface is the text of a node. -/
theorem exists_baseName_of_program
    {source : Source}
    {root : Node}
    {program : Program}
    (h : root.program source = .ok program)
    {i : Interface}
    (hi : .declaration (.interface i) ∈ program.body)
    {b : Base}
    (hb : b ∈ i.bases) :
    ∃ t, t ∈ root.baseNames ∧ (t.head source).text = .ok b.name := by
  obtain ⟨body, hbody, rfl⟩ := map_eq_ok_iff.1 h
  rw [Node.read_eq] at hbody
  change Children.readNamed _ Reading.statement = _ at hbody
  rw [Children.readNamed, Node.named_map_read] at hbody
  obtain ⟨r, hr, hstatement⟩ := exists_of_mem_mapM hbody hi
  obtain ⟨n, hn, rfl⟩ := List.mem_map.1 hr
  obtain ⟨m, hm, hkind, hinterface⟩ := Node.exists_interface_of_statement hstatement
  obtain ⟨t, ht, htext⟩ := Node.exists_ownBaseName hinterface hb
  have hmem : m ∈ root.nodes := by
    rw [Node.nodes_eq]
    exact List.mem_cons_of_mem root (List.mem_flatMap.2 ⟨n, (List.mem_filter.1 hn).1, hm⟩)
  refine ⟨t, List.mem_flatMap.2 ⟨m, List.mem_filter.2 ⟨hmem, beq_iff_eq.2 hkind⟩, ht⟩, ?_⟩
  rwa [Reading.text, Node.head_read] at htext

end Concrete

end ModuleSpec
