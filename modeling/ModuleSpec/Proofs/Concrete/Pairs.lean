import ModuleSpec.Proofs.Concrete.Alike
import ModuleSpec.Proofs.Concrete.Strip

/-!
# Two trees side by side

Two trees of the same shape are gone through side by side.  What is looked at next
depends on the shape and on the texts read so far.  So as long as the texts are the
same both are looked at in the same places.

**Results.**  A use looks at the same children of two nodes of the same shape, but
for an operator (`Use.looksFollow`).  Nodes of the same shape whose texts are the
same are read alike (`alikeIn_of_texts_eq`), by induction on the tree.
-/

namespace ModuleSpec

namespace Concrete

/-! ## Looks of two trees -/

section Congr

variable {α : Type} {view view' : α → Head} {children : List α} {head head' : Head}

/-- The two views show the same but for what is written there and where. -/
structure SameHeads (view view' : α → Head) : Prop where
  kind : ∀ a, (view' a).kind = (view a).kind
  named : ∀ a, (view' a).named = (view a).named
  field : ∀ a, (view' a).field = (view a).field

/-- Looks that are the same, or are the same once an operator is. -/
def LooksFollow
    (view view' : α → Head)
    (looks looks' : List (Look α)) : Prop :=
  looks' = looks ∨
    ∃ operator rest rest',
      looks = .child .text operator :: rest ∧ looks' = .child .text operator :: rest' ∧
        ((view operator).text = (view' operator).text → rest' = rest)

theorem looksFollow_unary
    (h : SameHeads view view') :
    LooksFollow view view' (lookUnary view children) (lookUnary view' children) := by
  simp only [lookUnary, lookNamed, selectField?, selectNamed, h.kind, h.named, h.field]
  split
  · split
    · refine .inr ⟨_, _, _, rfl, rfl, fun htext => ?_⟩
      rw [htext]
    · exact .inl rfl
  · exact .inl rfl

/-- A use looks at the same children of two nodes, until an operator is another. -/
theorem Use.looksFollow
    (h : SameHeads view view')
    (hkind : head'.kind = head.kind)
    (use : Use) :
    LooksFollow view view' (use.looks view children head) (use.looks view' children head') := by
  cases use with
  | text => exact .inl rfl
  | name => exact .inl (by simp only [Use.looks, lookName, lookString, h.kind, hkind])
  | part role =>
      cases role with
      | expression =>
          simp only [Use.looks, Role.looks, lookExpression, hkind]
          split
          case h_8 => exact looksFollow_unary h
          all_goals
            exact .inl (by simp only [lookString, lookAccess, lookCall, lookNamed, selectField?,
              selectNamed, h.kind, h.named, h.field])
      | _ =>
          refine .inl ?_
          simp only [Use.looks, Role.looks, lookStatement, lookType, lookMember, lookBase,
            lookEnumMember, lookName, lookString, lookInterface, lookNameAnd, lookDeclarators,
            lookExport, lookGeneric, lookLiteral, lookUnion, lookInner, lookSignature,
            lookParameter, lookParameters, lookNamed, selectField?, selectKind?, selectNamed,
            h.kind, h.named, h.field, hkind]

end Congr

/-- A use of a node looks at its children only. -/
theorem Use.mem_of_mem_looks
    {α : Type}
    {view : α → Head}
    {children : List α}
    {head : Head}
    {use use' : Use}
    {a : α}
    (h : .child use' a ∈ use.looks view children head) :
    a ∈ children := by
  have hlooks := use.looks_map view Subtype.val children.attach head
  rw [List.attach_map_subtype_val] at hlooks
  rw [hlooks] at h
  obtain ⟨look, -, hlook⟩ := List.mem_map.1 h
  cases look with
  | own => cases hlook
  | child use b =>
      cases hlook
      exact b.2

/-! ## Pairs of nodes of the same shape -/

namespace Node

mutual

/-- The tree without the offsets between which its nodes lie. -/
def shape : Node → Node
  | .mk kind named field _ _ children => .mk kind named field 0 0 (shapeAll children)

def shapeAll : List Node → List Node
  | [] => []
  | n :: ns => n.shape :: shapeAll ns

end

theorem shapeAll_eq_map
    (ns : List Node) :
    shapeAll ns = ns.map shape := by
  induction ns with
  | nil => rfl
  | cons n ns ih => rw [shapeAll, ih, List.map_cons]

/-- Nodes that are alike in all but their offsets. -/
structure Matches (n n' : Node) : Prop where
  kind : n'.kind = n.kind
  named : n'.isNamed = n.isNamed
  field : n'.field = n.field
  children : n.children.map shape = n'.children.map shape

theorem matches_of_shape_eq
    {n n' : Node}
    (h : n.shape = n'.shape) :
    n.Matches n' := by
  obtain ⟨kind, named, field, start, stop, children⟩ := n
  obtain ⟨kind', named', field', start', stop', children'⟩ := n'
  simp only [shape, shapeAll_eq_map, mk.injEq, true_and] at h
  obtain ⟨hkind, hnamed, hfield, hchildren⟩ := h
  exact ⟨hkind.symm, hnamed.symm, hfield.symm, hchildren⟩

theorem named_head
    (source : Source)
    (n : Node) :
    (n.head source).named = n.isNamed := by
  obtain ⟨kind, named, field, start, stop, children⟩ := n
  rfl

theorem field_head
    (source : Source)
    (n : Node) :
    (n.head source).field = n.field := by
  obtain ⟨kind, named, field, start, stop, children⟩ := n
  rfl

theorem head_read
    (source : Source)
    (n : Node) :
    (n.read source).head = n.head source := by
  obtain ⟨kind, named, field, start, stop, children⟩ := n
  rfl

end Node

/-- Two nodes of the same shape. -/
structure Pair where
  first : Node
  second : Node
  shape : first.shape = second.shape

theorem Pair.matches_second (p : Pair) : p.first.Matches p.second :=
  Node.matches_of_shape_eq p.shape

/-- Lists of nodes of the same shapes are lists of pairs. -/
theorem exists_pairs
    {ns ns' : List Node}
    (h : ns.map Node.shape = ns'.map Node.shape) :
    ∃ ps : List Pair, ps.map Pair.first = ns ∧ ps.map Pair.second = ns' := by
  induction ns generalizing ns' with
  | nil =>
      cases ns' with
      | nil => exact ⟨[], rfl, rfl⟩
      | cons n' ns' => cases h
  | cons n ns ih =>
      cases ns' with
      | nil => cases h
      | cons n' ns' =>
          obtain ⟨hshape, htail⟩ := List.cons.inj h
          obtain ⟨ps, rfl, rfl⟩ := ih htail
          exact ⟨⟨n, n', hshape⟩ :: ps, rfl, rfl⟩

namespace Node

theorem texts_text
    (source : Source)
    (n : Node) :
    n.texts source .text = [(n.head source).text] := by
  rw [texts_eq]
  rfl

end Node

section Pairs

variable {source source' : Source}

/-- The readings of a pair of nodes. -/
def Pair.twin (source source' : Source) (p : Pair) : Twin where
  first := p.first.read source
  second := p.second.read source'
  kind := by rw [Node.kind_read, Node.kind_read, p.matches_second.kind]
  named := by
    rw [Node.head_read, Node.head_read, Node.named_head, Node.named_head, p.matches_second.named]
  field := by rw [Node.field_read, Node.field_read, p.matches_second.field]

theorem sameHeads_pair :
    SameHeads (Node.head source ∘ Pair.first) (Node.head source' ∘ Pair.second) where
  kind p := by simp only [Function.comp_apply, Node.kind_head, p.matches_second.kind]
  named p := by simp only [Function.comp_apply, Node.named_head, p.matches_second.named]
  field p := by simp only [Function.comp_apply, Node.field_head, p.matches_second.field]

/-- The texts of a node, by what its looks are at. -/
theorem texts_eq_of_children
    {use : Use}
    {n : Node}
    {ps : List Pair}
    {f : Pair → Node}
    (h : ps.map f = n.children) :
    n.texts source use =
      (use.looks (Node.head source ∘ f) ps (n.head source)).flatMap
        (Look.texts (n.head source) fun p u => (f p).texts source u) := by
  rw [Node.texts_eq, ← h, Use.looks_map, List.flatMap_map]
  congr 1
  funext look
  cases look <;> rfl

/-- The same texts in a row come from the same looks, each at the same texts. -/
theorem looksAlike_of_texts_eq
    {head head' : Head}
    {looks : List (Look Pair)}
    (ih : ∀ use p, .child use p ∈ looks → ∀ l l' : List (Read String),
      p.first.texts source use ++ l = p.second.texts source' use ++ l' →
        (p.twin source source').Alike use ∧ l = l')
    {l l' : List (Read String)}
    (h : looks.flatMap (Look.texts head fun p u => p.first.texts source u) ++ l =
      looks.flatMap (Look.texts head' fun p u => p.second.texts source' u) ++ l') :
    LooksAlike head head' (looks.map (Look.map (Pair.twin source source'))) ∧ l = l' := by
  induction looks with
  | nil => exact ⟨.nil, h⟩
  | cons look looks ihlooks =>
      rw [List.flatMap_cons, List.flatMap_cons, List.append_assoc, List.append_assoc] at h
      have ihlooks := ihlooks fun use p hp => ih use p (List.mem_cons_of_mem look hp)
      cases look with
      | own =>
          simp only [Look.texts, List.singleton_append, List.cons.injEq] at h
          obtain ⟨halike, hl⟩ := ihlooks h.2
          exact ⟨halike.cons_own (h.1 ▸ .refl _), hl⟩
      | child use p =>
          simp only [Look.texts] at h
          obtain ⟨hp, h⟩ := ih use p List.mem_cons_self _ _ h
          obtain ⟨halike, hl⟩ := ihlooks h
          exact ⟨halike.cons_child hp, hl⟩

/-- Of nodes of the same shape whose texts are the same the readings are alike. -/
theorem alikeIn_of_texts_eq
    {n n' : Node}
    (hshape : n.shape = n'.shape)
    {use : Use}
    {l l' : List (Read String)}
    (h : n.texts source use ++ l = n'.texts source' use ++ l') :
    AlikeIn use (n.read source) (n'.read source') ∧ l = l' := by
  -- The texts of a node are followed by others, so the induction is for any that follow.
  induction n using Node.induction generalizing n' use l l' with
  | h n ih =>
      have hmatches := Node.matches_of_shape_eq hshape
      obtain ⟨ps, hfirst, hsecond⟩ := exists_pairs hmatches.children
      have hheads : (n'.head source').kind = (n.head source).kind := by
        rw [Node.kind_head, Node.kind_head, hmatches.kind]
      rw [texts_eq_of_children hfirst, texts_eq_of_children hsecond] at h
      have hlooks : use.looks (Node.head source' ∘ Pair.second) ps (n'.head source') =
          use.looks (Node.head source ∘ Pair.first) ps (n.head source) := by
        rcases use.looksFollow sameHeads_pair hheads with heq | ⟨operator, rest, rest', hl, hl', hop⟩
        · exact heq
        · rw [hl, hl', List.flatMap_cons, List.flatMap_cons, Look.texts, Look.texts,
            Node.texts_text, Node.texts_text] at h
          rw [hl, hl', hop (List.cons.inj h).1]
      rw [hlooks] at h
      obtain ⟨halike, hl⟩ := looksAlike_of_texts_eq (fun use' p hp l l' hp' => by
        have hchild : p.first ∈ n.children := by
          rw [← hfirst]
          exact List.mem_map.2 ⟨p, Use.mem_of_mem_looks hp, rfl⟩
        exact ih p.first hchild p.shape hp') h
      have hview : Twin.head ∘ Pair.twin source source' = Node.head source ∘ Pair.first :=
        funext fun p => Node.head_read source p.first
      rw [← hview, ← Use.looks_map] at halike
      have hofChildren := alike_ofChildren hheads halike
      rw [List.map_map, List.map_map] at hofChildren
      refine ⟨?_, hl⟩
      rw [Node.read_eq, Node.read_eq, ← hfirst, ← hsecond, List.map_map, List.map_map]
      exact hofChildren

end Pairs

end Concrete

end ModuleSpec
