import Mathlib.Data.List.Basic
import Mathlib.Logic.Relation
import ModuleSpec.Proofs.Bare.Tree

/-!
# Walks without recursion

A tree can be walked by a loop.  It has a stack of nodes that are still to be visited,
the next one last.  In one round the last node is taken off the stack and visited, and its
children are put in its place, the first of them last.

A node stands in a tree at an address: the positions of the children that lead down to it.
The same node can stand at several addresses.

**Idea.**  What has been visited, and after it the walks of the nodes on the stack from the
last to the first, is the same list before a round and after it.  What is left of that list
gets shorter by one node in every round.

**Results.**  `visits_iff`: the loop ends, whatever stack it starts with.
`walk_traverses`: what the loop visits is the walk, and the walk visits every address once.
-/

namespace ModuleSpec

/-! ## Fields -/

/-- What a field of a node holds. -/
inductive Node.Field
  /-- Something that is no node: a name, a flag, a number. -/
  | plain
  /-- A node that could be there and is not. -/
  | absent
  | node (n : Node)
  | tuple (ns : List Node)

namespace Node.Field

def ofOption : Option Node → Field
  | none => absent
  | some n => node n

def ofTuple? : Option (List Node) → Field
  | none => absent
  | some ns => tuple ns

/-- The nodes in a field. -/
def nodes : Field → List Node
  | plain => []
  | absent => []
  | node n => [n]
  | tuple ns => ns

@[simp]
theorem nodes_plain :
    plain.nodes = [] :=
  rfl

@[simp]
theorem nodes_node
    (n : Node) :
    (node n).nodes = [n] :=
  rfl

@[simp]
theorem nodes_tuple
    (ns : List Node) :
    (tuple ns).nodes = ns :=
  rfl

@[simp]
theorem nodes_ofOption
    (o : Option Node) :
    (ofOption o).nodes = o.toList := by
  cases o <;> rfl

@[simp]
theorem nodes_ofTuple?
    (o : Option (List Node)) :
    (ofTuple? o).nodes = o.getD [] := by
  cases o <;> rfl

end Node.Field

namespace Expr

/-- The fields of an expression, its span apart. -/
def fields : Expr → List Node.Field
  | identifier .. => [.plain]
  | string .. => [.plain]
  | number .. => [.plain]
  | boolean .. => [.plain]
  | member object property _ _ => [.node (.expr object), .node (.expr property), .plain]
  | call callee arguments typeArgs _ =>
      [.node (.expr callee), .tuple (arguments.map .expr),
        .ofTuple? (typeArgs.map (List.map .type))]
  | other _ nodes _ => [.plain, .tuple nodes]

end Expr

namespace Ty

def fields : Ty → List Node.Field
  | keyword .. => [.plain]
  | reference _ typeArgs _ => [.plain, .ofTuple? (typeArgs.map (List.map .type))]
  | array element _ => [.node (.type element)]
  | operator _ operand _ => [.plain, .node (.type operand)]
  | literal value _ => [.node (.expr value)]
  | union members _ => [.tuple (members.map .type)]
  | object members _ => [.tuple (members.map .member)]
  | function params result _ => [.tuple (params.map .param), .ofOption (result.map .type)]
  | other .. => [.plain]

end Ty

namespace Member

def fields : Member → List Node.Field
  | property _ type _ _ => [.plain, .ofOption (type.map .type), .plain]
  | method _ params result _ _ =>
      [.plain, .tuple (params.map .param), .ofOption (result.map .type), .plain]
  | other .. => [.plain, .plain]

end Member

namespace Declaration

def fields : Declaration → List Node.Field
  | interface i => [.plain, .tuple (i.bases.map .base), .tuple (i.members.map .member)]
  | typeAlias a => [.plain, .node (.type a.type)]
  | enum e => [.plain, .tuple (e.members.map .enumMember)]

end Declaration

namespace Statement

def fields : Statement → List Node.Field
  | declaration d => d.fields
  | expression value _ => [.node (.expr value)]
  | bindings declarators _ => [.tuple (declarators.map .declarator)]
  | exportDefault value _ => [.node (.expr value)]
  | other _ nodes _ => [.plain, .tuple nodes]

end Statement

namespace Node

/-- The fields of a node, its span apart, in their order. -/
def fields : Node → List Node.Field
  | expr e => e.fields
  | type t => t.fields
  | param p => [.plain, .ofOption (p.type.map .type), .plain]
  | member m => m.fields
  | base b => [.plain, .ofTuple? (b.typeArgs.map (List.map .type))]
  | enumMember m => [.plain, .ofOption (m.value.map .expr)]
  | declarator d => [.plain, .ofOption (d.value.map .expr)]
  | statement s => s.fields
  | program p => [.tuple (p.body.map .statement)]

/-- The children of a node are the nodes in its fields. -/
theorem children_eq_flatMap_fields
    (n : Node) :
    n.children = n.fields.flatMap Field.nodes := by
  cases n with
  | expr e =>
      cases e with
      | call callee arguments typeArgs span =>
          cases typeArgs <;> simp [children, Expr.children, fields, Expr.fields]
      | _ => simp [children, Expr.children, fields, Expr.fields]
  | type t =>
      cases t with
      | reference name typeArgs span =>
          cases typeArgs <;> simp [children, Ty.children, fields, Ty.fields]
      | function params result span =>
          cases result <;> simp [children, Ty.children, fields, Ty.fields]
      | _ => simp [children, Ty.children, fields, Ty.fields]
  | param p =>
      obtain ⟨name, type, optional, span⟩ := p
      cases type <;> simp [children, fields]
  | member m =>
      cases m with
      | property name type optional span =>
          cases type <;> simp [children, Member.children, fields, Member.fields]
      | method name params result optional span =>
          cases result <;> simp [children, Member.children, fields, Member.fields]
      | other kind name span => simp [children, Member.children, fields, Member.fields]
  | base b =>
      obtain ⟨name, typeArgs, span⟩ := b
      cases typeArgs <;> simp [children, fields]
  | enumMember m =>
      obtain ⟨name, value, span⟩ := m
      cases value <;> simp [children, fields]
  | declarator d =>
      obtain ⟨name, value, span⟩ := d
      cases value <;> simp [children, fields]
  | statement s =>
      cases s with
      | declaration d =>
          cases d <;> simp [children, Statement.children, Declaration.children, fields,
            Statement.fields, Declaration.fields]
      | _ => simp [children, Statement.children, fields, Statement.fields]
  | program p => simp [children, fields]

/-! ## Addresses -/

/-- The node at an address. -/
def at? : Node → List Nat → Option Node
  | n, [] => some n
  | n, i :: address => n.children[i]?.bind fun c => c.at? address

/-- The addresses of a tree in the order of its walk. -/
structure Addresses
    (n : Node)
    (addresses : List (List Nat)) : Prop where
  complete : ∀ a, a ∈ addresses ↔ (n.at? a).isSome
  walk : addresses.map n.at? = n.walk.map some
  sorted : addresses.Pairwise (· < ·)

section Addresses

variable {n c : Node} {i : Nat}

theorem at?_cons
    (hc : n.children[i]? = some c)
    (address : List Nat) :
    n.at? (i :: address) = c.at? address := by
  rw [at?, hc, Option.bind_some]

theorem isSome_at?_cons_iff
    {address : List Nat} :
    (n.at? (i :: address)).isSome ↔ ∃ c, n.children[i]? = some c ∧ (c.at? address).isSome := by
  rw [at?]
  cases n.children[i]? <;> simp

/-- The address of a node itself comes first, then those in each child after the other. -/
def addressesFrom (below : Node → List (List Nat)) (n : Node) : List (List Nat) :=
  [] :: n.children.zipIdx.flatMap fun x => (below x.1).map (x.2 :: ·)

theorem mem_addressesFrom_cons_iff
    {below : Node → List (List Nat)}
    {address : List Nat} :
    i :: address ∈ n.addressesFrom below ↔ ∃ c, n.children[i]? = some c ∧ address ∈ below c := by
  simp only [addressesFrom, List.mem_cons, reduceCtorEq, false_or, List.mem_flatMap, List.mem_map,
    List.cons.injEq, List.mem_zipIdx_iff_getElem?]
  constructor
  · rintro ⟨⟨c, _⟩, hc, _, haddress, rfl, rfl⟩
    exact ⟨c, hc, haddress⟩
  · rintro ⟨c, hc, haddress⟩
    exact ⟨(c, i), hc, address, haddress, rfl, rfl⟩

/-- What stands in an earlier child has an earlier address. -/
theorem pairwise_addressesFrom
    {below : Node → List (List Nat)}
    (hbelow : ∀ c, c ∈ n.children → (below c).Pairwise (· < ·)) :
    (n.addressesFrom below).Pairwise (· < ·) := by
  have hpositions : n.children.zipIdx.Pairwise fun x y => x.2 < y.2 := by
    rw [← List.pairwise_map (f := Prod.snd) (R := (· < ·)), List.zipIdx_map_snd]
    exact List.pairwise_lt_range'
  refine List.pairwise_cons.2 ⟨?_, List.pairwise_flatMap.2 ⟨?_, ?_⟩⟩
  · intro a ha
    obtain ⟨x, -, ha⟩ := List.mem_flatMap.1 ha
    obtain ⟨address, -, rfl⟩ := List.mem_map.1 ha
    exact List.nil_lt_cons _ _
  · intro x hx
    have hchild := hbelow x.1 (List.mem_of_getElem? (List.mem_zipIdx_iff_getElem?.1 hx))
    exact List.pairwise_map.2 (hchild.imp fun h => List.cons_lt_cons_iff.2 (.inr ⟨rfl, h⟩))
  · refine hpositions.imp fun {x y} hlt a ha b hb => ?_
    obtain ⟨_, -, rfl⟩ := List.mem_map.1 ha
    obtain ⟨_, -, rfl⟩ := List.mem_map.1 hb
    exact List.cons_lt_cons_iff.2 (.inl hlt)

theorem map_at?_addressesFrom
    {below : Node → List (List Nat)}
    (hbelow : ∀ c, c ∈ n.children → (below c).map c.at? = c.walk.map some) :
    (n.addressesFrom below).map n.at? = n.walk.map some := by
  have hchildren : ∀ x, x ∈ n.children.zipIdx →
      ((below x.1).map (x.2 :: ·)).map n.at? = x.1.walk.map some := by
    intro x hx
    have hchild := List.mem_zipIdx_iff_getElem?.1 hx
    rw [List.map_map, ← hbelow x.1 (List.mem_of_getElem? hchild)]
    exact List.map_congr_left fun address _ => at?_cons hchild address
  rw [addressesFrom, List.map_cons, List.map_flatMap, walk_eq_cons, List.map_cons,
    List.map_flatMap]
  refine congrArg (some n :: ·) ?_
  rw [List.flatMap_def, List.map_congr_left hchildren, ← List.flatMap_def]
  conv_rhs => rw [← List.zipIdx_map_fst 0 n.children, List.flatMap_map]

theorem exists_addresses
    (n : Node) :
    ∃ addresses, n.Addresses addresses := by
  induction n using Node.induction with
  | h n ih =>
    choose! below hbelow using ih
    refine ⟨n.addressesFrom below, ?_, map_at?_addressesFrom fun c hc => (hbelow c hc).walk,
      pairwise_addressesFrom fun c hc => (hbelow c hc).sorted⟩
    intro a
    cases a with
    | nil => exact ⟨fun _ => rfl, fun _ => List.mem_cons_self⟩
    | cons i address =>
        rw [mem_addressesFrom_cons_iff, isSome_at?_cons_iff]
        refine exists_congr fun c => and_congr_right fun hc => ?_
        exact (hbelow c (List.mem_of_getElem? hc)).complete address

/-- Nothing is visited after what stands beneath it, and nothing twice. -/
theorem Addresses.pairwise_not_isPrefix
    {addresses : List (List Nat)}
    (h : n.Addresses addresses) :
    addresses.Pairwise fun a b => ¬ b <+: a :=
  h.sorted.imp fun hlt hprefix => absurd hlt (List.not_lt.2 hprefix.le)

end Addresses

end Node

/-! ## The loop -/

/-- A loop that walks a tree: what is on its stack, and what it has visited. -/
structure Tour where
  stack : List Node
  visited : List Node

namespace Tour

/-- One round: the last node of the stack is visited, and those in its fields take its place. -/
def next? (t : Tour) : Option Tour :=
  t.stack.getLast?.map fun n =>
    ⟨t.stack.dropLast ++ (n.fields.flatMap Node.Field.nodes).reverse, t.visited ++ [n]⟩

/-- What is left to visit. -/
def rest (t : Tour) : List Node :=
  t.stack.reverse.flatMap Node.walk

section Rounds

variable {t u : Tour}

/-- A round visits the next of what is left. -/
theorem next?_eq_some
    (h : t.next? = some u) :
    ∃ n, t.rest = n :: u.rest ∧ u.visited = t.visited ++ [n] := by
  obtain ⟨n, hn, rfl⟩ := Option.map_eq_some_iff.1 h
  obtain ⟨stack, hstack⟩ := List.getLast?_eq_some_iff.1 hn
  refine ⟨n, ?_, rfl⟩
  rw [rest, rest, hstack, List.dropLast_concat, List.reverse_concat, List.flatMap_cons,
    List.reverse_append, List.reverse_reverse, List.flatMap_append, Node.walk_eq_cons,
    Node.children_eq_flatMap_fields]
  rfl

/-- The loop goes on as long as something is left on the stack. -/
theorem next?_eq_none_iff :
    t.next? = none ↔ t.stack = [] := by
  rw [next?, Option.map_eq_none_iff, List.getLast?_eq_none_iff]

/-- Some rounds lead from one state of the loop to another. -/
def Rounds : Tour → Tour → Prop :=
  Relation.ReflTransGen fun t u => t.next? = some u

/-- What has been visited and what is left are one list, which no round changes. -/
theorem Rounds.visited_append_rest
    (h : Rounds t u) :
    u.visited ++ u.rest = t.visited ++ t.rest := by
  induction h with
  | refl => rfl
  | tail _ hround ih =>
      obtain ⟨n, hrest, hvisited⟩ := next?_eq_some hround
      rw [← ih, hvisited, hrest, List.append_assoc, List.singleton_append]

/-- Whatever there is on the stack, some rounds leave nothing on it. -/
theorem exists_rounds
    (t : Tour) :
    ∃ u, Rounds t u ∧ u.stack = [] := by
  induction hlength : t.rest.length using Nat.strongRecOn generalizing t with
  | ind length ih =>
    cases hround : t.next? with
    | none => exact ⟨t, .refl, next?_eq_none_iff.1 hround⟩
    | some next =>
        obtain ⟨n, hrest, -⟩ := next?_eq_some hround
        have hshorter : next.rest.length < length := by
          rw [← hlength, hrest, List.length_cons]
          exact Nat.lt_succ_self _
        obtain ⟨u, hu, hstack⟩ := ih _ hshorter next rfl
        exact ⟨u, .head hround hu, hstack⟩

end Rounds

/-- The loop that starts with a stack ends, and has then visited the given nodes. -/
def Visits (stack visited : List Node) : Prop :=
  Rounds ⟨stack, []⟩ ⟨[], visited⟩

/-- The loop visits the walks of the nodes on its stack, and then ends. -/
theorem visits_iff
    {stack visited : List Node} :
    Visits stack visited ↔ visited = stack.reverse.flatMap Node.walk := by
  constructor
  · intro h
    simpa [rest] using h.visited_append_rest
  · rintro rfl
    obtain ⟨⟨stack', visited⟩, hrounds, hstack⟩ := exists_rounds ⟨stack, []⟩
    obtain rfl : stack' = [] := hstack
    obtain rfl : visited = stack.reverse.flatMap Node.walk := by
      simpa [rest] using hrounds.visited_append_rest
    exact hrounds

end Tour

/-! ## The walk -/

/--
The loop that starts with a node ends, and has visited its walk: the node, and then the
walks of the nodes in its fields, field by field.  Every address of the tree is visited
once, and before those beneath it.  What a test finds among some statements is what it
finds in one after the other.
-/
theorem walk_traverses
    (n : Node) :
    (∀ visited, Tour.Visits [n] visited ↔ visited = n.walk) ∧
      n.walk = n :: (n.fields.flatMap Node.Field.nodes).flatMap Node.walk ∧
      (∃ addresses : List (List Nat),
        (∀ a, a ∈ addresses ↔ (n.at? a).isSome) ∧
          addresses.map n.at? = n.walk.map some ∧
          addresses.Pairwise fun a b => ¬ b <+: a) ∧
      ∀ (test : Node → Bool) (body : List Statement) (span : Span),
        ∃ visited, Tour.Visits (body.map Node.statement).reverse visited ∧
          visited.filter test = body.flatMap (fun s => (Node.statement s).walk.filter test) ∧
          (Node.program ⟨body, span⟩).walk = .program ⟨body, span⟩ :: visited := by
  obtain ⟨addresses, h⟩ := n.exists_addresses
  refine ⟨fun visited => ?_, ?_, ⟨addresses, h.complete, h.walk, h.pairwise_not_isPrefix⟩, ?_⟩
  · rw [Tour.visits_iff, List.reverse_singleton, List.flatMap_singleton]
  · rw [← n.children_eq_flatMap_fields, ← n.walk_eq_cons]
  · intro test body span
    refine ⟨body.flatMap fun s => (Node.statement s).walk, ?_, List.filter_flatMap, ?_⟩
    · rw [Tour.visits_iff, List.reverse_reverse, List.flatMap_map]
    · rw [Node.walk_eq_cons]
      exact congrArg _ (List.flatMap_map _ _ _)

end ModuleSpec
