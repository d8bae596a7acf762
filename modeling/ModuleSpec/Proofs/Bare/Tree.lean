import ModuleSpec.Tree.Same
import ModuleSpec.Tree.Size
import ModuleSpec.Tree.Walk

/-!
# Trees without spans

A bare tree says what stands in a file, but not where.  Two trees are equal up to
spans when they are bare the same.

**Results.**  The children of a bare node are those of the node, bare, and so is
its walk (`Node.walk_bare`).  Sizes do not count spans.
-/

namespace ModuleSpec

mutual

def Expr.bare : Expr → Expr
  | .identifier name _ => .identifier name .none
  | .string value _ => .string value .none
  | .number value _ => .number value .none
  | .boolean value _ => .boolean value .none
  | .member object property computed _ => .member object.bare property.bare computed .none
  | .call callee arguments typeArgs _ =>
      .call callee.bare (Expr.bareAll arguments) (Ty.bareArgs typeArgs) .none
  | .other kind children _ => .other kind (Node.bareAll children) .none

def Expr.bareAll : List Expr → List Expr
  | [] => []
  | e :: es => e.bare :: Expr.bareAll es

def Expr.bareOption : Option Expr → Option Expr
  | none => none
  | some e => some e.bare

def Ty.bare : Ty → Ty
  | .keyword word _ => .keyword word .none
  | .reference name typeArgs _ => .reference name (Ty.bareArgs typeArgs) .none
  | .array element _ => .array element.bare .none
  | .operator word operand _ => .operator word operand.bare .none
  | .literal value _ => .literal value.bare .none
  | .union members _ => .union (Ty.bareAll members) .none
  | .object members _ => .object (Member.bareAll members) .none
  | .function params result _ => .function (Param.bareAll params) (Ty.bareOption result) .none
  | .other kind _ => .other kind .none

def Ty.bareAll : List Ty → List Ty
  | [] => []
  | t :: ts => t.bare :: Ty.bareAll ts

def Ty.bareOption : Option Ty → Option Ty
  | none => none
  | some t => some t.bare

def Ty.bareArgs : Option (List Ty) → Option (List Ty)
  | none => none
  | some ts => some (Ty.bareAll ts)

def Param.bare : Param → Param
  | ⟨name, type, optional, _⟩ => ⟨name, Ty.bareOption type, optional, .none⟩

def Param.bareAll : List Param → List Param
  | [] => []
  | p :: ps => p.bare :: Param.bareAll ps

def Member.bare : Member → Member
  | .property name type optional _ => .property name (Ty.bareOption type) optional .none
  | .method name params result optional _ =>
      .method name (Param.bareAll params) (Ty.bareOption result) optional .none
  | .other kind name _ => .other kind name .none

def Member.bareAll : List Member → List Member
  | [] => []
  | m :: ms => m.bare :: Member.bareAll ms

def Base.bare : Base → Base
  | ⟨name, typeArgs, _⟩ => ⟨name, Ty.bareArgs typeArgs, .none⟩

def Base.bareAll : List Base → List Base
  | [] => []
  | b :: bs => b.bare :: Base.bareAll bs

def EnumMember.bare : EnumMember → EnumMember
  | ⟨name, value, _⟩ => ⟨name, Expr.bareOption value, .none⟩

def EnumMember.bareAll : List EnumMember → List EnumMember
  | [] => []
  | m :: ms => m.bare :: EnumMember.bareAll ms

def Declaration.bare : Declaration → Declaration
  | .interface ⟨name, bases, members, _⟩ =>
      .interface ⟨name, Base.bareAll bases, Member.bareAll members, .none⟩
  | .typeAlias ⟨name, type, _⟩ => .typeAlias ⟨name, type.bare, .none⟩
  | .enum ⟨name, members, _⟩ => .enum ⟨name, EnumMember.bareAll members, .none⟩

def Declarator.bare : Declarator → Declarator
  | ⟨name, value, _⟩ => ⟨name, Expr.bareOption value, .none⟩

def Declarator.bareAll : List Declarator → List Declarator
  | [] => []
  | d :: ds => d.bare :: Declarator.bareAll ds

def Statement.bare : Statement → Statement
  | .declaration d => .declaration d.bare
  | .expression value _ => .expression value.bare .none
  | .bindings declarators _ => .bindings (Declarator.bareAll declarators) .none
  | .exportDefault value _ => .exportDefault value.bare .none
  | .other kind children _ => .other kind (Node.bareAll children) .none

def Statement.bareAll : List Statement → List Statement
  | [] => []
  | s :: ss => s.bare :: Statement.bareAll ss

def Program.bare : Program → Program
  | ⟨body, _⟩ => ⟨Statement.bareAll body, .none⟩

/-- The node and all beneath it, without their spans. -/
def Node.bare : Node → Node
  | .expr e => .expr e.bare
  | .type t => .type t.bare
  | .param p => .param p.bare
  | .member m => .member m.bare
  | .base b => .base b.bare
  | .enumMember m => .enumMember m.bare
  | .declarator d => .declarator d.bare
  | .statement s => .statement s.bare
  | .program p => .program p.bare

def Node.bareAll : List Node → List Node
  | [] => []
  | n :: ns => n.bare :: Node.bareAll ns

end

/-! ## Lists of nodes -/

@[simp]
theorem Expr.bareAll_eq_map
    (es : List Expr) :
    Expr.bareAll es = es.map Expr.bare := by
  induction es with
  | nil => rfl
  | cons e es ih => simp [Expr.bareAll, ih]

@[simp]
theorem Expr.bareOption_eq_map
    (o : Option Expr) :
    Expr.bareOption o = o.map Expr.bare := by
  cases o <;> rfl

@[simp]
theorem Ty.bareAll_eq_map
    (ts : List Ty) :
    Ty.bareAll ts = ts.map Ty.bare := by
  induction ts with
  | nil => rfl
  | cons t ts ih => simp [Ty.bareAll, ih]

@[simp]
theorem Ty.bareOption_eq_map
    (o : Option Ty) :
    Ty.bareOption o = o.map Ty.bare := by
  cases o <;> rfl

@[simp]
theorem Ty.bareArgs_eq_map
    (o : Option (List Ty)) :
    Ty.bareArgs o = o.map (List.map Ty.bare) := by
  cases o <;> simp [Ty.bareArgs]

@[simp]
theorem Param.bareAll_eq_map
    (ps : List Param) :
    Param.bareAll ps = ps.map Param.bare := by
  induction ps with
  | nil => rfl
  | cons p ps ih => simp [Param.bareAll, ih]

@[simp]
theorem Member.bareAll_eq_map
    (ms : List Member) :
    Member.bareAll ms = ms.map Member.bare := by
  induction ms with
  | nil => rfl
  | cons m ms ih => simp [Member.bareAll, ih]

@[simp]
theorem Base.bareAll_eq_map
    (bs : List Base) :
    Base.bareAll bs = bs.map Base.bare := by
  induction bs with
  | nil => rfl
  | cons b bs ih => simp [Base.bareAll, ih]

@[simp]
theorem EnumMember.bareAll_eq_map
    (ms : List EnumMember) :
    EnumMember.bareAll ms = ms.map EnumMember.bare := by
  induction ms with
  | nil => rfl
  | cons m ms ih => simp [EnumMember.bareAll, ih]

@[simp]
theorem Declarator.bareAll_eq_map
    (ds : List Declarator) :
    Declarator.bareAll ds = ds.map Declarator.bare := by
  induction ds with
  | nil => rfl
  | cons d ds ih => simp [Declarator.bareAll, ih]

@[simp]
theorem Statement.bareAll_eq_map
    (ss : List Statement) :
    Statement.bareAll ss = ss.map Statement.bare := by
  induction ss with
  | nil => rfl
  | cons s ss ih => simp [Statement.bareAll, ih]

@[simp]
theorem Node.bareAll_eq_map
    (ns : List Node) :
    Node.bareAll ns = ns.map Node.bare := by
  induction ns with
  | nil => rfl
  | cons n ns ih => simp [Node.bareAll, ih]

/-! ## The parts of a node -/

@[simp]
theorem Member.name_bare
    (m : Member) :
    m.bare.name = m.name := by
  cases m <;> simp [Member.bare, Member.name]

@[simp]
theorem Declaration.name_bare
    (d : Declaration) :
    d.bare.name = d.name := by
  obtain ⟨name, bases, members, span⟩ | ⟨name, type, span⟩ | ⟨name, members, span⟩ := d <;>
    simp [Declaration.bare, Declaration.name]

/-- The children of a bare node are those of the node, bare. -/
theorem Node.children_bare
    (n : Node) :
    n.bare.children = n.children.map Node.bare := by
  cases n with
  | expr e =>
      cases e with
      | call callee arguments typeArgs span =>
          cases typeArgs <;>
            simp [Node.bare, Expr.bare, Node.children, Expr.children, Function.comp_def]
      | _ => simp [Node.bare, Expr.bare, Node.children, Expr.children]
  | type t =>
      cases t with
      | reference name typeArgs span =>
          cases typeArgs <;> simp [Node.bare, Ty.bare, Node.children, Ty.children]
      | function params result span =>
          cases result <;> simp [Node.bare, Ty.bare, Node.children, Ty.children]
      | _ => simp [Node.bare, Ty.bare, Node.children, Ty.children]
  | param p =>
      obtain ⟨name, type, optional, span⟩ := p
      cases type <;> simp [Node.bare, Param.bare, Node.children]
  | member m =>
      cases m with
      | property name type optional span =>
          cases type <;> simp [Node.bare, Member.bare, Node.children, Member.children]
      | method name params result optional span =>
          cases result <;> simp [Node.bare, Member.bare, Node.children, Member.children]
      | other kind name span =>
          simp [Node.bare, Member.bare, Node.children, Member.children]
  | base b =>
      obtain ⟨name, typeArgs, span⟩ := b
      cases typeArgs <;> simp [Node.bare, Base.bare, Node.children]
  | enumMember m =>
      obtain ⟨name, value, span⟩ := m
      cases value <;> simp [Node.bare, EnumMember.bare, Node.children]
  | declarator d =>
      obtain ⟨name, value, span⟩ := d
      cases value <;> simp [Node.bare, Declarator.bare, Node.children]
  | statement s =>
      cases s with
      | declaration d =>
          obtain ⟨name, bases, members, span⟩ | ⟨name, type, span⟩ | ⟨name, members, span⟩ := d <;>
            simp [Node.bare, Statement.bare, Declaration.bare, Node.children, Statement.children,
              Declaration.children, Function.comp_def]
      | _ => simp [Node.bare, Statement.bare, Node.children, Statement.children]
  | program p =>
      obtain ⟨body, span⟩ := p
      simp [Node.bare, Program.bare, Node.children]

/-- What holds of a node when it holds of its children holds of every node. -/
@[elab_as_elim]
theorem Node.induction
    {motive : Node → Prop}
    (h : ∀ n, (∀ c, c ∈ n.children → motive c) → motive n)
    (n : Node) :
    motive n :=
  h n fun c _ => Node.induction h c
termination_by n.walk.length
decreasing_by
  -- A child has a shorter walk than the node it stands beneath.
  rename_i hc
  have hsublist : c.walk.Sublist (n.children.flatMap Node.walk) :=
    List.sublist_flatten_of_mem (List.mem_map.2 ⟨c, hc, rfl⟩)
  rw [Node.walk_eq_cons n, List.length_cons]
  exact Nat.lt_succ_of_le hsublist.length_le

/-- The walk of a bare node is that of the node, bare. -/
theorem Node.walk_bare
    (n : Node) :
    n.bare.walk = n.walk.map Node.bare := by
  induction n using Node.induction with
  | h n ih =>
      rw [Node.walk_eq_cons, Node.walk_eq_cons n, Node.children_bare, List.map_cons,
        List.flatMap_map, List.map_flatMap]
      refine congrArg (n.bare :: ·) ?_
      simp only [List.flatMap]
      exact congrArg List.flatten (List.map_congr_left ih)

/-! ## Sizes -/

mutual

theorem Ty.size_bare : ∀ t : Ty, t.bare.size = t.size
  | .keyword .. => rfl
  | .reference _ none _ => rfl
  | .reference _ (some typeArgs) _ => congrArg (1 + ·) (Ty.sizeAll_bare typeArgs)
  | .array element _ => congrArg (1 + ·) (Ty.size_bare element)
  | .operator _ operand _ => congrArg (1 + ·) (Ty.size_bare operand)
  | .literal .. => rfl
  | .union members _ => congrArg (1 + ·) (Ty.sizeAll_bare members)
  | .object members _ => congrArg (1 + ·) (Member.sizeAll_bare members)
  | .function params result _ => by
      have hparams := Param.sizeAll_bare params
      have hresult := Ty.sizeOption_bare result
      rw [Ty.bare, Ty.size, hparams, hresult, Ty.size]
  | .other .. => rfl

theorem Ty.sizeAll_bare : ∀ ts : List Ty, Ty.sizeAll (Ty.bareAll ts) = Ty.sizeAll ts
  | [] => rfl
  | t :: ts => by rw [Ty.bareAll, Ty.sizeAll, Ty.size_bare t, Ty.sizeAll_bare ts, Ty.sizeAll]

theorem Ty.sizeOption_bare : ∀ o : Option Ty, Ty.sizeOption (Ty.bareOption o) = Ty.sizeOption o
  | none => rfl
  | some t => Ty.size_bare t

theorem Param.size_bare : ∀ p : Param, p.bare.size = p.size
  | ⟨_, type, _, _⟩ => congrArg (1 + ·) (Ty.sizeOption_bare type)

theorem Param.sizeAll_bare : ∀ ps : List Param, Param.sizeAll (Param.bareAll ps) = Param.sizeAll ps
  | [] => rfl
  | p :: ps => by
      rw [Param.bareAll, Param.sizeAll, Param.size_bare p, Param.sizeAll_bare ps, Param.sizeAll]

theorem Member.size_bare : ∀ m : Member, m.bare.size = m.size
  | .property _ type _ _ => congrArg (1 + ·) (Ty.sizeOption_bare type)
  | .method _ params result _ _ => by
      have hparams := Param.sizeAll_bare params
      have hresult := Ty.sizeOption_bare result
      rw [Member.bare, Member.size, hparams, hresult, Member.size]
  | .other .. => rfl

theorem Member.sizeAll_bare :
    ∀ ms : List Member, Member.sizeAll (Member.bareAll ms) = Member.sizeAll ms
  | [] => rfl
  | m :: ms => by
      rw [Member.bareAll, Member.sizeAll, Member.size_bare m, Member.sizeAll_bare ms,
        Member.sizeAll]

end

end ModuleSpec
