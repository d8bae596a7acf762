import ModuleSpec.Tree.Basic

/-!
# Walking a tree

The nodes of a tree in the order of the source: each node first, then what
stands beneath it, field by field and from left to right.

**Results.**  The walk of a node is the node followed by the walks of its
children.  The walk of a list of nodes is the walks of its entries, one after
the other.
-/

namespace ModuleSpec

mutual

def Expr.walk : Expr → List Node
  | e@(.identifier ..) => [.expr e]
  | e@(.string ..) => [.expr e]
  | e@(.number ..) => [.expr e]
  | e@(.boolean ..) => [.expr e]
  | e@(.member object property _ _) => .expr e :: (object.walk ++ property.walk)
  | e@(.call callee arguments none _) =>
      .expr e :: (callee.walk ++ Expr.walkAll arguments)
  | e@(.call callee arguments (some typeArgs) _) =>
      .expr e :: (callee.walk ++ Expr.walkAll arguments ++ Ty.walkAll typeArgs)
  | e@(.other _ children _) => .expr e :: Node.walkAll children

def Expr.walkAll : List Expr → List Node
  | [] => []
  | e :: es => e.walk ++ Expr.walkAll es

def Expr.walkOption : Option Expr → List Node
  | none => []
  | some e => e.walk

def Ty.walk : Ty → List Node
  | t@(.keyword ..) => [.type t]
  | t@(.reference _ none _) => [.type t]
  | t@(.reference _ (some typeArgs) _) => .type t :: Ty.walkAll typeArgs
  | t@(.array element _) => .type t :: element.walk
  | t@(.operator _ operand _) => .type t :: operand.walk
  | t@(.literal value _) => .type t :: value.walk
  | t@(.union members _) => .type t :: Ty.walkAll members
  | t@(.object members _) => .type t :: Member.walkAll members
  | t@(.function params result _) => .type t :: (Param.walkAll params ++ Ty.walkOption result)
  | t@(.other ..) => [.type t]

def Ty.walkAll : List Ty → List Node
  | [] => []
  | t :: ts => t.walk ++ Ty.walkAll ts

def Ty.walkOption : Option Ty → List Node
  | none => []
  | some t => t.walk

def Param.walk : Param → List Node
  | ⟨name, type, optional, span⟩ =>
      .param ⟨name, type, optional, span⟩ :: Ty.walkOption type

def Param.walkAll : List Param → List Node
  | [] => []
  | p :: ps => p.walk ++ Param.walkAll ps

def Member.walk : Member → List Node
  | m@(.property _ type _ _) => .member m :: Ty.walkOption type
  | m@(.method _ params result _ _) => .member m :: (Param.walkAll params ++ Ty.walkOption result)
  | m@(.other ..) => [.member m]

def Member.walkAll : List Member → List Node
  | [] => []
  | m :: ms => m.walk ++ Member.walkAll ms

def Base.walk : Base → List Node
  | ⟨name, none, span⟩ => [.base ⟨name, none, span⟩]
  | ⟨name, some typeArgs, span⟩ => .base ⟨name, some typeArgs, span⟩ :: Ty.walkAll typeArgs

def Base.walkAll : List Base → List Node
  | [] => []
  | b :: bs => b.walk ++ Base.walkAll bs

def EnumMember.walk : EnumMember → List Node
  | ⟨name, value, span⟩ => .enumMember ⟨name, value, span⟩ :: Expr.walkOption value

def EnumMember.walkAll : List EnumMember → List Node
  | [] => []
  | m :: ms => m.walk ++ EnumMember.walkAll ms

def Declaration.walk : Declaration → List Node
  | .interface ⟨name, bases, members, span⟩ =>
      .statement (.declaration (.interface ⟨name, bases, members, span⟩))
        :: (Base.walkAll bases ++ Member.walkAll members)
  | .typeAlias ⟨name, type, span⟩ =>
      .statement (.declaration (.typeAlias ⟨name, type, span⟩)) :: type.walk
  | .enum ⟨name, members, span⟩ =>
      .statement (.declaration (.enum ⟨name, members, span⟩)) :: EnumMember.walkAll members

def Declarator.walk : Declarator → List Node
  | ⟨name, value, span⟩ => .declarator ⟨name, value, span⟩ :: Expr.walkOption value

def Declarator.walkAll : List Declarator → List Node
  | [] => []
  | d :: ds => d.walk ++ Declarator.walkAll ds

def Statement.walk : Statement → List Node
  | .declaration decl => decl.walk
  | s@(.expression value _) => .statement s :: value.walk
  | s@(.bindings declarators _) => .statement s :: Declarator.walkAll declarators
  | s@(.exportDefault value _) => .statement s :: value.walk
  | s@(.other _ children _) => .statement s :: Node.walkAll children

def Statement.walkAll : List Statement → List Node
  | [] => []
  | s :: ss => s.walk ++ Statement.walkAll ss

def Program.walk : Program → List Node
  | ⟨body, span⟩ => .program ⟨body, span⟩ :: Statement.walkAll body

/-- The node and every node beneath it, in the order of the source. -/
def Node.walk : Node → List Node
  | .expr e => e.walk
  | .type t => t.walk
  | .param p => p.walk
  | .member m => m.walk
  | .base b => b.walk
  | .enumMember m => m.walk
  | .declarator d => d.walk
  | .statement s => s.walk
  | .program p => p.walk

def Node.walkAll : List Node → List Node
  | [] => []
  | n :: ns => n.walk ++ Node.walkAll ns

end

/-! ## Children -/

namespace Expr

def children : Expr → List Node
  | member object property _ _ => [.expr object, .expr property]
  | call callee arguments typeArgs _ =>
      .expr callee :: (arguments.map .expr ++ (typeArgs.getD []).map .type)
  | other _ nodes _ => nodes
  | _ => []

end Expr

namespace Ty

def children : Ty → List Node
  | reference _ typeArgs _ => (typeArgs.getD []).map .type
  | array element _ => [.type element]
  | operator _ operand _ => [.type operand]
  | literal value _ => [.expr value]
  | union members _ => members.map .type
  | object members _ => members.map .member
  | function params result _ => params.map .param ++ result.toList.map .type
  | _ => []

end Ty

namespace Member

def children : Member → List Node
  | property _ type _ _ => type.toList.map .type
  | method _ params result _ _ => params.map .param ++ result.toList.map .type
  | other .. => []

end Member

namespace Declaration

def children : Declaration → List Node
  | interface i => i.bases.map .base ++ i.members.map .member
  | typeAlias a => [.type a.type]
  | enum e => e.members.map .enumMember

end Declaration

namespace Statement

def children : Statement → List Node
  | declaration d => d.children
  | expression value _ => [.expr value]
  | bindings declarators _ => declarators.map .declarator
  | exportDefault value _ => [.expr value]
  | other _ nodes _ => nodes

end Statement

namespace Node

/-- The nodes directly beneath a node, field by field. -/
def children : Node → List Node
  | expr e => e.children
  | type t => t.children
  | param p => p.type.toList.map .type
  | member m => m.children
  | base b => (b.typeArgs.getD []).map .type
  | enumMember m => m.value.toList.map .expr
  | declarator d => d.value.toList.map .expr
  | statement s => s.children
  | program p => p.body.map .statement

end Node

/-! ## Lists of nodes -/

theorem Expr.walkAll_eq_flatMap
    (es : List Expr) :
    Expr.walkAll es = es.flatMap Expr.walk := by
  induction es with
  | nil =>
      rfl
  | cons e es ih =>
      simp [Expr.walkAll, ih]

theorem Ty.walkAll_eq_flatMap
    (ts : List Ty) :
    Ty.walkAll ts = ts.flatMap Ty.walk := by
  induction ts with
  | nil =>
      rfl
  | cons t ts ih =>
      simp [Ty.walkAll, ih]

theorem Param.walkAll_eq_flatMap
    (ps : List Param) :
    Param.walkAll ps = ps.flatMap Param.walk := by
  induction ps with
  | nil =>
      rfl
  | cons p ps ih =>
      simp [Param.walkAll, ih]

theorem Member.walkAll_eq_flatMap
    (ms : List Member) :
    Member.walkAll ms = ms.flatMap Member.walk := by
  induction ms with
  | nil =>
      rfl
  | cons m ms ih =>
      simp [Member.walkAll, ih]

theorem Base.walkAll_eq_flatMap
    (bs : List Base) :
    Base.walkAll bs = bs.flatMap Base.walk := by
  induction bs with
  | nil =>
      rfl
  | cons b bs ih =>
      simp [Base.walkAll, ih]

theorem EnumMember.walkAll_eq_flatMap
    (ms : List EnumMember) :
    EnumMember.walkAll ms = ms.flatMap EnumMember.walk := by
  induction ms with
  | nil =>
      rfl
  | cons m ms ih =>
      simp [EnumMember.walkAll, ih]

theorem Declarator.walkAll_eq_flatMap
    (ds : List Declarator) :
    Declarator.walkAll ds = ds.flatMap Declarator.walk := by
  induction ds with
  | nil =>
      rfl
  | cons d ds ih =>
      simp [Declarator.walkAll, ih]

theorem Statement.walkAll_eq_flatMap
    (ss : List Statement) :
    Statement.walkAll ss = ss.flatMap Statement.walk := by
  induction ss with
  | nil =>
      rfl
  | cons s ss ih =>
      simp [Statement.walkAll, ih]

theorem Node.walkAll_eq_flatMap
    (ns : List Node) :
    Node.walkAll ns = ns.flatMap Node.walk := by
  induction ns with
  | nil =>
      rfl
  | cons n ns ih =>
      simp [Node.walkAll, ih]

/-! ## Nodes and their children -/

/-- The walk of a node is the node followed by the walks of its children. -/
theorem Node.walk_eq_cons
    (n : Node) :
    n.walk = n :: n.children.flatMap Node.walk := by
  cases n with
  | expr e =>
      cases e with
      | call callee arguments typeArgs span =>
          cases typeArgs <;>
            simp [Node.walk, Expr.walk, Node.children, Expr.children,
              Expr.walkAll_eq_flatMap, Ty.walkAll_eq_flatMap, List.flatMap_map]
      | _ =>
          simp [Node.walk, Expr.walk, Node.children, Expr.children,
            Node.walkAll_eq_flatMap]
  | type t =>
      cases t with
      | reference name typeArgs span =>
          cases typeArgs <;>
            simp [Node.walk, Ty.walk, Node.children, Ty.children,
              Ty.walkAll_eq_flatMap, List.flatMap_map]
      | function params result span =>
          cases result <;>
            simp [Node.walk, Ty.walk, Ty.walkOption, Node.children, Ty.children,
              Param.walkAll_eq_flatMap, List.flatMap_map]
      | _ =>
          simp [Node.walk, Ty.walk, Node.children, Ty.children,
            Ty.walkAll_eq_flatMap, Member.walkAll_eq_flatMap, List.flatMap_map]
  | param p =>
      obtain ⟨name, type, optional, span⟩ := p
      cases type <;>
        simp [Node.walk, Param.walk, Ty.walkOption, Node.children]
  | member m =>
      cases m with
      | property name type optional span =>
          cases type <;>
            simp [Node.walk, Member.walk, Ty.walkOption, Node.children, Member.children]
      | method name params result optional span =>
          cases result <;>
            simp [Node.walk, Member.walk, Ty.walkOption, Node.children, Member.children,
              Param.walkAll_eq_flatMap, List.flatMap_map]
      | other kind name span =>
          simp [Node.walk, Member.walk, Node.children, Member.children]
  | base b =>
      obtain ⟨name, typeArgs, span⟩ := b
      cases typeArgs <;>
        simp [Node.walk, Base.walk, Node.children, Ty.walkAll_eq_flatMap, List.flatMap_map]
  | enumMember m =>
      obtain ⟨name, value, span⟩ := m
      cases value <;>
        simp [Node.walk, EnumMember.walk, Expr.walkOption, Node.children]
  | declarator d =>
      obtain ⟨name, value, span⟩ := d
      cases value <;>
        simp [Node.walk, Declarator.walk, Expr.walkOption, Node.children]
  | statement s =>
      cases s with
      | declaration d =>
          obtain ⟨name, bases, members, span⟩ | ⟨name, type, span⟩ | ⟨name, members, span⟩ := d <;>
            simp [Node.walk, Statement.walk, Declaration.walk, Node.children,
              Statement.children, Declaration.children, Base.walkAll_eq_flatMap,
              Member.walkAll_eq_flatMap, EnumMember.walkAll_eq_flatMap, List.flatMap_map]
      | _ =>
          simp [Node.walk, Statement.walk, Node.children, Statement.children,
            Declarator.walkAll_eq_flatMap, Node.walkAll_eq_flatMap, List.flatMap_map]
  | program p =>
      obtain ⟨body, span⟩ := p
      simp [Node.walk, Program.walk, Node.children,
        Statement.walkAll_eq_flatMap, List.flatMap_map]

end ModuleSpec
