import ModuleSpec.Tree.Basic

/-!
# Equality up to spans

Two nodes are the same when they are of one sort and agree in every field but
the span.  Numbers are compared by value, so the two zeros are the same and a
number that is not one is the same as nothing.  An absent list is not the same
as an empty one.
-/

namespace ModuleSpec

mutual

def Expr.same : Expr → Expr → Bool
  | .identifier a _, .identifier b _ => a == b
  | .string a _, .string b _ => a == b
  | .number a _, .number b _ => a.sameNumber b
  | .boolean a _, .boolean b _ => a == b
  | .member o p c _, .member o' p' c' _ => o.same o' && p.same p' && c == c'
  | .call f as ts _, .call f' as' ts' _ =>
      f.same f' && Expr.sameAll as as' && Ty.sameArgs ts ts'
  | .other k ns _, .other k' ns' _ => k == k' && Node.sameAll ns ns'
  | _, _ => false

def Expr.sameAll : List Expr → List Expr → Bool
  | [], [] => true
  | a :: as, b :: bs => a.same b && Expr.sameAll as bs
  | _, _ => false

def Expr.sameOption : Option Expr → Option Expr → Bool
  | none, none => true
  | some a, some b => a.same b
  | _, _ => false

def Ty.same : Ty → Ty → Bool
  | .keyword a _, .keyword b _ => a == b
  | .reference a ts _, .reference b ts' _ => a == b && Ty.sameArgs ts ts'
  | .array a _, .array b _ => a.same b
  | .operator w a _, .operator w' b _ => w == w' && a.same b
  | .literal a _, .literal b _ => a.same b
  | .union as _, .union bs _ => Ty.sameAll as bs
  | .object as _, .object bs _ => Member.sameAll as bs
  | .function ps r _, .function ps' r' _ => Param.sameAll ps ps' && Ty.sameOption r r'
  | .other a _, .other b _ => a == b
  | _, _ => false

def Ty.sameAll : List Ty → List Ty → Bool
  | [], [] => true
  | a :: as, b :: bs => a.same b && Ty.sameAll as bs
  | _, _ => false

def Ty.sameOption : Option Ty → Option Ty → Bool
  | none, none => true
  | some a, some b => a.same b
  | _, _ => false

def Ty.sameArgs : Option (List Ty) → Option (List Ty) → Bool
  | none, none => true
  | some as, some bs => Ty.sameAll as bs
  | _, _ => false

def Param.same : Param → Param → Bool
  | ⟨a, t, o, _⟩, ⟨a', t', o', _⟩ => a == a' && Ty.sameOption t t' && o == o'

def Param.sameAll : List Param → List Param → Bool
  | [], [] => true
  | a :: as, b :: bs => a.same b && Param.sameAll as bs
  | _, _ => false

def Member.same : Member → Member → Bool
  | .property a t o _, .property a' t' o' _ => a == a' && Ty.sameOption t t' && o == o'
  | .method a ps r o _, .method a' ps' r' o' _ =>
      a == a' && Param.sameAll ps ps' && Ty.sameOption r r' && o == o'
  | .other k a _, .other k' a' _ => k == k' && a == a'
  | _, _ => false

def Member.sameAll : List Member → List Member → Bool
  | [], [] => true
  | a :: as, b :: bs => a.same b && Member.sameAll as bs
  | _, _ => false

def Base.same : Base → Base → Bool
  | ⟨a, ts, _⟩, ⟨b, ts', _⟩ => a == b && Ty.sameArgs ts ts'

def Base.sameAll : List Base → List Base → Bool
  | [], [] => true
  | a :: as, b :: bs => a.same b && Base.sameAll as bs
  | _, _ => false

def EnumMember.same : EnumMember → EnumMember → Bool
  | ⟨a, v, _⟩, ⟨b, v', _⟩ => a == b && Expr.sameOption v v'

def EnumMember.sameAll : List EnumMember → List EnumMember → Bool
  | [], [] => true
  | a :: as, b :: bs => a.same b && EnumMember.sameAll as bs
  | _, _ => false

def Declaration.same : Declaration → Declaration → Bool
  | .interface ⟨a, bs, ms, _⟩, .interface ⟨a', bs', ms', _⟩ =>
      a == a' && Base.sameAll bs bs' && Member.sameAll ms ms'
  | .typeAlias ⟨a, t, _⟩, .typeAlias ⟨a', t', _⟩ => a == a' && t.same t'
  | .enum ⟨a, ms, _⟩, .enum ⟨a', ms', _⟩ => a == a' && EnumMember.sameAll ms ms'
  | _, _ => false

def Declarator.same : Declarator → Declarator → Bool
  | ⟨a, v, _⟩, ⟨b, v', _⟩ => a == b && Expr.sameOption v v'

def Declarator.sameAll : List Declarator → List Declarator → Bool
  | [], [] => true
  | a :: as, b :: bs => a.same b && Declarator.sameAll as bs
  | _, _ => false

def Statement.same : Statement → Statement → Bool
  | .declaration a, .declaration b => a.same b
  | .expression a _, .expression b _ => a.same b
  | .bindings as _, .bindings bs _ => Declarator.sameAll as bs
  | .exportDefault a _, .exportDefault b _ => a.same b
  | .other k ns _, .other k' ns' _ => k == k' && Node.sameAll ns ns'
  | _, _ => false

def Statement.sameAll : List Statement → List Statement → Bool
  | [], [] => true
  | a :: as, b :: bs => a.same b && Statement.sameAll as bs
  | _, _ => false

def Program.same : Program → Program → Bool
  | ⟨as, _⟩, ⟨bs, _⟩ => Statement.sameAll as bs

/-- Whether two nodes agree in all but their spans. -/
def Node.same : Node → Node → Bool
  | .expr a, .expr b => a.same b
  | .type a, .type b => a.same b
  | .param a, .param b => a.same b
  | .member a, .member b => a.same b
  | .base a, .base b => a.same b
  | .enumMember a, .enumMember b => a.same b
  | .declarator a, .declarator b => a.same b
  | .statement a, .statement b => a.same b
  | .program a, .program b => a.same b
  | _, _ => false

def Node.sameAll : List Node → List Node → Bool
  | [], [] => true
  | a :: as, b :: bs => a.same b && Node.sameAll as bs
  | _, _ => false

end

end ModuleSpec
