import ModuleSpec.Tree.Basic

/-!
# Sizes of type annotations

The number of types, members and parameters in a type annotation.  What stands
beneath an annotation is smaller than the annotation.
-/

namespace ModuleSpec

mutual

/-- The number of types, members and parameters in an annotation. -/
def Ty.size : Ty → Nat
  | .keyword .. => 1
  | .reference _ none _ => 1
  | .reference _ (some typeArgs) _ => 1 + Ty.sizeAll typeArgs
  | .array element _ => 1 + element.size
  | .operator _ operand _ => 1 + operand.size
  | .literal .. => 1
  | .union members _ => 1 + Ty.sizeAll members
  | .object members _ => 1 + Member.sizeAll members
  | .function params result _ => 1 + Param.sizeAll params + Ty.sizeOption result
  | .other .. => 1

def Ty.sizeAll : List Ty → Nat
  | [] => 0
  | t :: ts => t.size + Ty.sizeAll ts

def Ty.sizeOption : Option Ty → Nat
  | none => 0
  | some t => t.size

def Param.size : Param → Nat
  | ⟨_, type, _, _⟩ => 1 + Ty.sizeOption type

def Param.sizeAll : List Param → Nat
  | [] => 0
  | p :: ps => p.size + Param.sizeAll ps

def Member.size : Member → Nat
  | .property _ type _ _ => 1 + Ty.sizeOption type
  | .method _ params result _ _ => 1 + Param.sizeAll params + Ty.sizeOption result
  | .other .. => 1

def Member.sizeAll : List Member → Nat
  | [] => 0
  | m :: ms => m.size + Member.sizeAll ms

end

end ModuleSpec
