import ModuleSpec.Environment
import ModuleSpec.Fault
import ModuleSpec.Tree.Walk

/-!
# The interface and the load of a module

A module spec declares one interface whose only base is TurboModule, under the
name Spec.  It loads the module once, by a call of the registry with the name of
the module for its argument and the interface for its type argument.  What is
not so is a fault; of several, the first in the order of this module counts.
-/

namespace ModuleSpec

/-- The type that every module interface extends. -/
def baseMarker : String := "TurboModule"

/-- The name of a module interface. -/
def interfaceName : String := "Spec"

/-- The object that loads modules. -/
def registryName : String := "TurboModuleRegistry"

/-- The methods of the registry that load a module. -/
def registryMethods : List String := ["get", "getEnforcing"]

namespace Interface

/-- Whether the only base of the interface is that of modules. -/
def isModule (i : Interface) : Bool :=
  match i.bases with
  | [b] => b.name == baseMarker
  | _ => false

end Interface

namespace Declaration

/-- The module interface that a declaration is, if it is one. -/
def moduleInterface? : Declaration → Option Interface
  | interface i => if i.isModule then some i else none
  | _ => none

end Declaration

/-- A call that loads a module. -/
structure Load where
  call : Expr
  method : String
  arguments : List Expr
  typeArgs : Option (List Ty)

namespace Expr

/-- The load that an expression is, if it is one. -/
def load? : Expr → Option Load
  | e@(call (member (identifier receiver _) (identifier method _) false _) arguments typeArgs _) =>
      if receiver = registryName ∧ registryMethods.contains method then
        some ⟨e, method, arguments, typeArgs⟩
      else
        none
  | _ => none

end Expr

namespace Node

def isModuleInterface : Node → Bool
  | statement (.declaration d) => d.moduleInterface?.isSome
  | _ => false

def load? : Node → Option Load
  | expr e => e.load?
  | _ => none

end Node

namespace Environment

/-- The module interfaces among the declared types. -/
def moduleInterfaces (env : Environment) : List Interface :=
  env.declarations.filterMap Declaration.moduleInterface?

end Environment

namespace Program

/-- The loads anywhere in a file. -/
def loads (program : Program) : List Load :=
  program.walk.filterMap Node.load?

end Program

namespace Interface

def node (i : Interface) : Node :=
  .statement (.declaration (.interface i))

end Interface

/-- The one module interface of a file. -/
def findInterface
    (moduleName : String)
    (program : Program)
    (env : Environment) :
    Except Fault Interface :=
  match env.moduleInterfaces with
  | [] => .error ⟨moduleName, [.program program], .interfaceMissing⟩
  | [i] =>
      if i.name = interfaceName then
        .ok i
      else
        .error ⟨moduleName, [i.node], .interfaceMisnamed i.name⟩
  | is =>
      .error ⟨moduleName, is.map Interface.node, .interfacesSeveral (is.map Interface.name)⟩

namespace Load

/-- The name that a load registers. -/
def registeredName
    (load : Load)
    (moduleName : String) :
    Except Fault String :=
  let node := Node.expr load.call
  match load.arguments with
  | [.string name _] =>
      match load.typeArgs with
      | none => .error ⟨moduleName, [node], .loadUntyped load.method name⟩
      | some [.reference type none _] =>
          if type = interfaceName then
            .ok name
          else
            .error ⟨moduleName, [node], .loadMistyped load.method name⟩
      | some _ => .error ⟨moduleName, [node], .loadMistyped load.method name⟩
  | [argument] =>
      .error ⟨moduleName, [.expr argument], .loadArgument load.method argument.kind⟩
  | arguments =>
      .error ⟨moduleName, [node], .loadArity load.method arguments.length⟩

end Load

/-- The name that the one load of a file registers. -/
def findRegisteredName
    (moduleName : String)
    (program : Program)
    (i : Interface) :
    Except Fault String :=
  match program.loads with
  | [] => .error ⟨moduleName, [i.node], .loadMissing⟩
  | [load] => load.registeredName moduleName
  | loads =>
      .error ⟨moduleName, loads.map fun load => .expr load.call, .loadsSeveral loads.length⟩

end ModuleSpec
