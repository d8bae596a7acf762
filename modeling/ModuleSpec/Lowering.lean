import ModuleSpec.Lowering.Step
import ModuleSpec.Tree.Size

/-!
# Lowering of type annotations

The rules of one step, applied all the way down.

**Algorithm.**  Each annotation beneath another is either smaller than it or
stands in the declaration of a name that was followed.  A name that is followed
again, under the same capture, while what it stands for is still being lowered
comes up again and again.  So a lowering that ends goes through each declaration
at most twice on the way down, once under the capture it started with and once
under the one that lets every fault through, and the sizes of the annotation and
of all declarations bound its depth.  A lowering that goes deeper is endless.
-/

namespace ModuleSpec

namespace Environment

/-- The number of types in all declarations together. -/
def size (env : Environment) : Nat :=
  env.declarations.foldr (fun d n => Ty.sizeOption d.type? + n) 0

end Environment

/-- Lowering to at most the given depth. -/
def lowerWithin : Nat → Lower
  | 0, _, _ => .halt .endless
  | depth + 1, scope, type => lowerStep (lowerWithin depth) scope type

/-- A depth beyond which a lowering does not end. -/
def depthBound (env : Environment) (type : Ty) : Nat :=
  type.size + 2 * env.size + 1

/-- The schema type of a type annotation. -/
def lower : Lower :=
  fun scope type => lowerWithin (depthBound scope.types type) scope type

end ModuleSpec
