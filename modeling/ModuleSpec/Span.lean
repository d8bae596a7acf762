/-!
# Source positions

A span names the first and the last position of a piece of source text.  Lines
count from one, columns from zero and in bytes.  A node that stands for no
source text has the span with all four numbers zero.
-/

namespace ModuleSpec

/-- The stretch of source text a node was read from. -/
structure Span where
  startLine : Nat := 0
  startColumn : Nat := 0
  endLine : Nat := 0
  endColumn : Nat := 0
  deriving DecidableEq, Repr, Inhabited

namespace Span

/-- The span of a node that stands for no source text. -/
def none : Span := {}

end Span

end ModuleSpec
