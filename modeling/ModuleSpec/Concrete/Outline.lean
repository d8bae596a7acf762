import ModuleSpec.Concrete.Node
import ModuleSpec.Text.Digit
import ModuleSpec.Text.Split

/-!
# Outlines

A concrete tree in writing.  Every node has one line, and the lines of what
stands beneath a node follow its own.  A line holds the depth of the node, a one
if the node is named and a zero if it is a token, the offsets between which it
lies, its field or a dash, and its kind, all separated by blanks.

**Algorithm.**  Lines are read from the last to the first.  What has been read is
a list of trees with their depths, and a line takes for its children the trees at
its front that are deeper than itself.
-/

namespace ModuleSpec
namespace Concrete

/-- One line of an outline. -/
structure Line where
  depth : Nat
  named : Bool
  start : Nat
  stop : Nat
  field : Option String
  kind : String
  deriving DecidableEq, Repr

/-- A tree and the depth at which it stands. -/
structure Branch where
  depth : Nat
  root : Node

namespace Line

def readNat? (word : List Char) : Option Nat :=
  if word.isEmpty then
    none
  else
    (word.mapM (Text.digitIn? 10)).map (Text.ofDigits 10)

def read? (text : List Char) : Option Line :=
  match Text.split ' ' text with
  | depth :: named :: start :: stop :: field :: kind => do
      .some ⟨← readNat? depth, named == ['1'], ← readNat? start, ← readNat? stop,
        if field = ['-'] then none else some (String.ofList field),
        String.ofList (Text.joinWith ' ' kind)⟩
  | _ => none

/-- Adds the node of a line in front of the trees that follow it. -/
def add (line : Line) (following : List Branch) : List Branch :=
  let isDeeper (b : Branch) : Bool := line.depth < b.depth
  let children := (following.takeWhile isDeeper).map Branch.root
  ⟨line.depth, .mk line.kind line.named line.field line.start line.stop children⟩
    :: following.dropWhile isDeeper

end Line

/-- The tree that an outline describes. -/
def Node.ofOutline? (text : List Char) : Option Node := do
  let written := (Text.split '\n' text).filter fun line => !line.isEmpty
  let lines ← written.mapM Line.read?
  let first ← (lines.foldr Line.add []).head?
  some first.root

end Concrete
end ModuleSpec
