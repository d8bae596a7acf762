import ModuleSpec.Path
import ModuleSpec.Text.Quoted

/-!
# Source files by name

The dialect of a source file follows from the suffix of its name; declaration
files have none.  The module that a file stands for is named by the file's name
up to its first dot.
-/

namespace ModuleSpec

/-- The two dialects of the source language. -/
inductive Dialect
  | typescript
  | tsx
  deriving DecidableEq, Repr

namespace Dialect

def name : Dialect → String
  | typescript => "typescript"
  | tsx => "tsx"

/-- The dialects in the order of their names. -/
def all : List Dialect := [tsx, typescript]

def ofName? (name : String) : Option Dialect :=
  all.find? fun d => d.name == name

/-- The message for a name that is no dialect. -/
def unknown (name : String) : String :=
  Text.unknownWord "dialect" name (all.map Dialect.name)

end Dialect

namespace Path

/-- Whether the path names a file of declarations only. -/
def isDeclarationFile (path : Path) : Bool :=
  ".d.ts".toList.isSuffixOf path.name.toList

/-- The dialect of the file that the path names. -/
def dialect? (path : Path) : Option Dialect :=
  if path.isDeclarationFile then none
  else if path.suffix = ".ts" then some .typescript
  else if path.suffix = ".tsx" then some .tsx
  else none

/-- The parts of the name between its dots. -/
def nameParts (path : Path) : List String :=
  (Text.split '.' path.name.toList).map String.ofList

/-- The name of the module that the file stands for. -/
def moduleName (path : Path) : String :=
  path.nameParts.headD ""

end Path

end ModuleSpec
