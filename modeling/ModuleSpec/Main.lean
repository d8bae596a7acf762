import ModuleSpec.CommandLine
import ModuleSpec.Concrete.Outline
import ModuleSpec.Pattern.Written
import ModuleSpec.Text.Markup

/-!
# The program

Reads the files beneath the working directory and those that the arguments name, does
what the arguments ask for, prints what is to be printed and writes the files that have
changed.

The concrete tree of a source file is its outline, in a file beside it with
.outline at the end of its name.
-/

namespace ModuleSpec

/-- The source texts of a directory, with their concrete trees. -/
structure Outlined where
  dialect : Dialect
  text : String
  root : Concrete.Node

/-- The file that holds the outline of a file. -/
def outlinePath (place : List String) : List String :=
  place.dropLast ++ [(Path.absolute place).name ++ ".outline"]

/-- The source text at a place, with the tree that its outline describes. -/
def outlinedAt? (tree : FileTree) (f : File) : Option Outlined := do
  let d ← (Path.absolute f.path).dialect?
  let text ← Text.decode? f.content
  let outline ← tree.file? (outlinePath f.path)
  let written ← String.fromUTF8? outline.content
  let root ← Concrete.Node.ofOutline? written.toList
  some ⟨d, text, root⟩

/-- The grammar that knows the outlines of a file tree, and nothing else. -/
def outlineGrammar (tree : FileTree) : Grammar :=
  let known := tree.files.filterMap (outlinedAt? tree)
  fun d text =>
    match known.find? fun o => o.dialect == d && o.text == text with
    | some o => o.root
    | none => .mk "program" true none 0 text.utf8ByteSize []

/-- Whether the content of a file can matter. -/
def isRead (place : List String) : Bool :=
  let name := (Path.absolute place).name
  (Path.absolute place).dialect?.isSome
    || name == ".gitignore"
    || ".outline".toList.isSuffixOf name.toList

/-- The paths that a request is about. -/
def Request.paths : Request → List Path
  | .version => []
  | .help => []
  | .combine r => r.output :: r.roots
  | .inspect file => [file]

/-- The places that a path leads through, seen from a directory. -/
def Path.places (here : List String) (path : Path) : List (List String) :=
  (List.range (path.parts.length + 1)).map fun n =>
    resolveIn here ⟨path.slashes, path.parts.take n⟩

/-- The file tree with one more file. -/
def FileTree.withFile (tree : FileTree) (place : List String) (content : ByteArray) : FileTree :=
  { tree with files := put content place tree.files }

/-- Adds what is at a place, but not what lies beneath it. -/
def readPlace (tree : FileTree) (place : List String) : IO FileTree := do
  let path := (← IO.currentDir) / (Path.absolute place).toString
  if ← path.isDir then
    return tree.makeDirectory place
  else if ← path.pathExists then
    let content ← if isRead place then IO.FS.readBinFile path else pure ByteArray.empty
    return tree.withFile place content
  else
    return tree

/-- Adds what is at a place, with the files and directories beneath it. -/
partial def readBeneath (tree : FileTree) (place : List String) : IO FileTree := do
  let path := (← IO.currentDir) / (Path.absolute place).toString
  let mut tree ← readPlace tree place
  if ← path.isDir then
    for entry in ← path.readDir do
      tree ← readBeneath tree (place ++ [entry.fileName])
  return tree

/-- The files that can matter: those beneath the working directory and those of a request. -/
def readTree (request : Option Request) : IO FileTree := do
  let here := (Path.ofString (← IO.currentDir).toString).parts
  let mut tree ← readBeneath ⟨[], [], here⟩ here
  for path in (request.map Request.paths).getD [] do
    for place in path.places here do
      tree ← readPlace tree place
    unless here.isPrefixOf (tree.resolve path) do
      tree ← readBeneath tree (tree.resolve path)
  return tree

/-- Makes the directories and writes the files that a tree does not hold as they are. -/
def writeChanges (before after : FileTree) : IO Unit := do
  let root ← IO.currentDir
  for place in after.directories do
    unless before.directories.contains place do
      IO.FS.createDirAll (root / (Path.absolute place).toString)
  for f in after.files do
    unless before.files.any fun g => g.path == f.path && g.content == f.content do
      IO.FS.writeBinFile (root / (Path.absolute f.path).toString) f.content

/-- What is printed when the arguments are wrongly used. -/
def usage : String :=
  "Usage: native-schema [--version] [--verbose] (combine OUTPUT PATHS... "
    ++ "[--platform NAME] [--exclude PATTERN] | inspect FILE)"

end ModuleSpec

def main (arguments : List String) : IO UInt32 := do
  let tree ← ModuleSpec.readTree (ModuleSpec.Request.read? arguments)
  let setting : ModuleSpec.Setting :=
    ⟨ModuleSpec.outlineGrammar tree, ModuleSpec.Pattern.written, ModuleSpec.Text.Markup.console⟩
  let r := ModuleSpec.CommandLine.run setting tree arguments
  IO.print r.output
  if r.exitCode = ModuleSpec.Run.usageCode then
    IO.eprintln ModuleSpec.usage
  ModuleSpec.writeChanges tree r.tree
  return r.exitCode.toUInt32
