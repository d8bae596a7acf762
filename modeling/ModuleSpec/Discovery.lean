import ModuleSpec.FileTree
import ModuleSpec.Pattern.Excluded
import ModuleSpec.SpecFile

/-!
# Discovery of spec files

A file that is given by itself is taken as it is, if it is a source file.  Under
a directory every source file counts that is not ignored; collecting keeps those
among them that are named like spec files.  The files of a root are ordered by
the components of their paths, and what is collected from all roots by the text
of the paths, so that where two are equal the first root comes first.

A file that cannot be read as text, or that is empty, is passed over.
-/

namespace ModuleSpec

/-- A source file that has been read. -/
structure SourceFile where
  path : String
  content : String
  moduleName : String
  dialect : String
  deriving DecidableEq, Repr

/-- Why files cannot be collected. -/
inductive CollectError
  | ignoreText
  | ignorePattern (e : Pattern.IgnoreError)
  | name (e : NameError)
  deriving DecidableEq, Repr

/-- A path that does not lie beneath its root. -/
inductive ReadError
  | outsideRoot
  deriving DecidableEq, Repr

/-- The order of paths by their components. -/
def partsLe : List String → List String → Bool
  | [], _ => true
  | _ :: _, [] => false
  | a :: as, b :: bs => if a = b then partsLe as bs else decide (a < b)

namespace FileTree

/-- The lines of the ignore file of a directory. -/
def ignoreLines
    (tree : FileTree)
    (place : List String) :
    Except CollectError (List String) :=
  match tree.file? (place ++ [".gitignore"]) with
  | none => .ok []
  | some f =>
      match Text.decode? f.content with
      | none => .error .ignoreText
      | some text => .ok (Pattern.linesOf text.toList)

/-- Whether a file beneath a root is a source file that is not ignored. -/
def isFound
    (root : List String)
    (lines : List String)
    (f : File) :
    Except Pattern.IgnoreError Bool :=
  let relative := Path.relative (f.path.drop root.length)
  (relative.isIgnored lines).map fun ignored =>
    !ignored && relative.dialect?.isSome

/-- The entries of a list that a test keeps, in order. -/
def keep
    {α ε : Type}
    (test : α → Except ε Bool) :
    List α → Except ε (List α)
  | [] => .ok []
  | a :: as => do
      let kept ← test a
      let rest ← keep test as
      .ok (if kept then a :: rest else rest)

/-- The source files of a root, in the order of their components. -/
def discover
    (tree : FileTree)
    (root : Path)
    (lines : List String) :
    Except Pattern.IgnoreError (List (List String)) :=
  let place := tree.resolve root
  if tree.isFile place then
    .ok (if (Path.absolute place).dialect?.isSome then [place] else [])
  else do
    let found ← keep (isFound place lines) (tree.beneath place)
    .ok ((found.map File.path).mergeSort partsLe)

/-- What is read of a file at a path, under the name that it has beneath its root. -/
def read? (relative path : Path) (f : File) : Option SourceFile := do
  let content ← Text.decode? f.content
  let dialect ← path.dialect?
  if content.isEmpty then
    none
  else
    some ⟨relative.toString, content, path.moduleName, dialect.name⟩

/-- The source file at a place, under the name that it has beneath its root. -/
def source?
    (tree : FileTree)
    (relative : Path)
    (place : List String) :
    Option SourceFile :=
  (tree.file? place).bind (read? relative (.absolute place))

/-- Reads a file that lies beneath a root or is the root itself. -/
def readSource
    (tree : FileTree)
    (root path : Path) :
    Except ReadError (Option SourceFile) :=
  let place := Path.absolute (tree.resolve root)
  if path = place then
    .ok ((tree.fileAt? path).bind (read? (.relative [path.name]) path))
  else
    match path.below? place with
    | none => .error .outsideRoot
    | some relative => .ok ((tree.fileAt? path).bind (read? relative path))

/-- The path of a file beneath a root; of the root itself, its name. -/
def relativeTo (root path : List String) : Path :=
  if path = root then
    .relative [(Path.absolute path).name]
  else
    .relative (path.drop root.length)

/-- The files of a root that are collected. -/
def candidates
    (tree : FileTree)
    (selection : Selection)
    (root : Path) :
    Except CollectError (List (List String)) :=
  let place := tree.resolve root
  if tree.isFile place then
    (tree.discover root []).mapError .ignorePattern
  else do
    let lines ← tree.ignoreLines place
    let found ← (tree.discover root lines).mapError .ignorePattern
    (keep (fun path => (relativeTo place path).isSpecFile selection) found).mapError .name

/-- The source files of one root. -/
def collectRoot
    (tree : FileTree)
    (selection : Selection)
    (root : Path) :
    Except CollectError (List SourceFile) := do
  let found ← tree.candidates selection root
  .ok (found.filterMap fun path =>
    tree.source? (relativeTo (tree.resolve root) path) path)

/-- The spec files under the given roots, in the order of their paths. -/
def collect
    (tree : FileTree)
    (roots : List Path)
    (selection : Selection) :
    Except CollectError (List SourceFile) := do
  let groups ← roots.mapM (tree.collectRoot selection)
  .ok (groups.flatten.mergeSort fun a b => decide (a.path ≤ b.path))

end FileTree

end ModuleSpec
