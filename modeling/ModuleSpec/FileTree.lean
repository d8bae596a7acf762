import ModuleSpec.Path

/-!
# File trees

Files and directories, and the working directory among them.  The place of a file
or of a directory is what leads to it from the root.  A directory is there when it is
listed or when something lies in it; the working directory and the root are always
there.

A path is followed step by step, from the working directory or from the root: a step
down from something that is no directory leads nowhere, and two dots lead back from
a directory that is there.

**Results.**  Writing a file puts its content at its path and leaves every other
file as it was.
-/

namespace ModuleSpec

/-- A file: where it lies and what it holds. -/
structure File where
  path : List String
  content : ByteArray

/-- Files, listed directories, and the working directory. -/
structure FileTree where
  files : List File
  directories : List (List String)
  here : List String

/-- Why a file cannot be written. -/
inductive WriteError
  /-- There is a directory at the path. -/
  | isDirectory
  /-- What should hold the file is a file itself. -/
  | parentIsFile
  /-- A file stands further up in the path. -/
  | aboveIsFile
  deriving DecidableEq, Repr

namespace FileTree

def file? (tree : FileTree) (path : List String) : Option File :=
  tree.files.find? fun f => f.path == path

def isFile (tree : FileTree) (path : List String) : Bool :=
  (tree.file? path).isSome

/-- Whether there is a directory at a path. -/
def isDirectory (tree : FileTree) (path : List String) : Bool :=
  path.isPrefixOf tree.here
    || tree.directories.any (fun d => path.isPrefixOf d)
    || tree.files.any fun f => path.isPrefixOf f.path && path != f.path

/-- Follows the components of a path from a directory. -/
def follow (tree : FileTree) : List String → List String → Option (List String)
  | place, [] => some place
  | place, part :: parts =>
      if tree.isDirectory place then
        tree.follow (Path.step place part) parts
      else
        none

/-- The place that a path leads to. -/
def locate? (tree : FileTree) (path : Path) : Option (List String) :=
  tree.follow (path.startIn tree.here) path.parts

/-- The place of a path, whatever is there: double dots are taken as steps upward. -/
def resolve (tree : FileTree) (path : Path) : List String :=
  path.resolveIn tree.here

/-- The file that a path leads to. -/
def fileAt? (tree : FileTree) (path : Path) : Option File :=
  (tree.locate? path).bind tree.file?

/-- Whether a path leads to a file or to a directory. -/
def reaches (tree : FileTree) (path : Path) : Bool :=
  (tree.locate? path).any fun place => tree.isFile place || tree.isDirectory place

/-- The files beneath a directory. -/
def beneath (tree : FileTree) (root : List String) : List File :=
  tree.files.filter fun f => root.isPrefixOf f.path && root != f.path

/-- Puts content at a path, in the place of the file there or at the end. -/
def put (content : ByteArray) (path : List String) : List File → List File
  | [] => [⟨path, content⟩]
  | f :: fs =>
      if f.path = path then ⟨path, content⟩ :: fs else f :: put content path fs

/-- Makes a directory where there is none. -/
def makeDirectory (tree : FileTree) (place : List String) : FileTree :=
  if tree.isDirectory place then
    tree
  else
    { tree with directories := tree.directories ++ [place] }

/-- Follows the components of a path, and makes the directories that are missing. -/
def makeWay
    (tree : FileTree)
    (place : List String) :
    List String → Except WriteError (FileTree × List String)
  | [] => if tree.isFile place then .error .parentIsFile else .ok (tree, place)
  | part :: parts =>
      if tree.isFile place then
        .error .aboveIsFile
      else
        let next := Path.step place part
        (tree.makeDirectory next).makeWay next parts

/-- Writes a file, with the directories above it. -/
def write
    (tree : FileTree)
    (path : Path)
    (content : ByteArray) :
    Except WriteError FileTree := do
  let (made, parent) ← tree.makeWay (path.startIn tree.here) path.parts.dropLast
  let place := parent ++ [path.name]
  if path.parts.isEmpty || path.name == ".." || made.isDirectory place then
    .error .isDirectory
  else
    .ok { made with files := put content place made.files }

theorem find?_put
    (content : ByteArray)
    (path other : List String)
    (files : List File) :
    (put content path files).find? (fun f => f.path == other) =
      if path = other then
        some ⟨path, content⟩
      else
        files.find? fun f => f.path == other := by
  induction files with
  | nil =>
      by_cases h : path = other <;> simp [put, h]
  | cons f fs ih =>
      by_cases hp : f.path = path
      · by_cases h : path = other <;>
          simp [put, hp, h]
      · by_cases ho : f.path = other
        · have hn : ¬ path = other := fun h => hp (ho.trans h.symm)
          rw [put, if_neg hp, if_neg hn]
          simp [ho]
        · rw [put, if_neg hp]
          simp [ho, ih]

end FileTree

end ModuleSpec
