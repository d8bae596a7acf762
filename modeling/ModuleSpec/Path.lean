import ModuleSpec.Text.Split

/-!
# Paths

A path is a list of components below a root.  Empty components and single dots
vanish when a path is read; double dots stay.  A path that starts with exactly
two slashes keeps both.

The name of a path is its last component.  The suffix is the part of the name
from its last dot on, unless that dot is the first or the last character.
-/

namespace ModuleSpec

/-- A path: the number of slashes at its root, and its components. -/
structure Path where
  slashes : Nat
  parts : List String
  deriving DecidableEq, Repr

namespace Path

/-- The number of slashes that count at the root of a path. -/
def rootOf : List Char → Nat
  | '/' :: '/' :: '/' :: _ => 1
  | '/' :: '/' :: _ => 2
  | '/' :: _ => 1
  | _ => 0

/-- Whether a piece of a path is a component. -/
def isPart (piece : List Char) : Bool :=
  !piece.isEmpty && piece != ['.']

def ofString (text : String) : Path :=
  let cs := text.toList
  ⟨rootOf cs, ((Text.split '/' cs).filter isPart).map String.ofList⟩

def relative (parts : List String) : Path := ⟨0, parts⟩

def absolute (parts : List String) : Path := ⟨1, parts⟩

/-- The last component; empty when there is none. -/
def name (path : Path) : String :=
  path.parts.getLast?.getD ""

/-- The characters of the path as it is written. -/
def chars (path : Path) : List Char :=
  match path.slashes, path.parts with
  | 0, [] => ['.']
  | n, parts => List.replicate n '/' ++ Text.joinWith '/' (parts.map String.toList)

/-- The path as it is written. -/
def toString (path : Path) : String :=
  String.ofList path.chars

/-- The path below another one, if it lies there. -/
def below? (path root : Path) : Option Path :=
  if root.slashes = path.slashes ∧ root.parts.isPrefixOf path.parts then
    some (.relative (path.parts.drop root.parts.length))
  else
    none

/-- The suffix of a name: from its last dot on, with something on either side. -/
def suffixOf (name : List Char) : List Char :=
  let tail := name.reverse.takeWhile (· != '.')
  if tail.isEmpty || name.length ≤ tail.length + 1 then
    []
  else
    '.' :: tail.reverse

def suffix (path : Path) : String :=
  String.ofList (suffixOf path.name.toList)

/-- The place one component away from a place: double dots lead upward. -/
def step (place : List String) (part : String) : List String :=
  if part = ".." then place.dropLast else place ++ [part]

/-- Where a path starts, seen from a directory: a path with slashes at its root starts there. -/
def startIn (directory : List String) (path : Path) : List String :=
  if path.slashes = 0 then directory else []

/-- The path with double dots taken as steps upward, seen from a directory. -/
def resolveIn (directory : List String) (path : Path) : List String :=
  path.parts.foldl step (path.startIn directory)

end Path

end ModuleSpec
