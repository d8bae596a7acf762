import ModuleSpec.Dialect
import ModuleSpec.Text.Word

/-!
# Spec files

The name of a spec file begins with Native.  A name with one dot is good for
every platform; between the stem and the ending can stand the name of one
platform, and then the file counts for that platform alone.

A file is a candidate when its text mentions the base of module interfaces at
the beginning of a word.  A file that mentions the registration of a component
is none.
-/

namespace ModuleSpec

/-- What the names of spec files begin with. -/
def specFileStart : String := "Native"

/-- The function that registers a component. -/
def componentMarker : String := "codegenNativeComponent"

/-- The word that a candidate mentions. -/
def moduleMarker : String := "TurboModule"

/-- A pattern of paths: the texts in which it occurs. -/
abbrev PathPattern := String → Bool

/-- How patterns are written: what gives a pattern to a text, or says why it has none. -/
abbrev PatternSyntax := String → Except String PathPattern

/-- Which spec files are wanted. -/
structure Selection where
  platform : Option String
  exclude : Option PathPattern

namespace Selection

/-- The selection of every file. -/
def all : Selection := ⟨none, none⟩

/-- Whether the paths that match a pattern leave this one out. -/
def leavesOut (selection : Selection) (path : Path) : Bool :=
  match selection.exclude with
  | none => false
  | some occurs => occurs path.toString

end Selection

/-- A name without a dot was asked for its platform. -/
inductive NameError
  | partMissing
  deriving DecidableEq, Repr

namespace Path

/-- Whether the path names a spec file that is wanted. -/
def isSpecFile
    (path : Path)
    (selection : Selection) :
    Except NameError Bool :=
  if !specFileStart.toList.isPrefixOf path.name.toList then
    .ok false
  else if selection.leavesOut path then
    .ok false
  else
    match path.nameParts, selection.platform with
    | [_, _], _ => .ok true
    | _, none => .ok false
    | _ :: part :: _, some platform => .ok (part == platform)
    | _, some _ => .error .partMissing

end Path

/-- Whether a text can be that of a module spec. -/
def isCandidate (content : String) : Bool :=
  let text := content.toList
  !Text.hasMarker true componentMarker.toList false text
    && Text.hasMarker false moduleMarker.toList false text

end ModuleSpec
