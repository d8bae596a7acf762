/-!
# Platforms

The platforms that modules are generated for, and what the end of a name says
about where a module runs.  A name that ends in Android leaves out iOS, one that
ends in IOS leaves out Android.  A name that ends in Cxx leaves out both, and
its module is implemented in C++ alone.
-/

namespace ModuleSpec

inductive Platform
  | ios
  | android
  deriving DecidableEq, Repr

namespace Platform

/-- The name of the platform in a schema. -/
def name : Platform → String
  | ios => "iOS"
  | android => "android"

/-- The name by which a platform is asked for. -/
def option : Platform → String
  | ios => "ios"
  | android => "android"

/-- The platforms, in the order of the names they are asked for by. -/
def all : List Platform := [android, ios]

def ofOption? (text : String) : Option Platform :=
  all.find? fun p => p.option == text

end Platform

/-- What the end of a name says. -/
structure NameSuffix where
  text : String
  excluded : List Platform
  nativeOnly : Bool

namespace NameSuffix

def all : List NameSuffix :=
  [
    ⟨"Android", [.ios], false⟩,
    ⟨"IOS", [.android], false⟩,
    ⟨"Cxx", [.ios, .android], true⟩
  ]

def ends (suffix : NameSuffix) (name : String) : Bool :=
  suffix.text.toList.isSuffixOf name.toList

/-- The first suffix that the name ends in. -/
def of? (name : String) : Option NameSuffix :=
  all.find? fun suffix => suffix.ends name

end NameSuffix

/-- What the names of a module say about where it runs. -/
structure PlatformFacts where
  nativeOnly : Bool
  excluded : List Platform
  deriving DecidableEq, Repr

namespace PlatformFacts

/-- Every name counts for itself; platforms are listed as they are first left out. -/
def ofNames (names : List String) : PlatformFacts :=
  let suffixes := names.filterMap NameSuffix.of?
  ⟨suffixes.any NameSuffix.nativeOnly, (suffixes.flatMap NameSuffix.excluded).eraseDups⟩

end PlatformFacts

end ModuleSpec
