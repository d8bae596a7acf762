import ModuleSpec.Pattern.Ignore

/-!
# Paths that hold no specs

Some directories and files are never scanned: installed packages, tool data,
tests, bundles, and what a build has generated.  An ignore file can leave out
more, but it cannot bring these back.
-/

namespace ModuleSpec
namespace Pattern

/-- Components of paths that are never scanned. -/
def ignoredParts : List String :=
  [
    "node_modules",
    ".git",
    ".gradle",
    ".idea",
    ".vscode",
    "Pods",
    "DerivedData",
    "coverage",
    "__tests__",
    "__mocks__"
  ]

/-- Ends of components of paths that are never scanned. -/
def ignoredEnds : List String :=
  [".min.js", ".bundle.js", ".map"]

/-- Where a build puts what it generates. -/
def generatedPatterns : List String :=
  [
    "**/generated/source/codegen/**",
    "**/build/generated/assets/react/**",
    "**/build/generated/res/react/**",
    "**/build/generated/sourcemaps/react/**",
    "**/build/intermediates/sourcemaps/react/**"
  ]

/-- The rules of the patterns for generated files. -/
def generatedRules : List IgnoreRule :=
  match rules (generatedPatterns.map String.toList) with
  | .ok found => found
  | .error _ => []

/-- Whether a component alone keeps a path from being scanned. -/
def isIgnoredPart (part : String) : Bool :=
  ignoredParts.contains part
    || ignoredEnds.any fun suffix => suffix.toList.isSuffixOf part.toList

end Pattern

namespace Path

/-- Whether the path lies where a build puts what it generates. -/
def isGenerated (path : Path) : Bool :=
  Pattern.decides Pattern.generatedRules (Pattern.ruleText path)

/-- Whether the path is never scanned, whatever an ignore file says. -/
def isNeverScanned (path : Path) : Bool :=
  path.parts.any Pattern.isIgnoredPart || path.isGenerated

/-- Whether a path is passed over, given the lines of an ignore file. -/
def isIgnored
    (path : Path)
    (lines : List String) :
    Except Pattern.IgnoreError Bool :=
  if path.isNeverScanned then
    .ok true
  else
    (Pattern.rules (lines.map String.toList)).map fun found =>
      Pattern.decides found (Pattern.ruleText path)

end Path

namespace Pattern

/-- The patterns of an ignore file: its lines without outer white space and comments. -/
def linesOf (text : List Char) : List String :=
  (((Text.lines text).map Text.trim).filter fun line =>
    !line.isEmpty && line.head? != some '#').map String.ofList

end Pattern
end ModuleSpec
