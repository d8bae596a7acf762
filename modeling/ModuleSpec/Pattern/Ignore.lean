import ModuleSpec.Path
import ModuleSpec.Pattern.Regex
import ModuleSpec.Text.Blank

/-!
# Ignore patterns

The lines of an ignore file, each a pattern of paths.  A pattern that begins
with an exclamation mark takes paths back; of the patterns that match a path the
last one decides.  An empty line and a line that begins with a hash mean
nothing.

A pattern is cut at its slashes into segments.  With a slash at its beginning or
in its middle it matches from the root, and otherwise at any depth.  It matches
a path or a directory above it; with a slash at its end only what lies below
counts.  A segment of two stars stands for any number of directories.  In other
segments a star stands for any characters and a question mark for one, but not
for a slash; brackets hold a set of characters, and a backslash takes the
meaning from the next character.

Every pattern is turned into a regular expression that is looked for in the path.
-/

namespace ModuleSpec
namespace Pattern

/-- Why a pattern cannot be used. -/
inductive IgnoreError
  /-- It is a lone exclamation mark, or a segment ends in a backslash. -/
  | malformed
  /-- A range of a set goes downwards. -/
  | reversedRange
  deriving DecidableEq, Repr

/-- What a line says about the paths that its expression occurs in. -/
structure IgnoreRule where
  negated : Bool
  regex : Regex
  deriving DecidableEq, Repr

/-! ## Segments -/

/-- Any character but a slash. -/
def noSlash : Regex := .one (.not '/')

/-- The characters of a set up to its closing bracket, and what follows it. -/
def untilBracket : List Char → List Char → Option (List Char × List Char)
  | _, [] => none
  | seen, c :: cs =>
      if c = ']' then some (seen.reverse, cs) else untilBracket (c :: seen) cs

/-- The set that begins after an opening bracket, and what follows it. -/
def bracket? (text : List Char) : Option (CharSet × List Char) :=
  let (negated, body) :=
    match text with
    | '!' :: cs => (true, cs)
    | '^' :: cs => (true, cs)
    | cs => (false, cs)
  let found :=
    match body with
    | ']' :: cs => untilBracket [']'] cs
    | cs => untilBracket [] cs
  found.map fun (characters, rest) =>
    (⟨negated, CharSet.rangesOf (characters.map fun c => (c, false))⟩, rest)

/-- The expressions of a segment, from left to right, in at most the given steps. -/
def segmentWithin : Nat → List Char → Except IgnoreError (List Regex)
  | 0, _ => .ok []
  | _ + 1, [] => .ok []
  | n + 1, c :: cs =>
      match c with
      | '\\' =>
          match cs with
          | [] => .error .malformed
          | d :: ds => (segmentWithin n ds).map (Regex.char d :: ·)
      | '*' => (segmentWithin n cs).map (Regex.star noSlash :: ·)
      | '?' => (segmentWithin n cs).map (noSlash :: ·)
      | '[' =>
          match bracket? cs with
          | some (set, rest) => (segmentWithin n rest).map (Regex.one set :: ·)
          | none => (segmentWithin n cs).map (Regex.char '[' :: ·)
      | _ => (segmentWithin n cs).map (Regex.char c :: ·)

/-- The expression of a segment that is not two stars. -/
def segment (text : List Char) : Except IgnoreError Regex :=
  (segmentWithin text.length text).map Regex.sequence

/-! ## Patterns -/

def twoStars : List Char := ['*', '*']

/-- Leaves one of several segments of two stars in a row. -/
def collapse : List (List Char) → List (List Char)
  | a :: b :: rest =>
      if a = twoStars ∧ b = twoStars then
        collapse (b :: rest)
      else
        a :: collapse (b :: rest)
  | segments => segments

/-- The last segment, when empty, stands for everything below. -/
def openEnd : List (List Char) → List (List Char)
  | [] => []
  | [[]] => [twoStars]
  | [s] => [s]
  | s :: rest => s :: openEnd rest

/-- The segments of a pattern, with two stars where it can match at any depth. -/
def normalize (segments : List (List Char)) : List (List Char) :=
  let anchored :=
    match segments with
    | [] :: rest => rest
    | [s] => if s = twoStars then [s] else [twoStars, s]
    | [s, []] => if s = twoStars then [s, []] else [twoStars, s, []]
    | rest => rest
  collapse (openEnd anchored)

/-- The end of a path, or of one of the directories above it. -/
def partEnd : Regex := .alt (.char '/') .atEnd

/-- Directories of any number, with a slash before each. -/
def directoriesBelow : Regex := .option (.seq (.char '/') (.plus .any))

/-- Directories of any number, with a slash after each. -/
def directoriesAbove : Regex := .option (.seq (.plus .any) (.char '/'))

/-- The expressions of the segments after the first. -/
def segmentsAfter (slash : Bool) : List (List Char) → Except IgnoreError (List Regex)
  | [] => .ok []
  | s :: rest =>
      let separator := if slash then [Regex.char '/'] else []
      if s = twoStars then
        if rest.isEmpty then
          .ok [.char '/']
        else
          (segmentsAfter true rest).map (directoriesBelow :: ·)
      else if s = ['*'] then
        if rest.isEmpty then
          .ok (separator ++ [.plus noSlash, .atEnd])
        else
          (segmentsAfter true rest).map (separator ++ [.plus noSlash] ++ ·)
      else do
        let r ← segment s
        if rest.isEmpty then
          .ok (separator ++ [r, partEnd])
        else
          let rs ← segmentsAfter true rest
          .ok (separator ++ r :: rs)

/-- The expression of normalized segments; the flag says that only what lies below counts. -/
def ofSegments (below : Bool) : List (List Char) → Except IgnoreError Regex
  | [] => .error .malformed
  | segments =>
      let star := ['*']
      if segments = [twoStars] then
        .ok (if below then .char '/' else .any)
      else if segments = [twoStars, star, twoStars] then
        .ok (.char '/')
      else if segments = [twoStars, star] then
        .ok .any
      else
        match segments with
        | s :: rest =>
            if s = twoStars then
              (segmentsAfter false rest).map fun rs =>
                .sequence (.atStart :: directoriesAbove :: rs)
            else
              (segmentsAfter false segments).map fun rs =>
                .sequence (.atStart :: rs)
        | [] => .error .malformed

/-- The pattern of a line without the white space that does not count. -/
def trimLine (line : List Char) : List Char :=
  if ['\\', ' '].isSuffixOf line then line else Text.trimEnd line

/-- What a line says; some lines say nothing. -/
def rule? (line : List Char) : Except IgnoreError (Option IgnoreRule) :=
  match trimLine line with
  | [] => .ok none
  | '#' :: _ => .ok none
  | c :: cs =>
      let negated := c == '!'
      let pattern := if negated then cs else c :: cs
      let segments := Text.split '/' pattern
      let below := segments.getLast? == some [] && pattern != ['/']
      (ofSegments below (normalize segments)).bind fun r =>
        if r.isOrdered then .ok (some ⟨negated, r⟩) else .error .reversedRange

/-- The rules of lines, in order. -/
def rules (lines : List (List Char)) : Except IgnoreError (List IgnoreRule) :=
  (lines.mapM rule?).map fun found => found.filterMap id

/-- The text of a path that rules are matched with: one slash at its root is dropped. -/
def ruleText (path : Path) : List Char :=
  match path.chars with
  | '/' :: cs => cs
  | cs => cs

/-- Whether the last rule that matches a text takes it out. -/
def decides (rules : List IgnoreRule) (text : List Char) : Bool :=
  match rules.reverse.find? fun rule => rule.regex.occursIn text with
  | some rule => !rule.negated
  | none => false

end Pattern
end ModuleSpec
