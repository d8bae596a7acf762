import ModuleSpec.Pattern.Regex
import ModuleSpec.SpecFile

/-!
# Written regular expressions

The patterns of paths that the program comes with.  Characters stand for themselves, a
dot for any character but a line break, brackets hold a set, parentheses a group, a bar
separates alternatives, and a star, a plus or a question mark repeats what
stands before it.  A question mark after a repetition changes nothing about where it
occurs.  A backslash takes the meaning from the next character.

This is a part of what can be written for the regular expressions of other programs.
What would mean something else there is refused: a letter or a digit after a
backslash, a question mark at the beginning of a group, a brace, and a plus after
a repetition.

**Algorithm.**  The text is read character by character.  Open groups are kept
on a stack, each with its finished alternatives and the items of the current
one.  Nothing is read twice.
-/

namespace ModuleSpec
namespace Pattern

/-- Why a text is no regular expression, and at which character. -/
inductive WrittenError
  | groupOpen (position : Nat)
  | groupClosed (position : Nat)
  | setOpen (position : Nat)
  | nothingToRepeat (position : Nat)
  | repeatedTwice (position : Nat)
  | escapeOpen (position : Nat)
  | reversedRange (low high : String) (position : Nat)
  | unknown (position : Nat)
  deriving DecidableEq, Repr

namespace WrittenError

def message : WrittenError → String
  | groupOpen n => s!"missing ), unterminated subpattern at position {n}"
  | groupClosed n => s!"unbalanced parenthesis at position {n}"
  | setOpen n => s!"unterminated character set at position {n}"
  | nothingToRepeat n => s!"nothing to repeat at position {n}"
  | repeatedTwice n => s!"multiple repeat at position {n}"
  | escapeOpen n => s!"bad escape (end of pattern) at position {n}"
  | reversedRange low high n => s!"bad character range {low}-{high} at position {n}"
  | unknown n => s!"unknown syntax at position {n}"

end WrittenError

/-- How far an item can still be repeated. -/
inductive ItemState
  | fresh
  | anchor
  | repeated
  | final
  deriving DecidableEq, Repr

/-- A part of an alternative. -/
structure Item where
  regex : Regex
  state : ItemState

/-- A group that is being read: what is done of it, latest first. -/
structure Group where
  position : Nat
  alternatives : List Regex
  items : List Item

/-- A set that is being read, with its characters, latest first. -/
structure OpenSet where
  position : Nat
  negated : Bool
  characters : List (Char × Bool)

namespace OpenSet

/-- A character of a set as it is written, with its backslash. -/
def written (c : Char × Bool) : String :=
  String.ofList (if c.2 then ['\\', c.1] else [c.1])

/-- The first range that goes downwards among characters from the given position on. -/
def reversedFrom? : Nat → List (Char × Bool) → Option WrittenError
  | _, [] => none
  | n, low :: ('-', false) :: high :: rest =>
      if high.1 < low.1 then
        some (.reversedRange (written low) (written high) n)
      else
        reversedFrom? (n + (written low).length + (written high).length + 1) rest
  | n, c :: rest => reversedFrom? (n + (written c).length) rest

/-- The first range of a set that goes downwards. -/
def reversed? (s : OpenSet) : Option WrittenError :=
  reversedFrom? (s.position + if s.negated then 2 else 1) s.characters.reverse

/-- The error of a set that is never closed. -/
def unclosed (s : OpenSet) : WrittenError :=
  s.reversed?.getD (.setOpen s.position)

/-- The expression of a set that is closed. -/
def close (s : OpenSet) : Except WrittenError Regex :=
  match s.reversed? with
  | some e => .error e
  | none => .ok (.one ⟨s.negated, CharSet.rangesOf s.characters.reverse⟩)

end OpenSet

/-- What the next character belongs to. -/
inductive Mode
  | item
  | escape
  | set (s : OpenSet)
  | setStart (s : OpenSet)
  | setEscape (s : OpenSet)

/-- Where the reading of an expression stands. -/
structure Reader where
  mode : Mode
  group : Group
  outer : List Group

namespace Group

/-- The alternative that is being read. -/
def current (g : Group) : Regex :=
  .sequence (g.items.reverse.map Item.regex)

/-- The expression that the group stands for. -/
def close (g : Group) : Regex :=
  g.alternatives.foldl (fun r a => .alt a r) g.current

def add (g : Group) (regex : Regex) (state : ItemState) : Group :=
  { g with items := ⟨regex, state⟩ :: g.items }

end Group

/-- Whether a backslash can stand before a character to take its meaning. -/
def isEscapable (c : Char) : Bool :=
  !c.isAlphanum

namespace Reader

def start : Reader := ⟨.item, ⟨0, [], []⟩, []⟩

def add (reader : Reader) (regex : Regex) (state : ItemState) : Reader :=
  { reader with mode := .item, group := reader.group.add regex state }

/-- Whether the last character has opened a group. -/
def atGroupStart (reader : Reader) (position : Nat) : Bool :=
  !reader.outer.isEmpty && reader.group.position + 1 == position

/-- Repeats the last item. -/
def repeatLast
    (reader : Reader)
    (position : Nat)
    (c : Char) :
    Except WrittenError Reader :=
  match reader.group.items with
  | [] =>
      if c = '?' ∧ reader.atGroupStart position then
        .error (.unknown position)
      else
        .error (.nothingToRepeat position)
  | last :: items =>
      let replaced (regex : Regex) (state : ItemState) : Reader :=
        { reader with group := { reader.group with items := ⟨regex, state⟩ :: items } }
      match last.state with
      | .anchor => .error (.nothingToRepeat position)
      | .final => .error (.repeatedTwice position)
      | .repeated =>
          if c = '*' then
            .error (.repeatedTwice position)
          else if c = '+' then
            .error (.unknown position)
          else
            .ok (replaced last.regex .final)
      | .fresh =>
          if c = '*' then
            .ok (replaced (.star last.regex) .repeated)
          else if c = '+' then
            .ok (replaced (.plus last.regex) .repeated)
          else
            .ok (replaced (.option last.regex) .repeated)

/-- Reads a character that stands where an item can begin. -/
def readItem
    (reader : Reader)
    (position : Nat)
    (c : Char) :
    Except WrittenError Reader :=
  match c with
  | '\\' => .ok { reader with mode := .escape }
  | '.' => .ok (reader.add .any .fresh)
  | '^' => .ok (reader.add .atStart .anchor)
  | '$' => .ok (reader.add .atEnd .anchor)
  | '[' => .ok { reader with mode := .setStart ⟨position, false, []⟩ }
  | '|' =>
      let g := reader.group
      .ok { reader with group := ⟨g.position, g.current :: g.alternatives, []⟩ }
  | '(' =>
      .ok { reader with group := ⟨position, [], []⟩, outer := reader.group :: reader.outer }
  | ')' =>
      match reader.outer with
      | [] => .error (.groupClosed position)
      | g :: outer => .ok ⟨.item, g.add reader.group.close .fresh, outer⟩
  | '*' => reader.repeatLast position c
  | '+' => reader.repeatLast position c
  | '?' => reader.repeatLast position c
  | '\x7b' => .error (.unknown position)
  | _ => .ok (reader.add (.char c) .fresh)

/-- Reads a character inside a set. -/
def readSet
    (reader : Reader)
    (s : OpenSet)
    (c : Char) :
    Except WrittenError Reader :=
  match c with
  | ']' => s.close.map fun regex => reader.add regex .fresh
  | '\\' => .ok { reader with mode := .setEscape s }
  | _ => .ok { reader with mode := .set { s with characters := (c, false) :: s.characters } }

/-- Reads the next character. -/
def next
    (reader : Reader)
    (position : Nat)
    (c : Char) :
    Except WrittenError Reader :=
  match reader.mode with
  | .item => reader.readItem position c
  | .escape =>
      if isEscapable c then
        .ok (reader.add (.char c) .fresh)
      else
        .error (.unknown (position - 1))
  | .set s => reader.readSet s c
  | .setEscape s =>
      if isEscapable c then
        .ok { reader with mode := .set { s with characters := (c, true) :: s.characters } }
      else
        .error (.unknown (position - 1))
  | .setStart s =>
      if c = '^' ∧ !s.negated then
        .ok { reader with mode := .setStart { s with negated := true } }
      else if c = ']' then
        .ok { reader with mode := .set { s with characters := [(c, false)] } }
      else
        reader.readSet s c

/-- The expression that has been read when the text ends. -/
def finish (reader : Reader) (position : Nat) : Except WrittenError Regex :=
  match reader.mode, reader.outer with
  | .escape, _ => .error (.escapeOpen (position - 1))
  | .set s, _ => .error s.unclosed
  | .setStart s, _ => .error s.unclosed
  | .setEscape _, _ => .error (.escapeOpen (position - 1))
  | .item, _ :: _ => .error (.groupOpen reader.group.position)
  | .item, [] => .ok reader.group.close

def readFrom : Reader → Nat → List Char → Except WrittenError Regex
  | reader, position, [] => reader.finish position
  | reader, position, c :: cs =>
      match reader.next position c with
      | .error e => .error e
      | .ok reader => reader.readFrom (position + 1) cs

end Reader

/-- The regular expression that a text is written for. -/
def parse (text : String) : Except WrittenError Regex :=
  Reader.start.readFrom 0 text.toList

/-- The paths in which a written regular expression occurs. -/
def written : PatternSyntax := fun text =>
  match parse text with
  | .error e => .error e.message
  | .ok regex => .ok fun path => regex.occursIn path.toList

end Pattern
end ModuleSpec
