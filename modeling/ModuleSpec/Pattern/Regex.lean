/-!
# Regular expressions

Regular expressions over characters, with the two anchors.  The end of a text is
also just before a line break that ends it.

**Algorithm.**  A cursor is what is left of a text, with a mark at its very
beginning.  An expression takes a cursor to all cursors at which a match from
there can end.  A repetition takes as many rounds as there are characters left,
since a round that takes none changes nothing.

A pattern occurs in a text when it matches from one of its cursors.
-/

namespace ModuleSpec

/-- A set of characters, given by ranges or by what lies outside of them. -/
structure CharSet where
  negated : Bool
  ranges : List (Char × Char)
  deriving DecidableEq, Repr

namespace CharSet

def contains (set : CharSet) (c : Char) : Bool :=
  (set.ranges.any fun range => range.1 ≤ c && c ≤ range.2) != set.negated

def only (c : Char) : CharSet := ⟨false, [(c, c)]⟩

def not (c : Char) : CharSet := ⟨true, [(c, c)]⟩

/--
The ranges of the characters in a set.  A hyphen that is not escaped, between
two characters, makes a range of them.
-/
def rangesOf : List (Char × Bool) → List (Char × Char)
  | (low, _) :: ('-', false) :: (high, _) :: rest => (low, high) :: rangesOf rest
  | (c, _) :: rest => (c, c) :: rangesOf rest
  | [] => []

/-- Whether every range of a set goes upwards. -/
def isOrdered (set : CharSet) : Bool :=
  set.ranges.all fun range => range.1 ≤ range.2

end CharSet

/-- A regular expression. -/
inductive Regex
  | empty
  | one
      (set : CharSet)
  | seq
      (first second : Regex)
  | alt
      (left right : Regex)
  | star
      (body : Regex)
  | atStart
  | atEnd
  deriving DecidableEq, Repr

/-- What is left of a text, and whether that is all of it. -/
structure Cursor where
  start : Bool
  rest : List Char
  deriving DecidableEq, Repr

namespace Regex

def char (c : Char) : Regex := .one (.only c)

/-- Any character but a line break. -/
def any : Regex := .one (.not '\n')

def plus (r : Regex) : Regex := .seq r (.star r)

def option (r : Regex) : Regex := .alt r .empty

/-- Whether every range in the sets of an expression goes upwards. -/
def isOrdered : Regex → Bool
  | .empty => true
  | .one set => set.isOrdered
  | .seq r s => r.isOrdered && s.isOrdered
  | .alt r s => r.isOrdered && s.isOrdered
  | .star r => r.isOrdered
  | .atStart => true
  | .atEnd => true

/-- One expression after the other. -/
def sequence : List Regex → Regex
  | [] => .empty
  | [r] => r
  | r :: rs => .seq r (sequence rs)

/-- The cursors that repeated steps lead to, in at most the given number of rounds. -/
def repeated (step : Cursor → List Cursor) : Nat → List Cursor → List Cursor
  | 0, front => front
  | n + 1, front =>
      let next := (front.flatMap fun c =>
        (step c).filter fun d => d.rest.length < c.rest.length).eraseDups
      front ++ repeated step n next

/-- The cursors at which a match from a cursor can end. -/
def ends : Regex → Cursor → List Cursor
  | .empty, c => [c]
  | .one set, c =>
      match c.rest with
      | [] => []
      | x :: xs => if set.contains x then [⟨false, xs⟩] else []
  | .seq r s, c => ((ends r c).eraseDups.flatMap (ends s)).eraseDups
  | .alt r s, c => ends r c ++ ends s c
  | .star r, c => repeated (ends r) c.rest.length [c]
  | .atStart, c => if c.start then [c] else []
  | .atEnd, c => if c.rest = [] ∨ c.rest = ['\n'] then [c] else []

/-- Whether some match starts at the cursor. -/
def matchesAt (r : Regex) (c : Cursor) : Bool :=
  !(r.ends c).isEmpty

/-- Whether some match starts at the cursor or further on. -/
def occursFrom (r : Regex) : Bool → List Char → Bool
  | start, [] => r.matchesAt ⟨start, []⟩
  | start, c :: cs => r.matchesAt ⟨start, c :: cs⟩ || r.occursFrom false cs

/-- Whether the expression matches somewhere in a text. -/
def occursIn (r : Regex) (text : List Char) : Bool :=
  r.occursFrom true text

end Regex

end ModuleSpec
