import ModuleSpec.Text.Blank
import ModuleSpec.Text.Color

/-!
# Styles

A style says how text is shown: effects that are on or off, a colour, a colour
of the background, and a link.  It is written in words.  The name of an effect,
in full or short, switches it on, and off after the word "not"; a colour alone is
that of the text, and after the word "on" that of the background; after the word
"link" comes an address.  Of several settings the last one counts.

Every style has one name, in which the effects stand in a fixed order.  Two texts
with one name are the same style.
-/

namespace ModuleSpec
namespace Text

/-- Something about text that is on or off. -/
inductive Effect
  | bold
  | dim
  | italic
  | underline
  | blink
  | blink2
  | reverse
  | conceal
  | strike
  | underline2
  | frame
  | encircle
  | overline
  deriving DecidableEq, Repr

namespace Effect

/-- The effects in the order in which a style names them. -/
def all : List Effect :=
  [
    bold, dim, italic, underline, blink, blink2, reverse, conceal, strike,
    underline2, frame, encircle, overline
  ]

def name : Effect → String
  | bold => "bold"
  | dim => "dim"
  | italic => "italic"
  | underline => "underline"
  | blink => "blink"
  | blink2 => "blink2"
  | reverse => "reverse"
  | conceal => "conceal"
  | strike => "strike"
  | underline2 => "underline2"
  | frame => "frame"
  | encircle => "encircle"
  | overline => "overline"

/-- The short name of an effect, if it has one. -/
def shortName? : Effect → Option String
  | bold => some "b"
  | dim => some "d"
  | italic => some "i"
  | underline => some "u"
  | reverse => some "r"
  | conceal => some "c"
  | strike => some "s"
  | underline2 => some "uu"
  | overline => some "o"
  | blink | blink2 | frame | encircle => none

/-- The effect of a word. -/
def ofWord? (word : List Char) : Option Effect :=
  let text := String.ofList word
  all.find? fun e => e.name == text || e.shortName? == some text

end Effect

/-- How text is shown; the setting of an effect that was made last comes first. -/
structure Style where
  effects : List (Effect × Bool)
  color : Option (List Char)
  background : Option (List Char)
  link : Option (List Char)
  deriving DecidableEq, Repr

/-- The words of a text. -/
def words (text : List Char) : List (List Char) :=
  (split ' ' (text.map fun c => if isBlank c then ' ' else c)).filter fun word =>
    !word.isEmpty

namespace Style

/-- The style that changes nothing. -/
def plain : Style :=
  ⟨[], none, none, none⟩

/-- Switches an effect on or off. -/
def set (s : Style) (e : Effect) (on : Bool) : Style :=
  { s with effects := (e, on) :: s.effects }

/-- Whether an effect is on, if that is said. -/
def setting? (s : Style) (e : Effect) : Option Bool :=
  (s.effects.find? fun setting => setting.1 == e).map Prod.snd

/-- The words that name the setting of an effect. -/
def effectWords (s : Style) (e : Effect) : List (List Char) :=
  match s.setting? e with
  | none => []
  | some true => [e.name.toList]
  | some false => ["not".toList, e.name.toList]

/-- The words that name a style. -/
def nameWords (s : Style) : List (List Char) :=
  Effect.all.flatMap s.effectWords
    ++ s.color.toList
    ++ (match s.background with
        | none => []
        | some color => ["on".toList, color])
    ++ (match s.link with
        | none => []
        | some address => ["link".toList, address])

/-- The one name of a style. -/
def name (s : Style) : List Char :=
  if s.nameWords.isEmpty then "none".toList else joinWith ' ' s.nameWords

/-- Reads a word that stands by itself. -/
def readWord (s : Style) (word : List Char) : Except Color.Error Style :=
  match Effect.ofWord? (lower word) with
  | some e => .ok (s.set e true)
  | none => (Color.read word).map fun color => { s with color := some color }

/-- What the words after a style add to it. -/
def readWords : Style → List (List Char) → Except Color.Error Style
  | s, [] => .ok s
  | s, word :: rest =>
      let text := String.ofList (lower word)
      if text = "on" then
        match rest with
        | [] => .error .malformed
        | color :: rest =>
            match Color.read color with
            | .ok color => readWords { s with background := some color } rest
            | .error e => .error e
      else if text = "not" then
        match rest with
        | [] => .error .malformed
        | effect :: rest =>
            match Effect.ofWord? effect with
            | some e => readWords (s.set e false) rest
            | none => .error .malformed
      else if text = "link" then
        match rest with
        | [] => .error .malformed
        | address :: rest => readWords { s with link := some address } rest
      else
        match readWord s word with
        | .ok s => readWords s rest
        | .error e => .error e

/-- The style that a text describes. -/
def read (text : List Char) : Except Color.Error Style :=
  if trim text = "none".toList then .ok plain else readWords plain (words text)

/--
The name of the style that a text describes, or else the text itself in small
letters; none when a component of a colour is empty.
-/
def normalName? (text : List Char) : Option (List Char) :=
  match read text with
  | .ok s => some s.name
  | .error .malformed => some (lower (trim text))
  | .error .emptyComponent => none

/-- Whether a text can be taken for a style, even if it describes none. -/
def isHarmless (text : List Char) : Bool :=
  (normalName? text).isSome

end Style
end Text
end ModuleSpec
