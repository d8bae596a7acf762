import ModuleSpec.Console
import ModuleSpec.Text.Emoji
import ModuleSpec.Text.Literal
import ModuleSpec.Text.Style
import ModuleSpec.Text.Width
import ModuleSpec.Text.Word

/-!
# Markup

Text for a terminal can carry tags in square brackets.  A tag begins with a
small letter, a number sign, a slash or an at sign and goes on to the next
closing bracket, without another opening bracket before that.  A tag is not
shown.  One that begins with a slash closes the latest open tag that describes
the same style, or the last one if it describes none, and has to find one that is
open.  After an equals sign a tag carries a value; a tag that begins with an at
sign stands for an event, and its value has to be a literal when it is closed.

A backslash before a tag makes it plain text.  Of several backslashes before a
tag every two stand for one.  Elsewhere a backslash before an opening bracket
vanishes, and every other backslash is shown.  So a text is escaped by doubling
the backslashes before each of its tags and adding one.

Between two tags the names of symbols give way to the symbols, characters that
would move the cursor are not shown, and a tab is shown as spaces.
-/

namespace ModuleSpec
namespace Text
namespace Markup

/-- A tag, with the number of backslashes before it. -/
structure Tag where
  escapes : Nat
  body : List Char
  deriving DecidableEq, Repr

namespace Tag

/-- The tag in its brackets. -/
def bracketed (tag : Tag) : List Char :=
  '[' :: (tag.body ++ [']'])

/-- The number of characters that the tag and its backslashes take. -/
def length (tag : Tag) : Nat :=
  tag.escapes + tag.body.length + 2

end Tag

/-- Whether a tag can begin with the character. -/
def isTagStart (c : Char) : Bool :=
  ('a' ≤ c && c ≤ 'z') || c == '#' || c == '/' || c == '@'

/-- What stands before the next closing bracket, if no opening one does. -/
def beforeBracket? : List Char → Option (List Char)
  | [] => none
  | ']' :: _ => some []
  | '[' :: _ => none
  | c :: cs => (beforeBracket? cs).map (c :: ·)

/-- The tag at the front of a text, with its backslashes. -/
def tagAt? : List Char → Option Tag
  | '\\' :: cs => (tagAt? cs).map fun tag => ⟨tag.escapes + 1, tag.body⟩
  | '[' :: c :: cs =>
      if isTagStart c then
        (beforeBracket? cs).map fun rest => ⟨0, c :: rest⟩
      else
        none
  | _ => none

/-- A piece of a text: what stands between two tags, or a tag. -/
inductive Piece
  | plain (text : List Char)
  | tag (t : Tag)
  deriving DecidableEq, Repr

/-- The piece of plain text that is given in reverse, unless it is empty. -/
def plainPiece (run : List Char) : List Piece :=
  if run.isEmpty then [] else [.plain run.reverse]

/--
The pieces of a text, after the given number of characters.  The second argument
holds the plain text since the last tag, in reverse.
-/
def piecesFrom : Nat → List Char → List Char → List Piece
  | _, run, [] => plainPiece run
  | n + 1, run, _ :: cs => piecesFrom n run cs
  | 0, run, c :: cs =>
      match tagAt? (c :: cs) with
      | some tag => plainPiece run ++ .tag tag :: piecesFrom (tag.length - 1) [] cs
      | none => piecesFrom 0 (c :: run) cs

def pieces (text : List Char) : List Piece :=
  piecesFrom 0 [] text

/-! ## Escaping -/

/-- Doubles a single backslash at the end. -/
def closeEnd (text : List Char) : List Char :=
  match text.reverse with
  | ['\\'] => text ++ ['\\']
  | '\\' :: c :: _ => if c = '\\' then text else text ++ ['\\']
  | _ => text

/-- A piece with its tag escaped. -/
def escapePiece : Piece → List Char
  | .plain text => text
  | .tag t => List.replicate (2 * t.escapes + 1) '\\' ++ t.bracketed

/-- The text with its tags escaped. -/
def escape (text : List Char) : List Char :=
  closeEnd ((pieces text).flatMap escapePiece)

/-! ## Open tags -/

/-- Why a text cannot be shown. -/
inductive Error
  /-- A closing tag finds nothing to close. -/
  | nothingToClose
  /-- The value of an event is no literal. -/
  | badValue
  /-- A component of a colour is empty. -/
  | badColor
  deriving DecidableEq, Repr

/-- A tag that is open: its name, and the value that it carries. -/
structure Opened where
  name : List Char
  value : Option (List Char)
  deriving DecidableEq, Repr

namespace Opened

/-- The open tag that the inside of a tag describes. -/
def ofBody (body : List Char) : Except Error Opened :=
  let text := body.takeWhile (· != '=')
  let value := if text.length = body.length then none else some (body.drop (text.length + 1))
  match Style.normalName? text with
  | some name => .ok ⟨name, value⟩
  | none => .error .badColor

/-- The text of the style that a tag asks for. -/
def styleText (tag : Opened) : List Char :=
  tag.name ++ (tag.value.map fun value => ' ' :: value).getD []

/-- Whether a tag stands for an event. -/
def isEvent (tag : Opened) : Bool :=
  tag.name.head? == some '@'

end Opened

/-- The inside of a call in a text: what comes after the name, or nothing in brackets. -/
def callArguments (text : List Char) : List Char :=
  match text.dropWhile fun c => isWord c || c == '.' with
  | [] => ['(', ')']
  | c :: cs =>
      if c = '(' ∧ cs.getLast? = some ')' ∧ cs.all (· != '\n') then c :: cs else text

/-- Whether the value of an event makes sense. -/
def isEventValue (value : List Char) : Bool :=
  isLiteral (callArguments (trim value))

/-- Checks a tag that is closed. -/
def checkClosed (tag : Opened) : Except Error Unit :=
  if tag.isEvent && !((tag.value.map isEventValue).getD true) then
    .error .badValue
  else
    .ok ()

/-- The open tags, latest first, after the last one is closed. -/
def closeLast : List Opened → Except Error (List Opened)
  | [] => .error .nothingToClose
  | tag :: opened => (checkClosed tag).map fun _ => opened

/-- The open tags, latest first, after the latest one of a name is closed. -/
def closeNamed
    (opened : List Opened)
    (name : List Char) :
    Except Error (List Opened) :=
  match opened.find? fun tag => tag.name == name with
  | none => .error .nothingToClose
  | some tag =>
      (checkClosed tag).map fun _ => opened.eraseP fun tag => tag.name == name

/-- The open tags, latest first, after one more tag. -/
def openAfter
    (opened : List Opened)
    (body : List Char) :
    Except Error (List Opened) :=
  match body with
  | '/' :: rest =>
      let text := trim (rest.takeWhile (· != '='))
      if text.isEmpty then
        closeLast opened
      else
        match Style.normalName? text with
        | some name => closeNamed opened name
        | none => .error .badColor
  | _ => (Opened.ofBody body).map fun tag => tag :: opened

/-! ## Showing -/

/-- A text without the backslashes before its opening brackets. -/
def dropEscapes : List Char → List Char
  | [] => []
  | '\\' :: '[' :: cs => '[' :: dropEscapes cs
  | c :: cs => c :: dropEscapes cs

/-- What is shown of the pieces of a text. -/
def shown : List Opened → List Piece → Except Error (List Char)
  | _, [] => .ok []
  | opened, .plain text :: ps =>
      (shown opened ps).map fun rest => Emoji.replace (dropEscapes text) ++ rest
  | opened, .tag t :: ps =>
      let backslashes := List.replicate (t.escapes / 2) '\\'
      if t.escapes % 2 = 1 then
        (shown opened ps).map fun rest => backslashes ++ Emoji.replace t.bracketed ++ rest
      else
        (openAfter opened t.body).bind fun opened =>
          (shown opened ps).map fun rest => backslashes ++ rest

/-- The texts of the styles that the pieces of a text ask for. -/
def styleTexts (ps : List Piece) : List (List Char) :=
  ps.filterMap fun
    | .plain _ => none
    | .tag t =>
        if t.escapes % 2 = 1 || t.body.head? == some '/' then
          none
        else
          (Opened.ofBody t.body).toOption.map Opened.styleText

/-- Whether a character moves the cursor and is never shown. -/
def isControl (c : Char) : Bool :=
  let n := c.toNat
  n == 7 || n == 8 || n == 11 || n == 12 || n == 13

/-- A text as a terminal shows it. -/
def onTerminal (text : List Char) : List Char :=
  expandTabs (text.filter fun c => !isControl c)

/-- What is shown of a text without tags. -/
def renderPlain (text : List Char) : List Char :=
  onTerminal (Emoji.replace text)

/-- What is shown of a text. -/
def render (text : List Char) : Except Error (List Char) :=
  let ps := pieces text
  match shown [] ps with
  | .error e => .error e
  | .ok cs =>
      if (styleTexts ps).all Style.isHarmless then
        .ok (onTerminal cs)
      else
        .error .badColor

/-- Why a line with the tags of a text cannot be shown. -/
def Error.toConsole : Error → ConsoleError
  | nothingToClose => .tag
  | badValue => .tag
  | badColor => .color

/-- The console that shows texts without what their tags ask for. -/
def console : Console where
  escape text := String.ofList (escape text.toList)
  render line := ((render line.toList).mapError Error.toConsole).map String.ofList
  renderPlain line := String.ofList (renderPlain line.toList)

end Markup
end Text
end ModuleSpec
