/-!
# Consoles

What shows the lines that the program prints.  A line can carry tags in square
brackets, which are not shown; a tag that makes no sense keeps the whole line from being
shown.  A text that is escaped is shown as it is.

The program relies on three laws of a console, and on nothing else about how it shows a
line: where there is no opening bracket there is no tag; a text that is escaped as a
whole makes no tag after words that have none; and escaping makes no brackets.
-/

namespace ModuleSpec

/-- Why a line cannot be shown. -/
inductive ConsoleError
  /-- A tag makes no sense. -/
  | tag
  /-- A colour in a tag makes no sense. -/
  | color
  deriving DecidableEq, Repr

/-- What shows the lines that are printed. -/
structure Console where
  /-- A text with the tags in it taken as text. -/
  escape : String → String
  /-- What is shown of a line with tags. -/
  render : String → Except ConsoleError String
  /-- What is shown of a line without tags. -/
  renderPlain : String → String

namespace Console

/-- The tags of a line make sense. -/
def Shows (console : Console) (line : String) : Prop :=
  ∃ shown, console.render line = .ok shown

/-- What the program relies on when it prints. -/
structure Lawful (console : Console) : Prop where
  shows_of_no_bracket : ∀ line, '[' ∉ line.toList → console.Shows line
  /-- A backslash at the end of the words could take the meaning from what comes after. -/
  shows_append_escape : ∀ before text, '[' ∉ before.toList →
    before.toList.getLast? ≠ some '\\' → console.Shows (before ++ console.escape text)
  no_bracket_escape : ∀ text, '[' ∉ text.toList → '[' ∉ (console.escape text).toList

end Console

end ModuleSpec
