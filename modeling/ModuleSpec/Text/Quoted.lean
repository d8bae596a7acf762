import ModuleSpec.Text.Visible

/-!
# Quoted text

A text inside a message stands between single quotes, or between double quotes
when it holds a single quote and no double quote.  The quote itself and the
backslash are escaped, and so is every character that has no visible form.
-/

namespace ModuleSpec
namespace Text

/-- The given number of hexadecimal digits of a number. -/
def hexDigits (width n : Nat) : List Char :=
  let digits := Nat.toDigits 16 n
  List.replicate (width - digits.length) '0' ++ digits

/-- A character inside the given quotes. -/
def escapeIn (quote c : Char) : List Char :=
  let n := c.toNat
  if c = quote ∨ c = '\\' then ['\\', c]
  else if c = '\n' then ['\\', 'n']
  else if c = '\r' then ['\\', 'r']
  else if c = '\t' then ['\\', 't']
  else if isVisible c then [c]
  else if n < 256 then '\\' :: 'x' :: hexDigits 2 n
  else if n < 65536 then '\\' :: 'u' :: hexDigits 4 n
  else '\\' :: 'U' :: hexDigits 8 n

/-- A text between quotes. -/
def quoted (text : String) : String :=
  let cs := text.toList
  let quote := if cs.contains '\'' && !cs.contains '"' then '"' else '\''
  String.ofList (quote :: (cs.flatMap (escapeIn quote) ++ [quote]))

/-- The message for a word that is none of the words expected. -/
def unknownWord
    (noun word : String)
    (expected : List String) :
    String :=
  s!"Unknown {noun} {quoted word}. Expected one of: " ++ ", ".intercalate expected

end Text
end ModuleSpec
