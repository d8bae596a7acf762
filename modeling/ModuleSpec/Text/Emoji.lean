import ModuleSpec.Text.Blank
import ModuleSpec.Text.Digit
import ModuleSpec.Text.Emoji.Flag
import ModuleSpec.Text.Emoji.Person
import ModuleSpec.Text.Emoji.Symbol
import ModuleSpec.Text.Lower
import ModuleSpec.Text.Split

/-!
# Symbols by name

In a text for a terminal a name between two colons stands for a symbol.  No
white space comes between the colons.  Capitals in the name count as small
letters.  After the name the word "emoji" or "text", set off by a hyphen, asks
for the symbol as a picture or as a character.  A name without a symbol is shown
with its colons, and the second of them begins no other name.

A flag goes by the name of its country and is written with the two letters of
that country.  A person or a gesture has a form for every tone of skin, and the
name of the form ends in the name of the tone.
-/

namespace ModuleSpec
namespace Text
namespace Emoji

/-! ## Tables -/

/-- The names and values in a line. -/
def entries : List (List Char) → List (List Char × List Char)
  | name :: value :: rest => (name, value) :: entries rest
  | _ => []

/-- The value that a table gives to a name. -/
def valueIn? (table : List String) (name : List Char) : Option (List Char) :=
  table.findSome? fun line =>
    ((entries (split ' ' line.toList)).find? fun entry => entry.1 == name).map Prod.snd

/-- The characters with the given code points, in hexadecimal and with hyphens between. -/
def ofCodePoints (text : List Char) : List Char :=
  (split '-' text).map fun digits =>
    Char.ofNat (ofDigits 16 (digits.filterMap (digitIn? 16)))

/-- What stands before an ending, if a text has it. -/
def beforeEnd? (ending : String) (text : List Char) : Option (List Char) :=
  if ending.toList.isSuffixOf text then
    some (text.take (text.length - ending.length))
  else
    none

/-- What stands after a beginning, if a text has it. -/
def afterStart? (beginning : String) (text : List Char) : Option (List Char) :=
  if beginning.toList.isPrefixOf text then
    some (text.drop beginning.length)
  else
    none

/-! ## Names -/

/-- A letter from A to Z in the form in which two of them make a flag. -/
def flagLetter (c : Char) : Char :=
  Char.ofNat (0x1f1e6 + (c.toNat - 'A'.toNat))

/-- The flag of a country. -/
def flag? (name : List Char) : Option (List Char) :=
  let letters :=
    match afterStart? "flag_for_" name with
    | some country => valueIn? (countries ++ announcedCountries) country
    | none => valueIn? (countries ++ plainCountries) name
  letters.map fun cs => cs.map flagLetter

/-- The tones of skin, by their names. -/
def skinTones : List (String × Char) :=
  [
    ("_light_skin_tone", Char.ofNat 0x1f3fb),
    ("_medium-light_skin_tone", Char.ofNat 0x1f3fc),
    ("_medium_skin_tone", Char.ofNat 0x1f3fd),
    ("_medium-dark_skin_tone", Char.ofNat 0x1f3fe),
    ("_dark_skin_tone", Char.ofNat 0x1f3ff)
  ]

/-- The mark that asks for a symbol as a picture. -/
def pictureMark : Char := '\ufe0f'

/-- The mark that asks for a symbol as a character. -/
def characterMark : Char := '\ufe0e'

/--
A symbol with a tone of skin, which comes after the first character.  There it
takes the place of the mark that asks for a picture.
-/
def withTone (tone : Char) : List Char → List Char
  | [] => []
  | [c] => [c, tone]
  | c :: mark :: cs => c :: tone :: if mark = pictureMark then cs else mark :: cs

/-- A person or a gesture with a tone of skin. -/
def tonedPerson? (name : List Char) : Option (List Char) :=
  skinTones.findSome? fun (ending, tone) =>
    (beforeEnd? ending name).bind fun person =>
      (valueIn? people person).map fun codes => withTone tone (ofCodePoints codes)

/-- The symbol of a name in small letters. -/
def ofName? (name : List Char) : Option (List Char) :=
  if name.isEmpty then
    none
  else
    ((valueIn? symbols name).map ofCodePoints)
      <|> ((valueIn? people name).map ofCodePoints)
      <|> tonedPerson? name
      <|> flag? name

/-! ## Codes in a text -/

/-- What stands before the next colon, if no white space does. -/
def beforeColon? : List Char → Option (List Char)
  | [] => none
  | c :: cs =>
      if c = ':' then some []
      else if isBlank c then none
      else (beforeColon? cs).map (c :: ·)

/-- The endings that ask for a form of a symbol, with the mark that asks for it. -/
def forms : List (String × Char) :=
  [("-emoji", pictureMark), ("-text", characterMark)]

/-- The symbol that the text between two colons stands for. -/
def ofCode? (code : List Char) : Option (List Char) :=
  let form? := forms.findSome? fun (ending, mark) =>
    (beforeEnd? ending code).map fun name => (name, [mark])
  let (name, marks) := form?.getD (code, [])
  (ofName? (lower name)).map (· ++ marks)

/-- The text with symbols for names, after the given number of characters. -/
def replaceFrom : Nat → List Char → List Char
  | _, [] => []
  | n + 1, _ :: cs => replaceFrom n cs
  | 0, c :: cs =>
      match if c = ':' then beforeColon? cs else none with
      | none => c :: replaceFrom 0 cs
      | some code =>
          (ofCode? code).getD (':' :: (code ++ [':'])) ++ replaceFrom (code.length + 1) cs

/-- The text with symbols for names. -/
def replace (text : List Char) : List Char :=
  replaceFrom 0 text

end Emoji
end Text
end ModuleSpec
