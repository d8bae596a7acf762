import ModuleSpec.Text.Digit
import ModuleSpec.Text.Split

/-!
# Literals

A literal is a text that writes down a value: a number, a quoted text, a
constant, or a tuple, a set or a map of literals.  A number can have a sign, and
a real number and an imaginary one can be added.  Elements of a set and keys of a
map must be values that do not change, so they can hold no set and no map.

A literal is read in two passes.  The first one cuts the text into tokens and
checks the inside of each; the second one checks how the tokens go together.
-/

namespace ModuleSpec
namespace Text
namespace Literal

/-! ## Tokens -/

/-- A token of a literal; brackets are curly or round. -/
inductive Token
  | opening (curly : Bool)
  | closing (curly : Bool)
  | comma
  | colon
  | sign
  | number (imaginary : Bool)
  | quoted (binary : Bool)
  | constant
  | setName
  deriving DecidableEq, Repr

/-- Whether a character belongs to the ASCII range. -/
def isPlain (c : Char) : Bool :=
  c.toNat < 128

/-- Whether a character can stand in a name. -/
def isNameChar (c : Char) : Bool :=
  c.isAlphanum || c == '_' || !isPlain c

/-- Whether a character ends a line. -/
def isNewline (c : Char) : Bool :=
  c == '\n' || c == '\r'

/-- Whether a character is a digit in a base, as numbers are written here. -/
def isDigitIn (base : Nat) (c : Char) : Bool :=
  isPlain c && (digitIn? base c).isSome

/-- Whether a text consists of digits, with single underscores between some of them. -/
def isDigitRun (base : Nat) (text : List Char) : Bool :=
  (split '_' text).all fun digits => !digits.isEmpty && digits.all (isDigitIn base)

/-- The base that the letter after a zero stands for. -/
def baseOf? (letter : Char) : Option Nat :=
  match letter.toLower with
  | 'x' => some 16
  | 'o' => some 8
  | 'b' => some 2
  | _ => none

/-- Whether a text is a whole number that begins with a zero and the letter of its base. -/
def isMarked : List Char → Bool
  | '0' :: letter :: digits =>
      match baseOf? letter with
      | some base => isDigitRun base (if digits.head? == some '_' then digits.tail else digits)
      | none => false
  | _ => false

/-- Whether a text is empty or consists of decimal digits. -/
def isOptionalRun (text : List Char) : Bool :=
  text.isEmpty || isDigitRun 10 text

/-- Whether a character begins an exponent. -/
def isExponentMark (c : Char) : Bool :=
  c == 'e' || c == 'E'

/-- Whether a character is a sign. -/
def isSign (c : Char) : Bool :=
  c == '+' || c == '-'

/-- Whether a text is an exponent or nothing. -/
def isExponent : List Char → Bool
  | [] => true
  | [_] => false
  | _ :: c :: digits => isDigitRun 10 (if isSign c then digits else c :: digits)

/-- Whether decimal digits begin with no zero, or hold nothing else. -/
def isCanonical (digits : List Char) : Bool :=
  digits.head? != some '0' || digits.all fun c => c == '0' || c == '_'

/-- Whether a text is a decimal number; a whole one begins with no zero. -/
def isDecimal (whole : Bool) (text : List Char) : Bool :=
  let mantissa := text.takeWhile fun c => !isExponentMark c
  let exponent := text.drop mantissa.length
  isExponent exponent &&
    match split '.' mantissa with
    | [digits] =>
        isDigitRun 10 digits && (!whole || !exponent.isEmpty || isCanonical digits)
    | [digits, fraction] =>
        isOptionalRun digits && isOptionalRun fraction
          && !(digits.isEmpty && fraction.isEmpty)
    | _ => false

/-- The token of a text that is a number. -/
def numberToken? (text : List Char) : Option Token :=
  let last := text.getLast?
  if isMarked text then
    some (.number false)
  else if last == some 'j' || last == some 'J' then
    if isDecimal false text.dropLast then some (.number true) else none
  else
    if isDecimal true text then some (.number false) else none

/--
The front of a text up to the end of a number.  A sign belongs to it after the
mark of an exponent, which a number with a base does not have.
-/
def numberText (marked : Bool) : Bool → List Char → List Char
  | _, [] => []
  | afterMark, c :: cs =>
      if isNameChar c || c == '.' || (afterMark && isSign c) then
        c :: numberText marked (!marked && isExponentMark c) cs
      else
        []

/-- The number at the front of a text. -/
def numberAt? (text : List Char) : Option (Token × List Char) :=
  let marked := text.head? == some '0' && (text.tail.head?.bind baseOf?).isSome
  let front := numberText marked false text
  (numberToken? front).map fun token => (token, text.drop front.length)

/-- Whether a text begins with the given number of hexadecimal digits. -/
def startsWithHex (count : Nat) (text : List Char) : Bool :=
  count ≤ text.length && (text.take count).all (isDigitIn 16)

/-- The number that the first hexadecimal digits of a text stand for. -/
def hexValue (count : Nat) (text : List Char) : Nat :=
  ofDigits 16 ((text.take count).filterMap (digitIn? 16))

/-- Whether a text begins with a name in curly brackets. -/
def startsWithName (text : List Char) : Bool :=
  let name := text.tail.takeWhile (· != '\x7d')
  text.head? == some '\x7b' && !name.isEmpty && name.length + 1 < text.length

/-- Whether a character after a backslash makes sense before a text. -/
def isEscape (binary : Bool) (c : Char) (text : List Char) : Bool :=
  if c = 'x' then startsWithHex 2 text
  else if binary then isPlain c
  else if c = 'u' then startsWithHex 4 text
  else if c = 'U' then startsWithHex 8 text && hexValue 8 text < 0x110000
  else if c = 'N' then startsWithName text
  else true

/-- What follows a quoted text, given what closes it. -/
def afterQuoted? (raw binary : Bool) (closing : List Char) : List Char → Option (List Char)
  | [] => none
  | c :: cs =>
      if closing.isPrefixOf (c :: cs) then
        some ((c :: cs).drop closing.length)
      else if c = '\\' then
        match cs with
        | [] => none
        | escaped :: cs =>
            if raw || isEscape binary escaped cs then
              if binary && !isPlain escaped then none else afterQuoted? raw binary closing cs
            else
              none
      else if closing.length = 1 && isNewline c then
        none
      else if binary && !isPlain c then
        none
      else
        afterQuoted? raw binary closing cs

/-- The quoted text at the front of a text. -/
def quotedAt? (raw binary : Bool) : List Char → Option (Token × List Char)
  | [] => none
  | quote :: cs =>
      let rest? :=
        if [quote, quote].isPrefixOf cs then
          afterQuoted? raw binary [quote, quote, quote] (cs.drop 2)
        else
          afterQuoted? raw binary [quote] cs
      rest?.map fun rest => (.quoted binary, rest)

/-- Whether a character begins a quoted text. -/
def isQuote (c : Char) : Bool :=
  c == '"' || c == '\''

/-- The token of a name by itself. -/
def nameToken? (name : String) : Option Token :=
  if ["True", "False", "None"].contains name then some .constant
  else if name = "set" then some .setName
  else none

/-- The name at the front of a text, or the quoted text that it introduces. -/
def nameAt? (text : List Char) : Option (Token × List Char) :=
  let name := text.takeWhile isNameChar
  let rest := text.drop name.length
  if (rest.head?.map isQuote).getD false then
    match String.ofList (name.map Char.toLower) with
    | "u" => quotedAt? false false rest
    | "r" => quotedAt? true false rest
    | "b" => quotedAt? false true rest
    | "br" | "rb" => quotedAt? true true rest
    | _ => none
  else
    (nameToken? (String.ofList name)).map fun token => (token, rest)

/-- The token at the front of a text. -/
def tokenAt? : List Char → Option (Token × List Char)
  | '(' :: cs => some (.opening false, cs)
  | ')' :: cs => some (.closing false, cs)
  | '\x7b' :: cs => some (.opening true, cs)
  | '\x7d' :: cs => some (.closing true, cs)
  | ',' :: cs => some (.comma, cs)
  | ':' :: cs => some (.colon, cs)
  | '+' :: cs => some (.sign, cs)
  | '-' :: cs => some (.sign, cs)
  | '.' :: '.' :: '.' :: cs => some (.constant, cs)
  | [] => none
  | c :: cs =>
      if isQuote c then quotedAt? false false (c :: cs)
      else if c == '.' || c.isDigit then numberAt? (c :: cs)
      else nameAt? (c :: cs)

/-- The number of brackets that can be open at a time. -/
def maxDepth : Nat := 200

/-- The number of open brackets after a token. -/
def depthAfter? (depth : Nat) : Token → Option Nat
  | .opening _ => if depth < maxDepth then some (depth + 1) else none
  | .closing _ => some (depth - 1)
  | _ => some depth

/--
The tokens of a text, given the number of open brackets.  A line can end inside
brackets or after a backslash; elsewhere its end is that of the literal.  A
comment goes on to the end of its line.  The budget bounds the number of steps.
-/
def tokensWithin : Nat → Nat → List Char → Option (List Token)
  | _, _, [] => some []
  | 0, _, _ :: _ => none
  | n + 1, depth, c :: cs =>
      if c = ' ' ∨ c = '\t' ∨ c = '\x0c' then
        tokensWithin n depth cs
      else if c = '#' then
        tokensWithin n depth (cs.dropWhile fun c => !isNewline c)
      else if isNewline c then
        (tokensWithin n depth cs).filter fun tokens => 0 < depth || tokens.isEmpty
      else if c = '\\' then
        if 1 < cs.length && (cs.head?.map isNewline).getD false then
          tokensWithin n depth cs.tail
        else
          none
      else
        (tokenAt? (c :: cs)).bind fun (token, rest) =>
          (depthAfter? depth token).bind fun depth =>
            (tokensWithin n depth rest).map (token :: ·)

/-- The tokens of a text; every step takes a character of it. -/
def tokens? (text : List Char) : Option (List Token) :=
  tokensWithin text.length 0 text

/-! ## Values -/

/-- What is known of the value of a literal. -/
inductive Kind
  /-- A real number without a sign. -/
  | real
  /-- An imaginary number without a sign. -/
  | imaginary
  /-- A real number with a sign. -/
  | signedReal
  /-- Another value that does not change. -/
  | fixed
  /-- A value that can change, or that holds one. -/
  | mutable
  deriving DecidableEq, Repr

namespace Kind

/-- The kind of a number after a sign. -/
def withSign? : Kind → Option Kind
  | real => some signedReal
  | imaginary => some fixed
  | _ => none

/-- The kind of the sum or the difference of two numbers. -/
def sum? : Kind → Kind → Option Kind
  | real, imaginary => some fixed
  | signedReal, imaginary => some fixed
  | _, _ => none

/-- Whether a value can be an element of a set or a key of a map. -/
def isElement (k : Kind) : Bool :=
  k != mutable

end Kind

/-- An item between brackets: a value, or a key with its value. -/
structure Item where
  kind : Kind
  isPair : Bool
  deriving DecidableEq, Repr

/-- Items, whether a comma comes after one of them, and the tokens that follow. -/
structure Items where
  items : List Item
  comma : Bool
  rest : List Token

namespace Items

/-- The kind of the value that items in round brackets write down. -/
def round? (i : Items) : Option Kind :=
  match i.items with
  | [item] =>
      if item.isPair then none
      else if i.comma && !item.kind.isElement then some .mutable
      else if i.comma then some .fixed
      else some item.kind
  | items =>
      if items.any Item.isPair then none
      else if items.all fun item => item.kind.isElement then some .fixed
      else some .mutable

/-- The kind of the value that items in curly brackets write down. -/
def curly? (i : Items) : Option Kind :=
  if i.items.all (fun item => item.kind.isElement)
      && (i.items.all Item.isPair || !i.items.any Item.isPair) then
    some .mutable
  else
    none

/-- The kind of the value that items in brackets write down. -/
def bracketed? (curly : Bool) (i : Items) : Option Kind :=
  if curly then i.curly? else i.round?

end Items

/-- The tokens after a row of quoted texts of one sort. -/
def afterTexts? (binary : Bool) : List Token → Option (List Token)
  | .quoted other :: rest => if other = binary then afterTexts? binary rest else none
  | rest => some rest

/-- Whether items can end before the tokens. -/
def atEnd : List Token → Bool
  | [] => true
  | .closing _ :: _ => true
  | _ => false

mutual

/-- The value without a sign at the front of tokens. -/
def atom? : Nat → List Token → Option (Kind × List Token)
  | 0, _ => none
  | n + 1, tokens =>
      match tokens with
      | .number imaginary :: rest => some (if imaginary then .imaginary else .real, rest)
      | .quoted binary :: rest => (afterTexts? binary rest).map fun rest => (.fixed, rest)
      | .constant :: rest => some (.fixed, rest)
      | .setName :: .opening false :: .closing false :: rest => some (.mutable, rest)
      | .opening curly :: .closing other :: rest =>
          if curly = other then some (if curly then .mutable else .fixed, rest) else none
      | .opening curly :: rest =>
          (items? n rest).bind fun i =>
            match i.rest with
            | .closing other :: rest =>
                if curly = other then
                  (i.bracketed? curly).map fun kind => (kind, rest)
                else
                  none
            | _ => none
      | _ => none

/-- The value at the front of tokens, without a sum. -/
def signed? : Nat → List Token → Option (Kind × List Token)
  | 0, _ => none
  | n + 1, tokens =>
      match tokens with
      | .sign :: rest =>
          (atom? n rest).bind fun (kind, rest) => kind.withSign?.map fun kind => (kind, rest)
      | _ => atom? n tokens

/-- The value at the front of tokens. -/
def value? : Nat → List Token → Option (Kind × List Token)
  | 0, _ => none
  | n + 1, tokens =>
      (signed? n tokens).bind fun (left, rest) =>
        match rest with
        | .sign :: rest =>
            (signed? n rest).bind fun (right, rest) =>
              (left.sum? right).map fun kind => (kind, rest)
        | _ => some (left, rest)

/-- The item at the front of tokens. -/
def item? : Nat → List Token → Option (Item × List Token)
  | 0, _ => none
  | n + 1, tokens =>
      (value? n tokens).bind fun (kind, rest) =>
        match rest with
        | .colon :: rest => (value? n rest).map fun (_, rest) => (⟨kind, true⟩, rest)
        | _ => some (⟨kind, false⟩, rest)

/-- The items at the front of tokens, at least one. -/
def items? : Nat → List Token → Option Items
  | 0, _ => none
  | n + 1, tokens =>
      (item? n tokens).bind fun (item, rest) =>
        match rest with
        | .comma :: rest =>
            if atEnd rest then
              some ⟨[item], true, rest⟩
            else
              (items? n rest).map fun i => ⟨item :: i.items, true, i.rest⟩
        | _ => some ⟨[item], false, rest⟩

end

/-- The number of steps that suffice to read the given number of tokens. -/
def budget (tokens : Nat) : Nat :=
  5 * (tokens + 1)

/-- Whether tokens form a literal; the outermost tuple needs no brackets. -/
def isWellFormed (tokens : List Token) : Bool :=
  match items? (budget tokens.length) tokens with
  | some i => i.rest.isEmpty && i.round?.isSome
  | none => false

end Literal

/-- Whether a text is a literal. -/
def isLiteral (text : List Char) : Bool :=
  match Literal.tokens? text with
  | some tokens => Literal.isWellFormed tokens
  | none => false

end Text
end ModuleSpec
