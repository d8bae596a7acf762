/-!
# White space and lines

White space is what separates words in any script: the ASCII blanks, the four
information separators and the Unicode spaces.  A zero width space and a byte
order mark are not white space.

A text read from a file has one way to end a line, the line feed: a carriage
return, alone or before a line feed, is read as one.
-/

namespace ModuleSpec
namespace Text

def isBlank (c : Char) : Bool :=
  let n := c.toNat
  (9 ≤ n && n ≤ 13) || (28 ≤ n && n ≤ 32) || n == 0x85 || n == 0xa0
    || n == 0x1680 || (0x2000 ≤ n && n ≤ 0x200a) || n == 0x2028 || n == 0x2029
    || n == 0x202f || n == 0x205f || n == 0x3000

/-- The text without what a test finds at its end. -/
def trimEndBy (test : Char → Bool) (text : List Char) : List Char :=
  (text.reverse.dropWhile test).reverse

/-- The text without what a test finds at both ends. -/
def trimBy (test : Char → Bool) (text : List Char) : List Char :=
  trimEndBy test (text.dropWhile test)

/-- The text without the white space at its end. -/
def trimEnd (text : List Char) : List Char :=
  trimEndBy isBlank text

/-- The text without the white space at both ends. -/
def trim (text : List Char) : List Char :=
  trimBy isBlank text

/-- Whether a character alone ends a line. -/
def isLineEnd (c : Char) : Bool :=
  let n := c.toNat
  (10 ≤ n && n ≤ 13) || (28 ≤ n && n ≤ 30) || n == 0x85 || n == 0x2028 || n == 0x2029

/-- Reads every way to end a line as a line feed. -/
def normalizeLines : List Char → List Char
  | [] => []
  | '\r' :: '\n' :: cs => '\n' :: normalizeLines cs
  | '\r' :: cs => '\n' :: normalizeLines cs
  | c :: cs => c :: normalizeLines cs

/-- The text of a file, if its bytes are one; every line ends in a line feed. -/
def decode? (content : ByteArray) : Option String :=
  (String.fromUTF8? content).map fun s => String.ofList (normalizeLines s.toList)

/--
The lines of a text, without their ends.  A carriage return and a line feed
after it end one line; text after the last end is a line if it is not empty.
The first argument holds the current line so far, in reverse.
-/
def linesFrom : List Char → List Char → List (List Char)
  | [], [] => []
  | line, [] => [line.reverse]
  | line, '\r' :: '\n' :: cs => line.reverse :: linesFrom [] cs
  | line, c :: cs =>
      if isLineEnd c then
        line.reverse :: linesFrom [] cs
      else
        linesFrom (c :: line) cs

/-- The lines of a text, without their ends. -/
def lines (text : List Char) : List (List Char) :=
  linesFrom [] text

end Text
end ModuleSpec
