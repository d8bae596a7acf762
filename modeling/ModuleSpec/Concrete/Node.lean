import ModuleSpec.Span
import ModuleSpec.Text.Quoted

/-!
# Concrete trees

The tree that the grammar of the source language gives to a source text.  A node
has a kind, and a field when it plays a named part in its parent.  A node that
is not named is a token, and its kind is its text.  The children of a node are
all that stands directly beneath it, tokens and comments included.

A node lies between two offsets, counted in the bytes of the text.  Its text is
what lies between them, unless one of them lies inside a character.
-/

namespace ModuleSpec
namespace Concrete

/-- A node of a concrete tree. -/
inductive Node
  | mk
      (kind : String)
      (named : Bool)
      (field : Option String)
      (start stop : Nat)
      (children : List Node)

/-- Why the bytes between two offsets of a text are no text themselves. -/
inductive SliceError
  /-- They begin inside a character, with the given byte. -/
  | startsInside (byte : UInt8)
  /-- They end inside a character, which begins at a position with the given bytes. -/
  | endsInside (position : Nat) (bytes : List UInt8)
  deriving DecidableEq, Repr

namespace SliceError

/-- Whether a byte belongs to a character without beginning it. -/
def isContinuation (byte : UInt8) : Bool :=
  128 ≤ byte && byte < 192

/-- Why the given bytes, which come from a text, are no text themselves. -/
def ofBytes (bytes : List UInt8) : SliceError :=
  match bytes with
  | byte :: _ =>
      if isContinuation byte then
        .startsInside byte
      else
        let count := (bytes.reverse.takeWhile isContinuation).length + 1
        let position := bytes.length - count
        .endsInside position (bytes.drop position)
  | [] => .endsInside 0 []

/-- A byte in two hexadecimal digits. -/
def shownByte (byte : UInt8) : String :=
  String.ofList (Text.hexDigits 2 byte.toNat)

def message : SliceError → String
  | startsInside byte =>
      s!"'utf-8' codec can't decode byte 0x{shownByte byte} in position 0: invalid start byte"
  | endsInside n [byte] =>
      s!"'utf-8' codec can't decode byte 0x{shownByte byte} in position {n}: "
        ++ "unexpected end of data"
  | endsInside n bytes =>
      s!"'utf-8' codec can't decode bytes in position {n}-{n + bytes.length - 1}: "
        ++ "unexpected end of data"

end SliceError

/-- The bytes of a source text. -/
structure Source where
  bytes : ByteArray

/-- A position in a text: lines before it, and bytes before it in its line. -/
structure Point where
  row : Nat
  column : Nat
  deriving DecidableEq, Repr

namespace Point

/-- The position after one more byte. -/
def advance (p : Point) (byte : UInt8) : Point :=
  if byte = 10 then ⟨p.row + 1, 0⟩ else ⟨p.row, p.column + 1⟩

end Point

namespace Source

def ofString (text : String) : Source := ⟨text.toUTF8⟩

/-- The position of an offset. -/
def point (source : Source) (offset : Nat) : Point :=
  source.bytes.foldl Point.advance ⟨0, 0⟩ 0 (min offset source.bytes.size)

def span (source : Source) (start stop : Nat) : Span :=
  let first := source.point start
  let last := source.point stop
  ⟨first.row + 1, first.column, last.row + 1, last.column⟩

/-- The text between two offsets. -/
def slice (source : Source) (start stop : Nat) : Except SliceError String :=
  let bytes := source.bytes.extract start stop
  match String.fromUTF8? bytes with
  | some text => .ok text
  | none => .error (.ofBytes bytes.toList)

end Source

end Concrete
end ModuleSpec
