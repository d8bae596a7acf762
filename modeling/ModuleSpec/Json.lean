/-!
# JSON documents

The values of a schema document and their written form.  Objects keep their
entries in order.

A document is written with an indentation of two blanks, every entry of an array
or an object on a line of its own; empty ones are written on one line.  A string
is written in printable ASCII: every other character is escaped by the
hexadecimal digits of its 16-bit units.
-/

namespace ModuleSpec

/-- A value of a document. -/
inductive Json
  | bool
      (value : Bool)
  | string
      (value : String)
  | array
      (items : List Json)
  | object
      (entries : List (String × Json))

namespace Json

/-- The hexadecimal digit of a number below sixteen. -/
def hexDigit (n : Nat) : Char :=
  if n < 10 then Char.ofNat (48 + n) else Char.ofNat (87 + n)

/-- The escape of a 16-bit unit. -/
def escapeUnit (n : Nat) : List Char :=
  ['\\', 'u',
    hexDigit (n / 4096 % 16),
    hexDigit (n / 256 % 16),
    hexDigit (n / 16 % 16),
    hexDigit (n % 16)]

/-- A character the way it is written inside a string. -/
def escape (c : Char) : List Char :=
  let n := c.toNat
  if c = '"' then ['\\', '"']
  else if c = '\\' then ['\\', '\\']
  else if c = '\n' then ['\\', 'n']
  else if c = '\r' then ['\\', 'r']
  else if c = '\t' then ['\\', 't']
  else if n = 8 then ['\\', 'b']
  else if n = 12 then ['\\', 'f']
  else if 32 ≤ n ∧ n ≤ 126 then [c]
  else if n < 65536 then escapeUnit n
  else
    let m := n - 65536
    escapeUnit (55296 + m / 1024) ++ escapeUnit (56320 + m % 1024)

/-- A string as it is written. -/
def quote (s : String) : List Char :=
  '"' :: (s.toList.flatMap escape ++ ['"'])

/-- A line break and the blanks of an indentation. -/
def newLine (depth : Nat) : List Char :=
  '\n' :: List.replicate (2 * depth) ' '

/-- Items between brackets, each on a line of its own. -/
def enclose
    (opening closing : Char)
    (depth : Nat) :
    List (List Char) → List Char
  | [] => [opening, closing]
  | item :: items =>
      opening :: newLine (depth + 1) ++ item
        ++ (items.flatMap fun i => ',' :: newLine (depth + 1) ++ i)
        ++ newLine depth ++ [closing]

mutual

def write (depth : Nat) : Json → List Char
  | .bool true => "true".toList
  | .bool false => "false".toList
  | .string s => quote s
  | .array items => enclose '[' ']' depth (writeItems (depth + 1) items)
  | .object entries => enclose '\x7b' '\x7d' depth (writeEntries (depth + 1) entries)

def writeItems (depth : Nat) : List Json → List (List Char)
  | [] => []
  | item :: items => write depth item :: writeItems depth items

def writeEntries (depth : Nat) : List (String × Json) → List (List Char)
  | [] => []
  | (key, value) :: entries =>
      (quote key ++ ':' :: ' ' :: write depth value) :: writeEntries depth entries

end

/-- The written form of a document. -/
def render (json : Json) : String :=
  String.ofList (write 0 json)

end Json

end ModuleSpec
