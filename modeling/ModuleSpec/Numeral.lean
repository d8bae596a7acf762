import ModuleSpec.Double
import ModuleSpec.Text.Blank
import ModuleSpec.Text.Digit
import ModuleSpec.Text.Quoted

/-!
# Numerals

The value of a numeric literal.  Underscores between digits and one trailing n
carry no value.  A decimal numeral, with a fraction or an exponent or without,
has the double nearest to it, infinity when it is too large.  A numeral with the
mark 0x, 0o or 0b stands for a natural number and has the double nearest to
that; here a number too large is an error.
-/

namespace ModuleSpec
namespace Numeral

/-- Why a text has no value as a numeral. -/
inductive Error
  | malformed (text : String)
  | tooLarge
  deriving DecidableEq, Repr

namespace Error

def message : Error → String
  | malformed text => s!"invalid literal for int() with base 0: {Text.quoted text}"
  | tooLarge => "int too large to convert to float"

end Error

/-- A decimal numeral: its digits, and the power of ten its last digit counts. -/
structure Decimal where
  digits : List Nat
  exponent : Int
  deriving DecidableEq, Repr

namespace Decimal

/--
The nearest double.  A numeral whose first significant digit counts more than
10^309 is beyond every double, and one whose first significant digit counts less
than 10^(-330) is nearer to zero than to any other.
-/
def toDouble (d : Decimal) : Double :=
  let significant := d.digits.dropWhile (· == 0)
  let magnitude := (significant.length : Int) + d.exponent
  let value := Text.ofDigits 10 significant
  if significant.isEmpty then
    Double.zero
  else if 310 < magnitude then
    Double.infinity
  else if magnitude < -330 then
    Double.zero
  else if 0 ≤ d.exponent then
    Double.ofNat (value * Nat.pow 10 d.exponent.toNat)
  else
    Double.ofRatio value (Nat.pow 10 (-d.exponent).toNat)

end Decimal

/-- The digits at the front of a text, and the rest. -/
def digitsOf (base : Nat) : List Char → List Nat × List Char
  | [] => ([], [])
  | c :: cs =>
      match Text.digitIn? base c with
      | some d => let (ds, rest) := digitsOf base cs; (d :: ds, rest)
      | none => ([], c :: cs)

/-- Whether a character can stand around a numeral: white space, but no separator. -/
def isPadding (c : Char) : Bool :=
  Text.isBlank c && !(28 ≤ c.toNat && c.toNat ≤ 31)

/-- A sign at the front of a text, true for minus, and the rest. -/
def signOf : List Char → Bool × List Char
  | '-' :: cs => (true, cs)
  | '+' :: cs => (false, cs)
  | cs => (false, cs)

/-- The exponent that ends a decimal numeral; without one it is zero. -/
def exponentOf? : List Char → Option Int
  | [] => some 0
  | c :: cs =>
      if c = 'e' ∨ c = 'E' then
        let (negative, cs) := signOf cs
        match digitsOf 10 cs with
        | ([], _) => none
        | (ds, []) =>
            let n : Int := Text.ofDigits 10 ds
            some (if negative then -n else n)
        | (_, _ :: _) => none
      else
        none

/-- A decimal numeral without a sign. -/
def decimal? (text : List Char) : Option Decimal :=
  let (whole, rest) := digitsOf 10 text
  let (fraction, rest) :=
    match rest with
    | '.' :: cs => digitsOf 10 cs
    | cs => ([], cs)
  if whole.isEmpty && fraction.isEmpty then
    none
  else
    (exponentOf? rest).map fun e =>
      ⟨whole ++ fraction, e - fraction.length⟩

/-- The ASCII letters of a text in lower case. -/
def lowered (text : List Char) : String :=
  String.ofList (text.map Char.toLower)

/-- A word that names a special double. -/
def special? (text : List Char) : Option Double :=
  let word := lowered text
  if word = "inf" ∨ word = "infinity" then
    some Double.infinity
  else if word = "nan" then
    some Double.notANumber
  else
    none

def withSign (negative : Bool) (x : Double) : Double :=
  if negative then x.negate else x

/-- The value of a decimal numeral or of the name of a special double. -/
def readDecimal? (text : List Char) : Option Double :=
  let (negative, body) := signOf (Text.trimBy isPadding text)
  match special? body with
  | some x => some (withSign negative x)
  | none => (decimal? body).map fun d => withSign negative d.toDouble

/-- The base that the letter of a mark stands for. -/
def baseOf? (c : Char) : Option Nat :=
  if c = 'x' ∨ c = 'X' then some 16
  else if c = 'o' ∨ c = 'O' then some 8
  else if c = 'b' ∨ c = 'B' then some 2
  else none

/-- The natural number of a marked numeral without a sign. -/
def marked? : List Char → Option Nat
  | '0' :: letter :: cs => do
      let base ← baseOf? letter
      match digitsOf base cs with
      | ([], _) => none
      | (ds, []) => some (Text.ofDigits base ds)
      | (_, _ :: _) => none
  | _ => none

/-- The value of a marked numeral. -/
def readMarked (text : List Char) : Except Error Double :=
  let (negative, body) := signOf (Text.trimBy isPadding text)
  match marked? body with
  | none => .error (.malformed (String.ofList text))
  | some n =>
      let x := Double.ofNat n
      if x.isInfinite then
        .error .tooLarge
      else if n = 0 then
        .ok Double.zero
      else
        .ok (withSign negative x)

/-- A text without one n at its end. -/
def dropSuffix (text : List Char) : List Char :=
  match text.getLast? with
  | some 'n' => text.dropLast
  | _ => text

/-- The value of a numeric literal. -/
def read (text : List Char) : Except Error Double :=
  let body := dropSuffix (text.filter (· != '_'))
  match readDecimal? body with
  | some x => .ok x
  | none => readMarked body

end Numeral
end ModuleSpec
