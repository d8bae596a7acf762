/-!
# Double precision numbers

A double is held by the three fields of its binary format: the sign, the biased
exponent and the fraction.  The value of a finite double with exponent field
zero is fraction * 2^(-1074); with exponent field e > 0 it is
(2^52 + fraction) * 2^(e - 1075).  Exponent field 2047 is infinity when the
fraction is zero and not a number otherwise.

**Algorithm.**  A nonnegative rational num / den is rounded in exact natural
arithmetic.  The binary exponent is chosen so that the quotient has 53 bits, or
fewer when the exponent has reached its least value; the quotient is rounded to
the nearest integer, a tie going to the even neighbour, and a quotient that
reaches 2^53 moves to the next exponent.
-/

namespace ModuleSpec

/-- A number of the 64-bit binary format, field by field. -/
structure Double where
  negative : Bool
  exponent : Fin 2048
  fraction : Fin 4503599627370496
  deriving DecidableEq, Repr, Inhabited

namespace Double

/-- The number of fractions, 2^52. -/
def fractionCount : Nat := 4503599627370496

/-- Positive infinity. -/
def infinity : Double :=
  ⟨false, 2047, 0⟩

/-- The quiet number that is no number. -/
def notANumber : Double :=
  ⟨false, 2047, 2251799813685248⟩

/-- Positive zero. -/
def zero : Double :=
  ⟨false, 0, 0⟩

def isNotANumber (x : Double) : Bool :=
  x.exponent == 2047 && x.fraction != 0

def isInfinite (x : Double) : Bool :=
  x.exponent == 2047 && x.fraction == 0

def isZero (x : Double) : Bool :=
  x.exponent == 0 && x.fraction == 0

def isFinite (x : Double) : Bool :=
  x.exponent != 2047

/-- The number with the opposite sign. -/
def negate (x : Double) : Double :=
  { x with negative := !x.negative }

/--
Numerical equality: the two zeros are equal, and what is not a number equals
nothing.
-/
def sameNumber (x y : Double) : Bool :=
  !x.isNotANumber && (x == y || (x.isZero && y.isZero))

/-- The 64 bits of the format, as a natural number. -/
def toBits (x : Double) : Nat :=
  (if x.negative then 9223372036854775808 else 0)
    + x.exponent.val * fractionCount
    + x.fraction.val

/-- The double whose format is the lowest 64 bits of the given number. -/
def ofBits (bits : Nat) : Double :=
  ⟨bits / 9223372036854775808 % 2 == 1,
    ⟨bits / fractionCount % 2048, Nat.mod_lt _ (by decide)⟩,
    ⟨bits % 4503599627370496, Nat.mod_lt _ (by decide)⟩⟩

/--
The integer significand and the exponent offset of a finite double: its
absolute value is the first number times 2 to the power of the second minus
1074.
-/
def parts (x : Double) : Nat × Nat :=
  if x.exponent.val = 0 then
    (x.fraction.val, 0)
  else
    (fractionCount + x.fraction.val, x.exponent.val - 1)

/-- The integer nearest to num / den; a tie goes to the even neighbour. -/
def nearestEven (num den : Nat) : Nat :=
  let quotient := num / den
  let rest := num % den
  if 2 * rest < den then
    quotient
  else if den < 2 * rest then
    quotient + 1
  else
    quotient + quotient % 2

/--
The nonnegative double with the given significand and exponent offset, where
the significand is at most 2^53 and reaches 2^52 unless the offset is zero.
Beyond the largest exponent it is infinity.
-/
def ofParts (significand offset : Nat) : Double :=
  if significand < fractionCount then
    ⟨false, 0, ⟨significand % 4503599627370496, Nat.mod_lt _ (by decide)⟩⟩
  else
    let carried := significand = 2 * fractionCount
    let field := if carried then offset + 2 else offset + 1
    let fraction := if carried then 0 else significand - fractionCount
    if field < 2047 then
      ⟨false,
        ⟨field % 2048, Nat.mod_lt _ (by decide)⟩,
        ⟨fraction % 4503599627370496, Nat.mod_lt _ (by decide)⟩⟩
    else
      infinity

/--
The exponent offset at which num / den has 53 bits before the point, or zero
when it has fewer at the least exponent.  With num' = num * 2^1074 it is the
least offset such that num' < den * 2^(53 + offset).
-/
def offsetOf (num den : Nat) : Nat :=
  let scaled := num * Nat.pow 2 1074
  let guess := scaled.log2 - den.log2 - 53
  if scaled < den * Nat.pow 2 (53 + guess) then guess else guess + 1

/-- The double nearest to num / den, for den > 0; a tie goes to the even one. -/
def ofRatio (num den : Nat) : Double :=
  let offset := offsetOf num den
  ofParts (nearestEven (num * Nat.pow 2 1074) (den * Nat.pow 2 offset)) offset

/-- The double nearest to a natural number. -/
def ofNat (n : Nat) : Double :=
  ofRatio n 1

end Double

end ModuleSpec
