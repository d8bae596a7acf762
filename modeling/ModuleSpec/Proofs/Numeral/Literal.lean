import Mathlib.Tactic.FieldSimp
import ModuleSpec.Proofs.Numeral.Digits

/-!
# Numeric literals as they are written

An integer of a base other than ten has a mark in front, with a letter of either case, and
every integer can have an n at the end.  A decimal numeral can have a fraction, with
digits on one side of its point or on both, and an exponent.

**Idea.**  The letter of a mark ends the digits of a decimal numeral without beginning an
exponent, so a literal with a mark is none.  In all others the parts of a decimal numeral
are found one after the other, each up to the character that begins the next one.

**Results.**  `read_integer`: an integer has the double nearest to it in every spelling,
but a mark makes one beyond all doubles an error.  `read_literal`: every literal with a
finite double nearest to its value has this double.
-/

namespace ModuleSpec
namespace Numeral

/-! ## Integers -/

/-- An integer as it is written; of the base ten it has no mark. -/
structure IntegerLiteral where
  base : Base
  capitalMark : Bool
  digits : Digits base
  suffix : Bool

namespace IntegerLiteral

def text (l : IntegerLiteral) : List Char :=
  l.base.mark l.capitalMark ++ l.digits.text ++ if l.suffix then ['n'] else []

def value (l : IntegerLiteral) : Nat :=
  l.digits.value

end IntegerLiteral

/-- The letter of a mark is no digit, and begins no exponent. -/
theorem exists_mark
    {base : Base}
    (h : base ≠ .decimal)
    (capital : Bool) :
    ∃ letter, base.mark capital = ['0', letter] ∧ Text.digitIn? 10 letter = none
      ∧ letter ≠ '.' ∧ letter ≠ 'e' ∧ letter ≠ 'E' ∧ baseOf? letter = some base.size := by
  cases base with
  | decimal => exact absurd rfl h
  | binary => exact ⟨_, rfl, by cases capital <;> decide⟩
  | octal => exact ⟨_, rfl, by cases capital <;> decide⟩
  | hexadecimal => exact ⟨_, rfl, by cases capital <;> decide⟩

/-- A decimal numeral without a point: its digits, and after them the exponent. -/
theorem decimal?_of_whole
    {text rest : List Char} {whole : List Nat}
    (hwhole : digitsOf 10 text = (whole, rest))
    (hpoint : rest.head? ≠ some '.')
    (hne : whole ≠ []) :
    decimal? text = (exponentOf? rest).map fun e => ⟨whole, e⟩ := by
  simp only [decimal?, hwhole]
  split
  case h_1 => exact absurd rfl hpoint
  case h_2 => simp [hne]

/-- A decimal numeral with a point and digits on one side of it, or on both. -/
theorem decimal?_of_point
    {text cs rest : List Char} {whole fraction : List Nat}
    (hwhole : digitsOf 10 text = (whole, '.' :: cs))
    (hfraction : digitsOf 10 cs = (fraction, rest))
    (hne : whole ≠ [] ∨ fraction ≠ []) :
    decimal? text
      = (exponentOf? rest).map fun e => ⟨whole ++ fraction, e - fraction.length⟩ := by
  have hsome : (whole.isEmpty && fraction.isEmpty) = false := by
    rw [← Bool.not_eq_true, Bool.and_eq_true, List.isEmpty_iff, List.isEmpty_iff]
    exact fun h => hne.elim (fun hw => hw h.1) (fun hf => hf h.2)
  simp [decimal?, hwhole, hfraction, hsome]

/-- A literal with a mark is no decimal numeral. -/
theorem decimal?_mark
    {base : Base}
    (h : base ≠ .decimal)
    (capital : Bool)
    (cs : List Char) :
    decimal? (base.mark capital ++ cs) = none := by
  obtain ⟨letter, hmark, hdigit, hpoint, he, hE, -⟩ := exists_mark h capital
  have hzero : Text.digitIn? 10 '0' = some 0 := by decide
  have hwhole : digitsOf 10 (base.mark capital ++ cs) = ([0], letter :: cs) := by
    simp [hmark, digitsOf, hzero, hdigit]
  have hexponent : exponentOf? (letter :: cs) = none := by
    rw [exponentOf?, if_neg (not_or.2 ⟨he, hE⟩)]
  rw [decimal?_of_whole hwhole (by simpa using hpoint) (List.cons_ne_nil _ _), hexponent]
  rfl

theorem marked?_mark
    {base : Base}
    (h : base ≠ .decimal)
    (capital : Bool)
    (ds : Digits base) :
    marked? (base.mark capital ++ ds.all.map Digit.char) = some ds.value := by
  obtain ⟨letter, hmark, -, -, -, -, hbase⟩ := exists_mark h capital
  have hdigits := digitsOf_map ds.all
  rw [Digits.all, valuesOf, List.map_cons, List.map_cons] at hdigits
  rw [hmark, List.cons_append, List.singleton_append, marked?, hbase, Digits.all, List.map_cons]
  simp only [Option.bind_eq_bind, Option.bind_some, hdigits]
  rfl

theorem decimal?_digits (ds : Digits .decimal) :
    decimal? (ds.all.map Digit.char) = some ⟨valuesOf ds.all, 0⟩ :=
  decimal?_of_whole (digitsOf_map ds.all) (by simp) (List.cons_ne_nil _ _)

theorem valuesOf_lt
    (ds : List (Digit .decimal)) :
    ∀ k ∈ valuesOf ds, k < 10 := by
  intro k hk
  obtain ⟨d, -, rfl⟩ := List.mem_map.1 hk
  exact d.value.isLt

/-- A row of decimal digits has the double nearest to the number it stands for. -/
theorem toDouble_digits (ds : Digits .decimal) :
    (Decimal.toDouble ⟨valuesOf ds.all, 0⟩) = Double.ofNat ds.value := by
  refine (Decimal.isNearest_toDouble (valuesOf_lt _)).unique ?_
  rw [Decimal.value, zpow_zero, mul_one]
  exact Double.isNearest_ofNat _

/-- An integer has the nearest double, but a mark makes one beyond all doubles an error. -/
theorem read_integer (l : IntegerLiteral) :
    read l.text
      = if l.base = .decimal ∨ (Double.ofNat l.value).isFinite = true then
          .ok (Double.ofNat l.value)
        else
          .error .tooLarge := by
  obtain ⟨base, capital, digits, suffix⟩ := l
  have hmark : WrittenAs (base.mark capital) (base.mark capital) :=
    .of_all (by cases base <;> cases capital <;> decide)
  have hbody := hmark.append digits.writtenAs
  by_cases hbase : base = .decimal
  · subst hbase
    have hlead : ∃ c ∈ (Base.mark capital .decimal ++ digits.all.map Digit.char).head?,
        IsLeading c :=
      ⟨digits.first.char, rfl, digits.first.isLeading_char⟩
    rw [IntegerLiteral.text, read_of_plain suffix hbody hlead]
    rw [Base.mark, List.nil_append, decimal?_digits, if_pos (.inl rfl)]
    exact congrArg Except.ok (toDouble_digits digits)
  · have hlead : ∃ c ∈ (base.mark capital ++ digits.all.map Digit.char).head?, IsLeading c := by
      obtain ⟨letter, hletter, -⟩ := exists_mark hbase capital
      rw [hletter]
      exact ⟨'0', rfl, by decide⟩
    rw [IntegerLiteral.text, read_of_plain suffix hbody hlead, decimal?_mark hbase]
    simp only [readMarked_of_plain hbody.plain hlead (marked?_mark hbase capital digits)]
    simp only [hbase, false_or]
    rfl

/-! ## Decimal numerals -/

inductive Sign
  | plus
  | minus
  deriving DecidableEq, Repr

def signText : Option Sign → List Char
  | none => []
  | some .plus => ['+']
  | some .minus => ['-']

/-- The letter and the sign of an exponent. -/
def exponentMark (capital : Bool) (sign : Option Sign) : List Char :=
  (if capital then 'E' else 'e') :: signText sign

structure Exponent where
  capital : Bool
  sign : Option Sign
  digits : Digits .decimal

namespace Exponent

def text (e : Exponent) : List Char :=
  exponentMark e.capital e.sign ++ e.digits.text

/-- The exponent without its underscores. -/
def body (e : Exponent) : List Char :=
  exponentMark e.capital e.sign ++ e.digits.all.map Digit.char

def value (e : Exponent) : Int :=
  if e.sign = some .minus then -(e.digits.value : Int) else e.digits.value

end Exponent

/-- A decimal numeral as it is written: digits, a point, digits after it, and an exponent. -/
structure DecimalLiteral where
  whole : Option (Digits .decimal)
  point : Bool
  fraction : Option (Digits .decimal)
  exponent : Option Exponent
  some_digits : whole ≠ none ∨ fraction ≠ none
  point_of_fraction : point = false → fraction = none

/-- The digits of a row, none when there is no row. -/
def allOf (ds : Option (Digits .decimal)) : List (Digit .decimal) :=
  (ds.map Digits.all).getD []

/-- The text of a row, empty when there is no row. -/
def textOf (ds : Option (Digits .decimal)) : List Char :=
  (ds.map Digits.text).getD []

/-- The number that a row stands for, zero when there is no row. -/
def valueOf (ds : Option (Digits .decimal)) : Nat :=
  (ds.map Digits.value).getD 0

namespace DecimalLiteral

def exponentText (l : DecimalLiteral) : List Char :=
  (l.exponent.map Exponent.text).getD []

def exponentValue (l : DecimalLiteral) : Int :=
  (l.exponent.map Exponent.value).getD 0

def text (l : DecimalLiteral) : List Char :=
  textOf l.whole ++ (if l.point then ['.'] else []) ++ textOf l.fraction ++ l.exponentText

def value (l : DecimalLiteral) : ℚ :=
  (valueOf l.whole + valueOf l.fraction / 10 ^ (allOf l.fraction).length) * 10 ^ l.exponentValue

/-- The literal without its underscores. -/
def body (l : DecimalLiteral) : List Char :=
  (allOf l.whole).map Digit.char ++ (if l.point then ['.'] else [])
    ++ (allOf l.fraction).map Digit.char ++ (l.exponent.map Exponent.body).getD []

end DecimalLiteral

theorem valueOf_eq (ds : Option (Digits .decimal)) :
    valueOf ds = Text.ofDigits 10 (valuesOf (allOf ds)) := by
  cases ds <;> rfl

theorem allOf_ne_nil
    {ds : Option (Digits .decimal)}
    (h : ds ≠ none) :
    allOf ds ≠ [] := by
  cases ds with
  | none => exact absurd rfl h
  | some ds => exact List.cons_ne_nil _ _

theorem writtenAs_textOf (ds : Option (Digits .decimal)) :
    WrittenAs (textOf ds) ((allOf ds).map Digit.char) := by
  cases ds with
  | none => exact ⟨rfl, nofun⟩
  | some ds => exact ds.writtenAs

theorem writtenAs_exponentText (l : DecimalLiteral) :
    WrittenAs l.exponentText ((l.exponent.map Exponent.body).getD []) := by
  rw [DecimalLiteral.exponentText]
  cases l.exponent with
  | none => exact ⟨rfl, nofun⟩
  | some e =>
      have hmark : WrittenAs (exponentMark e.capital e.sign) (exponentMark e.capital e.sign) :=
        .of_all (by cases e.capital <;> rcases e.sign with _ | _ | _ <;> decide)
      exact hmark.append e.digits.writtenAs

theorem writtenAs_body (l : DecimalLiteral) : WrittenAs l.text l.body := by
  have hpoint : WrittenAs (if l.point then ['.'] else []) (if l.point then ['.'] else []) :=
    .of_all (by cases l.point <;> decide)
  exact (((writtenAs_textOf l.whole).append hpoint).append (writtenAs_textOf l.fraction)).append
    (writtenAs_exponentText l)

/-- A decimal numeral begins with a digit, or with its point. -/
theorem isLeading_body (l : DecimalLiteral) : ∃ c ∈ l.body.head?, IsLeading c := by
  obtain ⟨whole, point, fraction, exponent, hsome, hpoint⟩ := l
  cases whole with
  | some ds => exact ⟨ds.first.char, rfl, ds.first.isLeading_char⟩
  | none =>
      cases point with
      | false => exact absurd (hpoint rfl) (hsome.resolve_left (not_not_intro rfl))
      | true => exact ⟨'.', rfl, by decide⟩

/-! ### The parts of a decimal numeral -/

theorem signOf_signText
    (sign : Option Sign)
    (ds : Digits .decimal) :
    signOf (signText sign ++ ds.all.map Digit.char)
      = (decide (sign = some .minus), ds.all.map Digit.char) := by
  match sign with
  | none => exact signOf_cons ds.first.isLeading_char
  | some .plus => rfl
  | some .minus => rfl

theorem exponentOf?_body (e : Exponent) : exponentOf? e.body = some e.value := by
  obtain ⟨capital, sign, digits⟩ := e
  have hdigits := digitsOf_map digits.all
  rw [Base.size, Digits.all, valuesOf, List.map_cons, List.map_cons] at hdigits
  have hletter : (if capital then 'E' else 'e') = 'e' ∨ (if capital then 'E' else 'e') = 'E' := by
    cases capital <;> simp
  rw [Exponent.body, exponentMark, List.cons_append, exponentOf?, if_pos hletter,
    signOf_signText, Digits.all, List.map_cons]
  simp only [hdigits, decide_eq_true_eq]
  rfl

theorem exponentOf?_text (l : DecimalLiteral) :
    exponentOf? ((l.exponent.map Exponent.body).getD []) = some l.exponentValue := by
  rw [DecimalLiteral.exponentValue]
  cases l.exponent with
  | none => rfl
  | some e => exact exponentOf?_body e

/-- The letter of an exponent is neither a digit nor a point. -/
theorem head?_exponent
    (l : DecimalLiteral) :
    ∀ c ∈ ((l.exponent.map Exponent.body).getD []).head?,
      Text.digitIn? 10 c = none ∧ c ≠ '.' := by
  cases l.exponent with
  | none => exact fun c hc => nomatch hc
  | some e =>
      rintro c ⟨⟩
      cases e.capital <;> decide

/-- A decimal numeral is found in full: its digits on both sides, and its exponent. -/
theorem decimal?_body (l : DecimalLiteral) :
    decimal? l.body
      = some ⟨valuesOf (allOf l.whole) ++ valuesOf (allOf l.fraction),
          l.exponentValue - (allOf l.fraction).length⟩ := by
  have hexponent := exponentOf?_text l
  have hend := head?_exponent l
  obtain ⟨whole, point, fraction, exponent, hsome, hpoint⟩ := l
  cases point with
  | false =>
      obtain rfl : fraction = none := hpoint rfl
      have hwhole := digitsOf_append (allOf whole) fun c hc => (hend c hc).1
      have hne : valuesOf (allOf whole) ≠ [] := by
        simpa [valuesOf] using allOf_ne_nil (hsome.resolve_right (not_not_intro rfl))
      have hread := decimal?_of_whole hwhole (fun h => (hend '.' h).2 rfl) hne
      rw [hexponent] at hread
      simpa [DecimalLiteral.body, allOf, valuesOf] using hread
  | true =>
      have hstop (cs : List Char) : ∀ c ∈ ('.' :: cs).head?, Text.digitIn? 10 c = none := by
        rintro c ⟨⟩
        decide
      have hwhole := digitsOf_append (allOf whole)
        (hstop ((allOf fraction).map Digit.char ++ (exponent.map Exponent.body).getD []))
      have hfraction := digitsOf_append (allOf fraction) fun c hc => (hend c hc).1
      have hne : valuesOf (allOf whole) ≠ [] ∨ valuesOf (allOf fraction) ≠ [] := by
        simpa [valuesOf] using hsome.imp allOf_ne_nil allOf_ne_nil
      have hread := decimal?_of_point hwhole hfraction hne
      rw [hexponent] at hread
      simpa [DecimalLiteral.body, valuesOf] using hread

/-- The digits on both sides of the point and the exponent give the value of the literal. -/
theorem value_parts (l : DecimalLiteral) :
    Decimal.value ⟨valuesOf (allOf l.whole) ++ valuesOf (allOf l.fraction),
      l.exponentValue - (allOf l.fraction).length⟩ = l.value := by
  have hlength : (valuesOf (allOf l.fraction)).length = (allOf l.fraction).length :=
    List.length_map _
  have hpow : (10 : ℚ) ^ (allOf l.fraction).length ≠ 0 := pow_ne_zero _ (by norm_num)
  rw [Decimal.value, Text.ofDigits_append, hlength, ← valueOf_eq, ← valueOf_eq,
    zpow_sub₀ (by norm_num), zpow_natCast, DecimalLiteral.value]
  push_cast
  field_simp

/-- A decimal numeral has the nearest double, infinity included. -/
theorem read_decimal (l : DecimalLiteral) :
    ∃ x : Double, x.IsNearest l.value ∧ read l.text = .ok x := by
  have hread := read_of_plain false (writtenAs_body l) (isLeading_body l)
  rw [if_neg Bool.false_ne_true, List.append_nil, decimal?_body] at hread
  refine ⟨_, ?_, hread⟩
  rw [← value_parts]
  refine Decimal.isNearest_toDouble fun k hk => ?_
  rcases List.mem_append.1 hk with hk | hk
  · exact valuesOf_lt _ k hk
  · exact valuesOf_lt _ k hk

/-! ## Literals -/

inductive Literal
  | integer (l : IntegerLiteral)
  | decimal (l : DecimalLiteral)

namespace Literal

def text : Literal → List Char
  | integer l => l.text
  | decimal l => l.text

def value : Literal → ℚ
  | integer l => l.value
  | decimal l => l.value

end Literal

/-- A literal that has a finite nearest double is read as this double. -/
theorem read_literal
    {l : Literal} {x : Double}
    (hnearest : x.IsNearest l.value)
    (hfinite : x.isFinite = true) :
    read l.text = .ok x := by
  cases l with
  | decimal l =>
      obtain ⟨y, hy, hread⟩ := read_decimal l
      rw [hnearest.unique hy]
      exact hread
  | integer l =>
      have hx : x = Double.ofNat l.value := hnearest.unique (Double.isNearest_ofNat l.value)
      rw [hx] at hfinite ⊢
      rw [Literal.text, read_integer, if_pos (.inr hfinite)]

end Numeral
end ModuleSpec
