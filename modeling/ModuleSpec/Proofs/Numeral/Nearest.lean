import Mathlib.Algebra.Order.Field.Rat
import Mathlib.Tactic.Linarith
import Mathlib.Tactic.Ring
import ModuleSpec.Numeral

/-!
# The nearest double

A double that is a number has an exact rational value; infinity stands for 2^1024, the
number that would come after the greatest finite double.  A double is nearest to a
rational when no double has a value closer to it, and when another one is as close, its
fraction is even.

**Idea.**  Every magnitude is a natural number of units of 2^(-1074), and magnitudes are
ordered as exponents are, and under one exponent as fractions are.  Two doubles that are
both nearest would be equally far, with even fractions, so a double with an odd fraction
would stand between them, and be nearer.

**Results.**  `IsNearest.unique`: there is only one nearest double.  `isNearest_zero` and
`isNearest_infinity`: what is too small for the least positive double, and what is at
least 2^1024.
-/

namespace ModuleSpec
namespace Double

/-! ## Values -/

/-- How many of the least positive doubles make one. -/
@[irreducible] def unitCount : Nat := Nat.pow 2 1074

/-- The exponent offset of infinity. -/
@[irreducible] def topOffset : Nat := 2046

/-- The magnitude in units of the least positive double. -/
def units (x : Double) : Nat :=
  x.parts.1 * 2 ^ x.parts.2

/-- The absolute value; infinity stands for 2^1024. -/
def magnitude (x : Double) : ℚ :=
  x.units / unitCount

/-- The value of a number, with its sign. -/
def value (x : Double) : ℚ :=
  if x.negative then -x.magnitude else x.magnitude

/--
Of all doubles that are numbers, x is nearest to a rational q, which is not negative;
a tie goes to the even one.
-/
structure IsNearest (q : ℚ) (x : Double) : Prop where
  positive : x.negative = false
  number : x.isNotANumber = false
  least : ∀ y : Double, y.isNotANumber = false → |x.value - q| ≤ |y.value - q|
  even : ∀ y : Double, y.isNotANumber = false → |y.value - q| = |x.value - q| →
    y.value ≠ x.value → x.fraction.val % 2 = 0

theorem unitCount_eq : unitCount = Nat.pow 2 1074 := by
  unfold unitCount
  exact Eq.refl _

theorem topOffset_eq : topOffset = 2046 := by
  rw [topOffset]

theorem unitCount_pos : 0 < unitCount := by
  unfold unitCount
  generalize 1074 = n
  exact Nat.two_pow_pos n

theorem magnitude_nonneg (x : Double) : 0 ≤ x.magnitude :=
  div_nonneg (Nat.cast_nonneg _) (Nat.cast_nonneg _)

theorem value_of_positive
    {x : Double}
    (h : x.negative = false) :
    x.value = x.magnitude := by
  simp [value, h]

@[simp] theorem magnitude_negate (x : Double) : x.negate.magnitude = x.magnitude :=
  rfl

theorem value_negate (x : Double) : x.negate.value = -x.value := by
  have hsign : x.negate.negative = !x.negative := rfl
  rw [value, value, magnitude_negate, hsign]
  cases x.negative <;> simp

@[simp] theorem value_zero : zero.value = 0 := by
  have hunits : zero.units = 0 := rfl
  rw [value_of_positive rfl, magnitude, hunits, Nat.cast_zero, zero_div]

/-- Doubles below zero need not be compared: their opposites are at least as near. -/
theorem IsNearest.of_magnitude
    {q : ℚ} {x : Double}
    (hq : 0 ≤ q)
    (positive : x.negative = false)
    (number : x.isNotANumber = false)
    (least : ∀ y : Double, y.isNotANumber = false → |x.magnitude - q| ≤ |y.magnitude - q|)
    (even : ∀ y : Double, y.isNotANumber = false → |y.magnitude - q| = |x.magnitude - q| →
      y.magnitude ≠ x.magnitude → x.fraction.val % 2 = 0) :
    x.IsNearest q := by
  have hx := value_of_positive positive
  have habs (y : Double) : |y.magnitude - q| ≤ |-y.magnitude - q| := by
    have hy := y.magnitude_nonneg
    rw [abs_of_nonpos (by linarith : -y.magnitude - q ≤ 0), abs_le]
    constructor <;> linarith
  refine ⟨positive, number, fun y hy => ?_, fun y hy htie hne => ?_⟩
  · rw [hx, value]
    split
    case isTrue => exact (least y hy).trans (habs y)
    case isFalse => exact least y hy
  · rw [hx] at htie hne
    cases hsign : y.negative with
    | false =>
        rw [value_of_positive hsign] at htie hne
        exact even y hy htie hne
    | true =>
        -- What is as far away as zero, but on its other side, is zero.
        have hvalue : y.value = -y.magnitude := by simp [value, hsign]
        have hzero : y.magnitude = 0 := by
          have hfar := least zero rfl
          have hnonneg := y.magnitude_nonneg
          rw [← htie, hvalue, ← value_of_positive (x := zero) rfl, value_zero, zero_sub, abs_neg,
            abs_of_nonneg hq, abs_of_nonpos (by linarith)] at hfar
          linarith
        rw [hvalue, hzero, neg_zero, ← hzero] at htie hne
        exact even y hy htie hne

/-! ## The order of the magnitudes -/

theorem parts_of_exponent_zero
    {x : Double}
    (h : x.exponent.val = 0) :
    x.parts = (x.fraction.val, 0) :=
  if_pos h

theorem parts_of_exponent_ne_zero
    {x : Double}
    (h : x.exponent.val ≠ 0) :
    x.parts = (2 ^ 52 + x.fraction.val, x.exponent.val - 1) :=
  if_neg h

theorem fraction_lt (x : Double) : x.fraction.val < 2 ^ 52 :=
  x.fraction.isLt

theorem significand_lt (x : Double) : x.parts.1 < 2 ^ 53 := by
  have hfraction := x.fraction_lt
  unfold parts fractionCount
  split <;> omega

/-- Under an offset stands less than 2^52 steps of every greater one. -/
theorem units_lt
    {x : Double} {offset : Nat}
    (h : x.parts.2 < offset) :
    x.units < 2 ^ 52 * 2 ^ offset := by
  calc
    x.units < 2 ^ 53 * 2 ^ x.parts.2 :=
        Nat.mul_lt_mul_of_pos_right x.significand_lt (Nat.pow_pos (by decide))
    _ = 2 ^ 52 * 2 ^ (x.parts.2 + 1) := by ring
    _ ≤ 2 ^ 52 * 2 ^ offset := Nat.mul_le_mul_left _ (Nat.pow_le_pow_right (by decide) h)

/-- A magnitude lies on the grid of an offset, or below all that need this offset. -/
theorem dvd_units_or_lt (x : Double) (offset : Nat) :
    2 ^ offset ∣ x.units ∨ (offset ≠ 0 ∧ x.units < 2 ^ 52 * 2 ^ offset) := by
  rcases Nat.lt_or_ge x.parts.2 offset with hlt | hge
  · exact .inr ⟨Nat.ne_of_gt (Nat.zero_lt_of_lt hlt), units_lt hlt⟩
  · exact .inl (Dvd.dvd.mul_left (Nat.pow_dvd_pow 2 hge) _)

theorem units_infinity : infinity.units = 2 ^ 52 * 2 ^ topOffset := by
  have hparts : infinity.parts = (2 ^ 52, topOffset) := by
    rw [topOffset_eq]
    rfl
  rw [units, hparts]

/-- What has the exponent of infinity and is a number has its fraction too. -/
theorem fraction_eq_zero
    {x : Double}
    (h : x.isNotANumber = false)
    (hexponent : x.exponent = 2047) :
    x.fraction = 0 := by
  simpa [isNotANumber, hexponent] using h

/-- No number is greater than infinity. -/
theorem units_le_infinity
    {x : Double}
    (h : x.isNotANumber = false) :
    x.units ≤ infinity.units := by
  by_cases hexponent : x.exponent = 2047
  · have hparts : x.parts = infinity.parts := by
      rw [parts, hexponent, fraction_eq_zero h hexponent]
      rfl
    rw [units, hparts, ← units]
  · have hoffset : x.parts.2 < topOffset := by
      have hlt := x.exponent.isLt
      have hval : x.exponent.val ≠ 2047 := fun heq => hexponent (Fin.ext heq)
      rw [topOffset_eq, parts]
      split <;> simp only <;> omega
    rw [units_infinity]
    exact (units_lt hoffset).le

/-- Magnitudes are ordered as exponents are, and under one exponent as fractions are. -/
theorem units_lt_units_of_exponent_lt
    {x y : Double}
    (h : x.exponent.val < y.exponent.val) :
    x.units < y.units := by
  have hy := parts_of_exponent_ne_zero (Nat.ne_of_gt (Nat.zero_lt_of_lt h))
  have hfloor : 2 ^ 52 * 2 ^ y.parts.2 ≤ y.units :=
    Nat.mul_le_mul_right _ (by rw [hy]; exact Nat.le_add_right _ _)
  refine lt_of_lt_of_le ?_ hfloor
  by_cases hzero : x.exponent.val = 0
  · calc
      x.units = x.fraction.val := by simp [units, parts_of_exponent_zero hzero]
      _ < 2 ^ 52 := x.fraction_lt
      _ ≤ 2 ^ 52 * 2 ^ y.parts.2 := Nat.le_mul_of_pos_right _ (Nat.pow_pos (by decide))
  · refine units_lt ?_
    rw [parts_of_exponent_ne_zero hzero, hy]
    dsimp only
    omega

theorem units_lt_units_of_fraction_lt
    {x y : Double}
    (hexponent : x.exponent = y.exponent)
    (h : x.fraction.val < y.fraction.val) :
    x.units < y.units := by
  have hsignificand : x.parts.1 < y.parts.1 := by
    simp only [parts, hexponent]
    split <;> simp only <;> omega
  have hoffset : x.parts.2 = y.parts.2 := by
    simp only [parts, hexponent]
    split <;> rfl
  rw [units, units, hoffset]
  exact Nat.mul_lt_mul_of_pos_right hsignificand (Nat.pow_pos (by decide))

theorem exponent_lt_or_of_units_lt
    {x y : Double}
    (h : x.units < y.units) :
    x.exponent.val < y.exponent.val
      ∨ (x.exponent = y.exponent ∧ x.fraction.val < y.fraction.val) := by
  rcases lt_trichotomy x.exponent.val y.exponent.val with hlt | heq | hgt
  · exact .inl hlt
  · refine .inr ⟨Fin.ext heq, ?_⟩
    by_contra hfraction
    rcases Nat.lt_or_eq_of_le (Nat.le_of_not_lt hfraction) with hlt | hsame
    · exact absurd (units_lt_units_of_fraction_lt (Fin.ext heq.symm) hlt) h.not_gt
    · have hunits : x.units = y.units := by
        simp [units, parts, Fin.ext heq, hsame]
      exact h.ne hunits
  · exact absurd (units_lt_units_of_exponent_lt hgt) h.not_gt

theorem eq_of_units_eq
    {x y : Double}
    (hx : x.negative = false)
    (hy : y.negative = false)
    (h : x.units = y.units) :
    x = y := by
  have hexponent : x.exponent = y.exponent := by
    rcases lt_trichotomy x.exponent.val y.exponent.val with hlt | heq | hgt
    · exact absurd h (units_lt_units_of_exponent_lt hlt).ne
    · exact Fin.ext heq
    · exact absurd h (units_lt_units_of_exponent_lt hgt).ne'
  have hfraction : x.fraction = y.fraction := by
    rcases lt_trichotomy x.fraction.val y.fraction.val with hlt | heq | hgt
    · exact absurd h (units_lt_units_of_fraction_lt hexponent hlt).ne
    · exact Fin.ext heq
    · exact absurd h (units_lt_units_of_fraction_lt hexponent.symm hgt).ne'
  cases x
  cases y
  cases hx
  cases hy
  cases hexponent
  cases hfraction
  rfl

theorem magnitude_lt_magnitude_iff {x y : Double} :
    x.magnitude < y.magnitude ↔ x.units < y.units := by
  rw [magnitude, magnitude, div_lt_div_iff_of_pos_right (by exact_mod_cast unitCount_pos),
    Nat.cast_lt]

theorem magnitude_eq_magnitude_iff {x y : Double} :
    x.magnitude = y.magnitude ↔ x.units = y.units := by
  have hcount : (unitCount : ℚ) ≠ 0 := by exact_mod_cast unitCount_pos.ne'
  rw [magnitude, magnitude, div_left_inj' hcount, Nat.cast_inj]

/-! ## There is one nearest double -/

/-- What is less than a number is finite. -/
theorem exponent_ne_of_units_lt
    {x y : Double}
    (hy : y.isNotANumber = false)
    (h : x.units < y.units) :
    x.exponent ≠ 2047 := by
  intro heq
  rcases exponent_lt_or_of_units_lt h with hexponent | ⟨hexponent, hfraction⟩
  · rw [heq] at hexponent
    exact absurd y.exponent.isLt (Nat.not_lt.2 hexponent)
  · rw [fraction_eq_zero hy (hexponent.symm.trans heq)] at hfraction
    exact absurd hfraction (Nat.not_lt_zero _)

/-- Between two doubles with even fractions stands another one. -/
theorem exists_between
    {x y : Double}
    (hx : x.fraction.val % 2 = 0)
    (hy : y.fraction.val % 2 = 0)
    (hy' : y.isNotANumber = false)
    (h : x.units < y.units) :
    ∃ z : Double, z.isNotANumber = false ∧ z.negative = false
      ∧ x.units < z.units ∧ z.units < y.units := by
  have hbound : x.fraction.val + 1 < 4503599627370496 := by
    have hlt := x.fraction.isLt
    omega
  let z : Double := ⟨false, x.exponent, ⟨x.fraction.val + 1, hbound⟩⟩
  have hz : z.isNotANumber = false := by
    simp [isNotANumber, z, exponent_ne_of_units_lt hy' h]
  refine ⟨z, hz, rfl, units_lt_units_of_fraction_lt rfl (Nat.lt_succ_self _), ?_⟩
  rcases exponent_lt_or_of_units_lt h with hexponent | ⟨hexponent, hfraction⟩
  · exact units_lt_units_of_exponent_lt hexponent
  · have hnext : z.fraction.val < y.fraction.val := by
      simp only [z]
      omega
    exact units_lt_units_of_fraction_lt hexponent hnext

theorem IsNearest.not_value_lt
    {q : ℚ} {x y : Double}
    (hx : x.IsNearest q)
    (hy : y.IsNearest q) :
    ¬ x.value < y.value := by
  intro hlt
  have hdist : |y.value - q| = |x.value - q| :=
    le_antisymm (hy.least x hx.number) (hx.least y hy.number)
  have hxeven := hx.even y hy.number hdist hlt.ne'
  have hyeven := hy.even x hx.number hdist.symm hlt.ne
  have hunits : x.units < y.units := by
    rwa [value_of_positive hx.positive, value_of_positive hy.positive,
      magnitude_lt_magnitude_iff] at hlt
  obtain ⟨z, hz, hzsign, hxz, hzy⟩ := exists_between hxeven hyeven hy.number hunits
  have hxz' : x.value < z.value := by
    rwa [value_of_positive hx.positive, value_of_positive hzsign, magnitude_lt_magnitude_iff]
  have hzy' : z.value < y.value := by
    rwa [value_of_positive hzsign, value_of_positive hy.positive, magnitude_lt_magnitude_iff]
  -- The rational is halfway, so what stands between is nearer.
  have hnear := hx.least z hz
  have hnear' := hy.least z hz
  rcases le_total z.value q with hzq | hqz
  · rw [abs_of_nonpos (by linarith), abs_of_nonpos (by linarith)] at hnear
    linarith
  · rw [abs_of_nonneg (by linarith), abs_of_nonneg (by linarith)] at hnear'
    linarith

/-- There is only one nearest double. -/
theorem IsNearest.unique
    {q : ℚ} {x y : Double}
    (hx : x.IsNearest q)
    (hy : y.IsNearest q) :
    x = y := by
  have hvalue : x.value = y.value :=
    le_antisymm (le_of_not_gt (hy.not_value_lt hx)) (le_of_not_gt (hx.not_value_lt hy))
  rw [value_of_positive hx.positive, value_of_positive hy.positive,
    magnitude_eq_magnitude_iff] at hvalue
  exact eq_of_units_eq hx.positive hy.positive hvalue

/-! ## Too small and too large -/

/-- A number is either finite or infinite. -/
theorem isInfinite_eq
    {x : Double}
    (h : x.isNotANumber = false) :
    x.isInfinite = !x.isFinite := by
  unfold isNotANumber at h
  unfold isInfinite isFinite
  cases hexponent : x.exponent == 2047 <;> simp_all

theorem IsNearest.eq_infinity
    {q : ℚ} {x : Double}
    (h : x.IsNearest q)
    (hx : x.isFinite = false) :
    x = infinity := by
  have hexponent : x.exponent = 2047 := by simpa [isFinite] using hx
  have hfraction := fraction_eq_zero h.number hexponent
  obtain ⟨negative, exponent, fraction⟩ := x
  obtain rfl : negative = false := h.positive
  obtain rfl : exponent = 2047 := hexponent
  obtain rfl : fraction = 0 := hfraction
  rfl

theorem isNearest_infinity
    {q : ℚ}
    (h : infinity.magnitude ≤ q) :
    infinity.IsNearest q := by
  refine .of_magnitude (infinity.magnitude_nonneg.trans h) rfl rfl ?_ fun _ _ _ _ => rfl
  intro y hy
  have hle : y.magnitude ≤ infinity.magnitude :=
    le_of_not_gt fun hlt =>
      absurd (magnitude_lt_magnitude_iff.1 hlt) (units_le_infinity hy).not_gt
  rw [abs_of_nonpos (by linarith), abs_of_nonpos (by linarith)]
  linarith

theorem isNearest_zero
    {q : ℚ}
    (hq : 0 ≤ q)
    (h : 2 * q * unitCount < 1) :
    zero.IsNearest q := by
  refine .of_magnitude hq rfl rfl ?_ fun _ _ _ _ => rfl
  intro y _
  have hcount : (0 : ℚ) < unitCount := by exact_mod_cast unitCount_pos
  have hzero : zero.magnitude = 0 := value_zero
  rw [hzero, zero_sub, abs_neg, abs_of_nonneg hq]
  rcases Nat.eq_zero_or_pos y.units with hunits | hunits
  · rw [magnitude, hunits, Nat.cast_zero, zero_div, zero_sub, abs_neg, abs_of_nonneg hq]
  · have hone : 1 ≤ y.magnitude * unitCount := by
      rw [magnitude, div_mul_cancel₀ _ hcount.ne']
      exact_mod_cast hunits
    have htwice : 2 * q ≤ y.magnitude :=
      le_of_mul_le_mul_right (h.le.trans hone) hcount
    exact le_abs.2 (.inl (by linarith))

end Double
end ModuleSpec
