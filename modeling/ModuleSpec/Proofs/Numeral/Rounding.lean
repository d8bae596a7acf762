import Mathlib.Algebra.Order.Field.Basic
import Mathlib.Algebra.Order.Ring.Abs
import Mathlib.Tactic.Positivity
import ModuleSpec.Proofs.Numeral.Nearest

/-!
# Rounding a fraction

A fraction of natural numbers is rounded in natural arithmetic: an offset is chosen, the
quotient is rounded to an integer, and the double is put together from both.

**Idea.**  A double with the exponent offset o or a greater one has a multiple of 2^o as
its magnitude, and one with a smaller offset has less than 2^(52 + o).  So rounding to the
nearest multiple of 2^o is enough when the number itself reaches 2^(52 + o), or when there
is no smaller offset.

**Results.**  `isNearest_ofRatio`: rounding a fraction gives the nearest double; at
`isNearest_ofNat` a natural number is rounded.
-/

namespace ModuleSpec
namespace Double

/-! ## The nearest integer -/

section NearestEven

variable {num den : Nat}

theorem div_le_nearestEven : num / den ≤ nearestEven num den := by
  unfold nearestEven
  dsimp only
  split
  · rfl
  · split <;> omega

theorem nearestEven_le : nearestEven num den ≤ num / den + 1 := by
  unfold nearestEven
  dsimp only
  split
  · omega
  · split <;> omega

/-- The nearest integer is at most one half away, and when it is one half away it is even. -/
theorem dist_nearestEven
    (num : Nat)
    (hden : 0 < den) :
    2 * |(nearestEven num den * den : ℤ) - num| ≤ den
      ∧ (2 * |(nearestEven num den * den : ℤ) - num| = den → nearestEven num den % 2 = 0) := by
  have hdiv : ((num / den : ℕ) * den : ℤ) + (num % den : ℕ) = num := by
    exact_mod_cast Nat.div_add_mod' num den
  have hrest : num % den < den := Nat.mod_lt _ hden
  unfold nearestEven
  dsimp only
  generalize num / den = quotient at *
  generalize num % den = rest at *
  have hdown : |(quotient * den : ℤ) - num| = rest := by
    rw [← hdiv, sub_add_cancel_left, abs_neg, Nat.abs_cast]
  have hup : |((quotient + 1 : ℕ) * den : ℤ) - num| = den - rest := by
    rw [← hdiv, Nat.cast_succ, add_mul, one_mul, add_sub_add_left_eq_sub, abs_of_nonneg]
    omega
  split
  case isTrue hlow =>
      rw [hdown]
      omega
  case isFalse hlow =>
      split
      case isTrue hhigh =>
          rw [hup]
          omega
      case isFalse hhigh =>
          rcases Nat.mod_two_eq_zero_or_one quotient with heven | hodd
          · rw [heven, Nat.add_zero, hdown]
            omega
          · rw [hodd, hup]
            omega

/-- Two different integers are at least one step apart. -/
theorem le_dist_add_dist
    (num den : Nat)
    {m k : ℤ}
    (h : k ≠ m) :
    (den : ℤ) ≤ |k * den - num| + |m * den - num| := by
  have hstep : 1 ≤ |k - m| := Int.one_le_abs (sub_ne_zero.2 h)
  calc
    (den : ℤ) ≤ |k - m| * den := le_mul_of_one_le_left (Int.natCast_nonneg _) hstep
    _ = |k * den - m * den| := by
        rw [← sub_mul, abs_mul, Nat.abs_cast]
    _ ≤ |k * den - num| + |num - m * den| := abs_sub_le _ _ _
    _ = |k * den - num| + |m * den - num| := by rw [abs_sub_comm (num : ℤ)]

theorem dist_nearestEven_le
    (hden : 0 < den)
    (k : ℤ) :
    |(nearestEven num den * den : ℤ) - num| ≤ |k * den - num| := by
  by_cases h : k = nearestEven num den
  · rw [h]
  · have hstep := le_dist_add_dist num den h
    have hhalf := (dist_nearestEven num hden).1
    linarith

theorem nearestEven_even_of_tie
    (hden : 0 < den)
    {k : ℤ}
    (hne : k ≠ nearestEven num den)
    (htie : |k * den - num| = |(nearestEven num den * den : ℤ) - num|) :
    nearestEven num den % 2 = 0 := by
  have hstep := le_dist_add_dist num den hne
  obtain ⟨hhalf, heven⟩ := dist_nearestEven num hden
  exact heven (by linarith)

end NearestEven

/-! ## The offset -/

section Offset

variable {num den : Nat}

/-- Under the chosen offset the quotient has at most 53 bits. -/
theorem lt_of_offsetOf
    (num : Nat)
    (hden : 0 < den) :
    num * unitCount < den * 2 ^ (53 + offsetOf num den) := by
  unfold offsetOf
  rw [← unitCount_eq]
  dsimp only
  generalize num * unitCount = scaled
  split
  case isTrue h => exact h
  case isFalse =>
      calc
        scaled < 2 ^ (scaled.log2 + 1) := Nat.lt_log2_self
        _ ≤ 2 ^ (den.log2 + (53 + (scaled.log2 - den.log2 - 53 + 1))) :=
            Nat.pow_le_pow_right (by decide) (by omega)
        _ = 2 ^ den.log2 * 2 ^ (53 + (scaled.log2 - den.log2 - 53 + 1)) :=
            Nat.pow_add _ _ _
        _ ≤ den * 2 ^ (53 + (scaled.log2 - den.log2 - 53 + 1)) :=
            Nat.mul_le_mul_right _ (Nat.log2_self_le hden.ne')

/-- Unless the offset is the least one, the quotient has 53 bits. -/
theorem le_of_offsetOf
    (h : offsetOf num den ≠ 0) :
    den * 2 ^ (52 + offsetOf num den) ≤ num * unitCount := by
  unfold offsetOf at h ⊢
  rw [← unitCount_eq] at h ⊢
  dsimp only at h ⊢
  generalize num * unitCount = scaled at h ⊢
  split at h
  case isTrue hlt =>
      have hscaled : scaled ≠ 0 := by
        rintro rfl
        exact h (by simp)
      rw [if_pos hlt]
      calc
        den * 2 ^ (52 + (scaled.log2 - den.log2 - 53))
          ≤ 2 ^ (den.log2 + 1) * 2 ^ (52 + (scaled.log2 - den.log2 - 53)) :=
            Nat.mul_le_mul_right _ Nat.lt_log2_self.le
        _ = 2 ^ (den.log2 + 1 + (52 + (scaled.log2 - den.log2 - 53))) :=
            (Nat.pow_add _ _ _).symm
        _ ≤ 2 ^ scaled.log2 := Nat.pow_le_pow_right (by decide) (by omega)
        _ ≤ scaled := Nat.log2_self_le hscaled
  case isFalse hlt =>
      rw [if_neg hlt, show 52 + (scaled.log2 - den.log2 - 53 + 1)
        = 53 + (scaled.log2 - den.log2 - 53) by omega]
      exact Nat.le_of_not_lt hlt

end Offset

/-! ## Putting a double together -/

/-- The double x stands for a significand at an offset, or is infinity beyond all offsets. -/
structure StandsFor (m offset : Nat) (x : Double) : Prop where
  positive : x.negative = false
  number : x.isNotANumber = false
  units : offset < topOffset → x.units = m * 2 ^ offset
  top : topOffset ≤ offset → x = infinity
  even : m % 2 = 0 → x.fraction.val % 2 = 0

theorem standsFor_subnormal
    {m : Nat}
    (h : m < 2 ^ 52) :
    StandsFor m 0 ⟨false, 0, ⟨m, h⟩⟩ := by
  refine ⟨rfl, rfl, fun _ => ?_, fun htop => ?_, fun heven => heven⟩
  · rw [Double.units, parts_of_exponent_zero rfl]
  · rw [topOffset_eq] at htop
    omega

theorem standsFor_normal
    {fraction offset : Nat}
    (hoffset : offset + 1 < 2047)
    (h : fraction < 2 ^ 52) :
    StandsFor (2 ^ 52 + fraction) offset
      ⟨false, ⟨offset + 1, by omega⟩, ⟨fraction, h⟩⟩ := by
  refine ⟨rfl, ?_, fun _ => ?_, fun htop => ?_, fun heven => ?_⟩
  · have hne : (⟨offset + 1, by omega⟩ : Fin 2048) ≠ 2047 := by
      intro heq
      exact hoffset.ne (congrArg Fin.val heq)
    simp [isNotANumber, hne]
  · rw [Double.units, parts_of_exponent_ne_zero (Nat.succ_ne_zero _)]
    rfl
  · rw [topOffset_eq] at htop
    omega
  · simp only
    omega

/-- A significand that has reached 2^53 is 2^52 at the next offset. -/
theorem standsFor_carried
    {offset : Nat}
    (hoffset : offset + 2 < 2047) :
    StandsFor (2 ^ 53) offset ⟨false, ⟨offset + 2, by omega⟩, 0⟩ := by
  have hnext : StandsFor (2 ^ 52 + 0) (offset + 1) _ :=
    standsFor_normal hoffset (Nat.two_pow_pos 52)
  refine ⟨rfl, hnext.number, fun _ => ?_, fun htop => ?_, fun _ => rfl⟩
  · refine (hnext.units (by rw [topOffset_eq]; omega)).trans ?_
    ring
  · rw [topOffset_eq] at htop
    omega

theorem standsFor_infinity
    {m offset : Nat}
    (h : topOffset ≤ offset ∨ (m = 2 ^ 53 ∧ topOffset = offset + 1)) :
    StandsFor m offset infinity := by
  refine ⟨rfl, rfl, fun hlt => ?_, fun _ => rfl, fun _ => rfl⟩
  obtain ⟨rfl, htop⟩ := h.resolve_left (Nat.not_le.2 hlt)
  rw [units_infinity, htop]
  ring

section OfParts

variable {m offset : Nat}

theorem ofParts_of_lt
    (h : m < 2 ^ 52) :
    ofParts m offset = ⟨false, 0, ⟨m, h⟩⟩ := by
  have hlt : m < fractionCount := h
  simp only [ofParts, if_pos hlt, Nat.mod_eq_of_lt (show m < 4503599627370496 from h)]

theorem ofParts_carried :
    ofParts (2 ^ 53) offset
      = if h : offset + 2 < 2047 then ⟨false, ⟨offset + 2, by omega⟩, 0⟩ else infinity := by
  have hlarge : ¬ 2 ^ 53 < fractionCount := by decide
  have hcarried : 2 ^ 53 = 2 * fractionCount := rfl
  simp only [ofParts, if_neg hlarge, if_pos hcarried]
  by_cases h : offset + 2 < 2047
  · rw [if_pos h, dif_pos h]
    congr 1
    exact Fin.ext (Nat.mod_eq_of_lt (by omega))
  · rw [if_neg h, dif_neg h]

theorem ofParts_normal
    (hlow : 2 ^ 52 ≤ m)
    (hhigh : m < 2 ^ 53) :
    ofParts m offset
      = if h : offset + 1 < 2047 then ⟨false, ⟨offset + 1, by omega⟩, ⟨m - 2 ^ 52, by omega⟩⟩
        else infinity := by
  have hlarge : ¬ m < fractionCount := Nat.not_lt.2 hlow
  have hcarried : m ≠ 2 * fractionCount := hhigh.ne
  simp only [ofParts, if_neg hlarge, if_neg hcarried]
  by_cases h : offset + 1 < 2047
  · rw [if_pos h, dif_pos h]
    have hfield : (offset + 1) % 2048 = offset + 1 := Nat.mod_eq_of_lt (by omega)
    have hfraction : (m - fractionCount) % 4503599627370496 = m - 2 ^ 52 :=
      Nat.mod_eq_of_lt (by rw [fractionCount]; omega)
    exact congrArg₂ (Double.mk false) (Fin.ext hfield) (Fin.ext hfraction)
  · rw [if_neg h, dif_neg h]

theorem standsFor_ofParts
    (hm : m ≤ 2 ^ 53)
    (hoffset : offset = 0 ∨ 2 ^ 52 ≤ m) :
    StandsFor m offset (ofParts m offset) := by
  have htop := topOffset_eq
  by_cases hsmall : m < 2 ^ 52
  · obtain rfl : offset = 0 := hoffset.resolve_right (Nat.not_le.2 hsmall)
    rw [ofParts_of_lt hsmall]
    exact standsFor_subnormal hsmall
  rcases Nat.lt_or_eq_of_le hm with hnormal | rfl
  · rw [ofParts_normal (Nat.le_of_not_lt hsmall) hnormal]
    split
    case isTrue hfinite =>
        have hstands := standsFor_normal hfinite (show m - 2 ^ 52 < 2 ^ 52 by omega)
        rwa [Nat.add_sub_of_le (Nat.le_of_not_lt hsmall)] at hstands
    case isFalse => exact standsFor_infinity (by omega)
  · rw [ofParts_carried]
    split
    case isTrue hfinite => exact standsFor_carried hfinite
    case isFalse => exact standsFor_infinity (by omega)

end OfParts

/-! ## Rounding a fraction -/

section OfRatio

variable {num den : Nat}

/-- The step of the grid that a fraction is rounded to. -/
def gridStep (num den : Nat) : Nat :=
  2 ^ offsetOf num den

/-- How many steps of the grid a fraction is rounded to. -/
def steps (num den : Nat) : Nat :=
  nearestEven (num * unitCount) (den * gridStep num den)

theorem gridStep_pos
    (num : Nat)
    (hden : 0 < den) :
    0 < den * gridStep num den :=
  Nat.mul_pos hden (Nat.two_pow_pos _)

theorem lt_gridStep
    (hden : 0 < den) :
    num * unitCount < 2 ^ 53 * (den * gridStep num den) := by
  have h := lt_of_offsetOf num hden
  rwa [Nat.pow_add, Nat.mul_left_comm] at h

theorem gridPoint_le
    (h : offsetOf num den ≠ 0) :
    2 ^ 52 * gridStep num den * den ≤ num * unitCount := by
  have h := le_of_offsetOf h
  rwa [Nat.pow_add, Nat.mul_comm] at h

/-- A fraction is rounded to an integer number of steps. -/
theorem standsFor_ofRatio
    (num : Nat)
    (hden : 0 < den) :
    StandsFor (steps num den) (offsetOf num den) (ofRatio num den) := by
  have hstep := gridStep_pos num hden
  have hratio : ofRatio num den = ofParts (steps num den) (offsetOf num den) := by
    rw [steps, unitCount_eq]
    rfl
  rw [hratio]
  refine standsFor_ofParts ?_ ?_
  · have hlt : num * unitCount / (den * gridStep num den) < 2 ^ 53 :=
      (Nat.div_lt_iff_lt_mul hstep).2 (lt_gridStep hden)
    exact nearestEven_le.trans hlt
  · rcases Nat.eq_zero_or_pos (offsetOf num den) with hzero | hpos
    · exact .inl hzero
    · refine .inr (((Nat.le_div_iff_mul_le hstep).2 ?_).trans div_le_nearestEven)
      rw [Nat.mul_comm den, ← Nat.mul_assoc]
      exact gridPoint_le hpos.ne'

/-! ### Distances -/

/-- The distance of a magnitude to the fraction, as a multiple of the unit over den. -/
def dist (num den units : Nat) : ℤ :=
  |(units * den : ℤ) - (num * unitCount : ℕ)|

theorem abs_magnitude_sub
    (hden : 0 < den)
    (x : Double) :
    |x.magnitude - num / den| = dist num den x.units / (unitCount * den) := by
  have hcount : (0 : ℚ) < unitCount := by exact_mod_cast unitCount_pos
  have hden' : (0 : ℚ) < den := by exact_mod_cast hden
  rw [dist, Int.cast_abs, magnitude, div_sub_div _ _ hcount.ne' hden'.ne', abs_div,
    abs_of_pos (mul_pos hcount hden')]
  push_cast
  rw [mul_comm (unitCount : ℚ) num]

theorem dist_of_le
    {units : Nat}
    (h : units * den ≤ num * unitCount) :
    dist num den units = (num * unitCount : ℕ) - (units * den : ℕ) := by
  rw [dist, abs_of_nonpos] <;> push_cast <;> zify at h <;> linarith

/-- Below the fraction, what is greater is nearer. -/
theorem dist_lt_dist
    {u v : Nat}
    (hden : 0 < den)
    (huv : u < v)
    (hv : v * den ≤ num * unitCount) :
    dist num den v < dist num den u := by
  have hlt : u * den < v * den := Nat.mul_lt_mul_of_pos_right huv hden
  rw [dist_of_le hv, dist_of_le (hlt.le.trans hv)]
  omega

theorem dist_gridStep (num den k : Nat) :
    dist num den (k * gridStep num den)
      = |(k : ℤ) * (den * gridStep num den : ℕ) - (num * unitCount : ℕ)| := by
  rw [dist]
  push_cast
  ring_nf

/-- On the grid the rounded quotient is nearest. -/
theorem dist_steps_le
    (num : Nat)
    (hden : 0 < den)
    (k : Nat) :
    dist num den (steps num den * gridStep num den) ≤ dist num den (k * gridStep num den) := by
  rw [dist_gridStep, dist_gridStep]
  exact dist_nearestEven_le (gridStep_pos num hden) k

theorem steps_even_of_tie
    (hden : 0 < den)
    {k : Nat}
    (hne : k ≠ steps num den)
    (htie : dist num den (k * gridStep num den)
      = dist num den (steps num den * gridStep num den)) :
    steps num den % 2 = 0 := by
  rw [dist_gridStep, dist_gridStep] at htie
  exact nearestEven_even_of_tie (gridStep_pos num hden) (by exact_mod_cast hne) htie

/-- The grid point 2^52 lies between what is below the grid and the fraction. -/
theorem dist_steps_lt
    (hden : 0 < den)
    {u : Nat}
    (hoffset : offsetOf num den ≠ 0)
    (hlow : u < 2 ^ 52 * gridStep num den) :
    dist num den (steps num den * gridStep num den) < dist num den u :=
  (dist_steps_le num hden (2 ^ 52)).trans_lt (dist_lt_dist hden hlow (gridPoint_le hoffset))

/-! ### The nearest double -/

/-- While the offset is one of a finite double, no double is nearer than the rounded one. -/
theorem isNearest_of_offset_lt
    (hden : 0 < den)
    (hoffset : offsetOf num den < topOffset) :
    (ofRatio num den).IsNearest (num / den) := by
  have hstands := standsFor_ofRatio num hden
  have hunits : (ofRatio num den).units = steps num den * gridStep num den :=
    hstands.units hoffset
  have hscale : (0 : ℚ) < unitCount * den :=
    mul_pos (by exact_mod_cast unitCount_pos) (by exact_mod_cast hden)
  have hq : (0 : ℚ) ≤ num / den := div_nonneg (Nat.cast_nonneg _) (Nat.cast_nonneg _)
  refine .of_magnitude hq hstands.positive hstands.number ?_ ?_
  · intro y _
    rw [abs_magnitude_sub hden, abs_magnitude_sub hden, div_le_div_iff_of_pos_right hscale,
      Int.cast_le, hunits]
    rcases y.dvd_units_or_lt (offsetOf num den) with ⟨k, hk⟩ | ⟨hne, hlow⟩
    · rw [hk, ← gridStep, mul_comm (gridStep num den)]
      exact dist_steps_le num hden k
    · exact (dist_steps_lt hden hne hlow).le
  · intro y _ htie hvalue
    rw [abs_magnitude_sub hden, abs_magnitude_sub hden, div_left_inj' hscale.ne', Int.cast_inj,
      hunits] at htie
    rw [Ne, magnitude_eq_magnitude_iff, hunits] at hvalue
    rcases y.dvd_units_or_lt (offsetOf num den) with ⟨k, hk⟩ | ⟨hne, hlow⟩
    · rw [hk, ← gridStep, mul_comm (gridStep num den)] at htie hvalue
      exact hstands.even (steps_even_of_tie hden (fun heq => hvalue (by rw [heq])) htie)
    · exact absurd htie (dist_steps_lt hden hne hlow).ne'

/-- Beyond the offsets of finite doubles the fraction is at least 2^1024. -/
theorem infinity_le_of_offset
    (hden : 0 < den)
    (hoffset : topOffset ≤ offsetOf num den) :
    infinity.magnitude ≤ num / den := by
  have hne : offsetOf num den ≠ 0 := by
    rw [topOffset_eq] at hoffset
    omega
  have hnat : infinity.units * den ≤ num * unitCount := by
    calc
      infinity.units * den = 2 ^ 52 * 2 ^ topOffset * den := by rw [units_infinity]
      _ ≤ 2 ^ 52 * gridStep num den * den :=
          Nat.mul_le_mul_right _
            (Nat.mul_le_mul_left _ (Nat.pow_le_pow_right (by decide) hoffset))
      _ ≤ num * unitCount := gridPoint_le hne
  rw [magnitude, div_le_div_iff₀ (by exact_mod_cast unitCount_pos) (by exact_mod_cast hden)]
  exact_mod_cast hnat

/-- Rounding a fraction gives the nearest double. -/
theorem isNearest_ofRatio
    (num : Nat)
    (hden : 0 < den) :
    (ofRatio num den).IsNearest (num / den) := by
  rcases Nat.lt_or_ge (offsetOf num den) topOffset with hfinite | htop
  · exact isNearest_of_offset_lt hden hfinite
  · rw [(standsFor_ofRatio num hden).top htop]
    exact isNearest_infinity (infinity_le_of_offset hden htop)

/-- Rounding a natural number gives the nearest double. -/
theorem isNearest_ofNat (n : Nat) : (ofNat n).IsNearest n := by
  have h := isNearest_ofRatio n Nat.one_pos
  rwa [Nat.cast_one, div_one] at h

end OfRatio

end Double
end ModuleSpec
