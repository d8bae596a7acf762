import Mathlib.Data.Nat.Digits.Defs
import Mathlib.Tactic.NormNum
import ModuleSpec.Proofs.Numeral.Rounding

/-!
# Decimal numerals

The value of a decimal numeral is the number that its digits stand for, times a power of
ten.  It is read without computing this power when the numeral is beyond every double, or
nearer to zero than to any other.

**Results.**  `isNearest_toDouble`: a decimal numeral has the double nearest to its value,
at any length and with any exponent.
-/

namespace ModuleSpec

namespace Text

variable {base : Nat}

/-- The digits from the least significant one on are those of the library. -/
theorem ofDigits_eq (base : Nat) (digits : List Nat) :
    ofDigits base digits = Nat.ofDigits base digits.reverse := by
  induction digits using List.reverseRecOn with
  | nil => rfl
  | append_singleton digits d ih =>
      rw [List.reverse_append, List.reverse_singleton, List.singleton_append, Nat.ofDigits_cons,
        ← ih, ofDigits, List.foldl_append, ← ofDigits, List.foldl_cons, List.foldl_nil,
        Nat.add_comm, Nat.mul_comm]

theorem ofDigits_append (base : Nat) (ds es : List Nat) :
    ofDigits base (ds ++ es) = ofDigits base ds * base ^ es.length + ofDigits base es := by
  rw [ofDigits_eq, ofDigits_eq, ofDigits_eq, List.reverse_append, Nat.ofDigits_append,
    List.length_reverse]
  ring

theorem ofDigits_cons (base d : Nat) (ds : List Nat) :
    ofDigits base (d :: ds) = d * base ^ ds.length + ofDigits base ds := by
  rw [← List.singleton_append, ofDigits_append]
  simp [ofDigits]

theorem ofDigits_lt
    (hbase : 1 < base)
    {digits : List Nat}
    (h : ∀ d ∈ digits, d < base) :
    ofDigits base digits < base ^ digits.length := by
  rw [ofDigits_eq, ← List.length_reverse]
  exact Nat.ofDigits_lt_base_pow_length hbase fun d hd => h d (List.mem_reverse.1 hd)

/-- Zeros in front of a numeral count nothing. -/
theorem ofDigits_dropWhile (base : Nat) (digits : List Nat) :
    ofDigits base (digits.dropWhile (· == 0)) = ofDigits base digits := by
  induction digits with
  | nil => rfl
  | cons d ds ih =>
      rw [List.dropWhile_cons]
      split
      case isTrue hzero =>
          rw [ih, ofDigits_cons, beq_iff_eq.1 hzero, Nat.zero_mul, Nat.zero_add]
      case isFalse => rfl

end Text

namespace Numeral
namespace Decimal

/-- The number that a decimal numeral stands for. -/
def value (d : Decimal) : ℚ :=
  Text.ofDigits 10 d.digits * 10 ^ d.exponent

theorem value_nonneg (d : Decimal) : 0 ≤ d.value :=
  mul_nonneg (Nat.cast_nonneg _) (zpow_nonneg (by norm_num) _)

/-- A number with n digits, the first of which counts, is at least 10^(n - 1). -/
theorem pow_le_ofDigits
    {digits : List Nat}
    (hne : digits ≠ [])
    (hfirst : digits.head hne ≠ 0) :
    (10 : ℚ) ^ ((digits.length : ℤ) - 1) ≤ Text.ofDigits 10 digits := by
  obtain ⟨d, ds, rfl⟩ := List.exists_cons_of_ne_nil hne
  have hnat : 10 ^ ds.length ≤ Text.ofDigits 10 (d :: ds) := by
    rw [Text.ofDigits_cons]
    exact (Nat.le_mul_of_pos_left _ (Nat.pos_of_ne_zero hfirst)).trans (Nat.le_add_right _ _)
  rw [List.length_cons, Nat.cast_succ, add_sub_cancel_right, zpow_natCast]
  exact_mod_cast hnat

/-- The digits from the first one on that counts. -/
def significant (d : Decimal) : List Nat :=
  d.digits.dropWhile (· == 0)

/-- How many digits stand in front of the point, when the first one counts. -/
def magnitude (d : Decimal) : Int :=
  d.significant.length + d.exponent

section Bounds

variable {d : Decimal}

theorem value_eq : d.value = Text.ofDigits 10 d.significant * 10 ^ d.exponent := by
  rw [value, significant, Text.ofDigits_dropWhile]

/-- Beyond 10^310 a numeral is beyond every double. -/
theorem infinity_le_value
    (hne : d.significant ≠ [])
    (h : 310 < d.magnitude) :
    Double.infinity.magnitude ≤ d.value := by
  have hfirst : d.significant.head hne ≠ 0 :=
    beq_eq_false_iff_ne.1 (List.head_dropWhile_not (· == 0) hne)
  have hbound : Double.infinity.units ≤ 10 ^ 310 * Double.unitCount := by decide +kernel
  have hcount : (0 : ℚ) < Double.unitCount := by exact_mod_cast Double.unitCount_pos
  calc
    Double.infinity.magnitude ≤ (10 : ℚ) ^ 310 := by
        rw [Double.magnitude, div_le_iff₀ hcount]
        exact_mod_cast hbound
    _ = 10 ^ (310 : ℤ) := (zpow_natCast 10 310).symm
    _ ≤ 10 ^ ((d.significant.length : ℤ) - 1 + d.exponent) :=
        zpow_le_zpow_right₀ (by norm_num) (by rw [magnitude] at h; omega)
    _ = 10 ^ ((d.significant.length : ℤ) - 1) * 10 ^ d.exponent :=
        zpow_add₀ (by norm_num) _ _
    _ ≤ d.value := by
        rw [value_eq]
        exact mul_le_mul_of_nonneg_right (pow_le_ofDigits hne hfirst)
          (zpow_nonneg (by norm_num) _)

/-- A numeral is less than the power of ten that counts in front of its first digit. -/
theorem value_lt
    (hdigits : ∀ k ∈ d.digits, k < 10) :
    d.value < 10 ^ d.magnitude := by
  have hlt : Text.ofDigits 10 d.significant < 10 ^ d.significant.length :=
    Text.ofDigits_lt (by decide) fun k hk => hdigits k ((List.dropWhile_sublist _).mem hk)
  rw [value_eq, magnitude, zpow_add₀ (by norm_num), zpow_natCast]
  exact mul_lt_mul_of_pos_right (by exact_mod_cast hlt) (zpow_pos (by norm_num) _)

/-- Below 10^(-330) a numeral is less than half the least positive double. -/
theorem value_lt_half_unit
    (hdigits : ∀ k ∈ d.digits, k < 10)
    (h : d.magnitude < -330) :
    2 * d.value * Double.unitCount < 1 := by
  have hvalue : d.value < 10 ^ (-330 : ℤ) :=
    (value_lt hdigits).trans_le (zpow_le_zpow_right₀ (by norm_num) h.le)
  have hbound : 2 * Double.unitCount ≤ 10 ^ 330 := by decide +kernel
  have hbound' : (2 * Double.unitCount : ℚ) ≤ 10 ^ 330 := by exact_mod_cast hbound
  have hcount : (0 : ℚ) < Double.unitCount := by exact_mod_cast Double.unitCount_pos
  calc
    2 * d.value * Double.unitCount = d.value * (2 * Double.unitCount) := by ring
    _ < 10 ^ (-330 : ℤ) * (2 * Double.unitCount) :=
        mul_lt_mul_of_pos_right hvalue (by linarith)
    _ ≤ 10 ^ (-330 : ℤ) * 10 ^ 330 :=
        mul_le_mul_of_nonneg_left hbound' (zpow_nonneg (by norm_num) _)
    _ = 1 := by
        rw [← zpow_natCast, ← zpow_add₀ (by norm_num)]
        rfl

end Bounds

/-- Between the bounds a numeral is rounded as a fraction. -/
theorem isNearest_ofFraction (d : Decimal) :
    (if 0 ≤ d.exponent then
        Double.ofNat (Text.ofDigits 10 d.significant * Nat.pow 10 d.exponent.toNat)
      else
        Double.ofRatio (Text.ofDigits 10 d.significant)
          (Nat.pow 10 (-d.exponent).toNat)).IsNearest d.value := by
  rw [value_eq]
  split
  case isTrue hexponent =>
      obtain ⟨n, hn⟩ := Int.eq_ofNat_of_zero_le hexponent
      have hnearest := Double.isNearest_ofNat (Text.ofDigits 10 d.significant * Nat.pow 10 n)
      rw [hn, Int.toNat_natCast, zpow_natCast]
      rwa [Nat.pow_eq, Nat.cast_mul, Nat.cast_pow, Nat.cast_ofNat] at hnearest
  case isFalse hexponent =>
      obtain ⟨n, hn⟩ : ∃ n : Nat, d.exponent = -(n : ℤ) := ⟨(-d.exponent).toNat, by omega⟩
      have hpos : 0 < Nat.pow 10 n := Nat.pow_pos (by decide)
      have hnearest := Double.isNearest_ofRatio (Text.ofDigits 10 d.significant) hpos
      rw [hn, neg_neg, Int.toNat_natCast, zpow_neg, zpow_natCast, ← div_eq_mul_inv]
      rwa [Nat.pow_eq, Nat.cast_pow, Nat.cast_ofNat] at hnearest

/-- A decimal numeral has the double nearest to its value. -/
theorem isNearest_toDouble
    {d : Decimal}
    (h : ∀ k ∈ d.digits, k < 10) :
    d.toDouble.IsNearest d.value := by
  unfold toDouble
  dsimp only
  rw [← significant, ← magnitude]
  split
  case isTrue hempty =>
      have hzero : d.value = 0 := by
        rw [value_eq, List.isEmpty_iff.1 hempty]
        simp [Text.ofDigits]
      rw [hzero]
      exact Double.isNearest_zero le_rfl (by norm_num)
  case isFalse hempty =>
  split
  case isTrue hlarge =>
      exact Double.isNearest_infinity (infinity_le_value (mt List.isEmpty_iff.2 hempty) hlarge)
  case isFalse =>
  split
  case isTrue hsmall => exact Double.isNearest_zero d.value_nonneg (value_lt_half_unit h hsmall)
  case isFalse => exact d.isNearest_ofFraction

end Decimal
end Numeral
end ModuleSpec
