import ImageVerification.Json.Number
import ImageVerification.Proofs.Binary.Rounded
import Mathlib.Algebra.Order.Field.Power

/-! Numbers with few digits are read with two small errors: that of the power of ten and that of
the one operation that scales with it. Neither takes them past a number of 25 bits, unless they are
very close to it.
-/

namespace ImageVerification.Json.Number

open Binary Binary64

/-- What a power of ten may be off by. -/
def slack : ℚ := 1 / 2 ^ 53

/-- Two fractions that differ by the error of a power of ten at most. -/
structure Near (p q : ℚ) : Prop where
  le : (1 - slack) * p ≤ q
  ge : (1 - slack) * q ≤ p

namespace Near

variable {p q : ℚ}

/-- Whatever is within the slack of a positive number is near it. -/
theorem of_abs_le (positive : 0 < q) (close : |p - q| ≤ q * slack) : Near p q := by
  obtain ⟨low, high⟩ := abs_le.mp close
  refine ⟨?_, by linarith⟩
  calc
    (1 - slack) * p ≤ (1 - slack) * ((1 + slack) * q) :=
      mul_le_mul_of_nonneg_left (by linarith) (by norm_num [slack])
    _ = (1 - slack ^ 2) * q := by ring
    _ ≤ 1 * q := mul_le_mul_of_nonneg_right (by norm_num [slack]) positive.le
    _ = q := one_mul q

theorem pos (near : Near p q) (positive : 0 < q) : 0 < p :=
  (mul_pos (by norm_num [slack]) positive).trans_le near.ge

theorem mul_left (near : Near p q) {factor : ℚ} (nonneg : 0 ≤ factor)
    : Near (factor * p) (factor * q) := by
  constructor
  · calc
      (1 - slack) * (factor * p) = factor * ((1 - slack) * p) := by ring
      _ ≤ factor * q := mul_le_mul_of_nonneg_left near.le nonneg
  · calc
      (1 - slack) * (factor * q) = factor * ((1 - slack) * q) := by ring
      _ ≤ factor * p := mul_le_mul_of_nonneg_left near.ge nonneg

theorem div_left (near : Near p q) (positive : 0 < q) {dividend : ℚ} (nonneg : 0 ≤ dividend)
    : Near (dividend / p) (dividend / q) := by
  have p_pos := near.pos positive
  constructor
  · rw [← mul_div_assoc, div_le_div_iff₀ p_pos positive]
    calc
      (1 - slack) * dividend * q = dividend * ((1 - slack) * q) := by ring
      _ ≤ dividend * p := mul_le_mul_of_nonneg_left near.ge nonneg
  · rw [← mul_div_assoc, div_le_div_iff₀ positive p_pos]
    calc
      (1 - slack) * dividend * p = dividend * ((1 - slack) * p) := by ring
      _ ≤ dividend * q := mul_le_mul_of_nonneg_left near.le nonneg

end Near

theorem one_eq : (one : ℚ) = 2 ^ Format.double.unitExponent := by
  rw [one, Nat.cast_pow, Nat.cast_ofNat]

theorem ofNat_denotes {n : Nat} (narrow : n < 2 ^ 53) : (ofNat n).Denotes n := by
  obtain ⟨result, denotes, rounded⟩ := ofNat_rounded (narrow.trans (by norm_num))
  rwa [rounded.eq narrow (by rw [one_eq])] at denotes

/-- A power of ten denotes something near it, and up to the 22nd the power itself. -/
theorem powerOfTen_denotes {exponent : Nat} (small : exponent ≤ 60)
    : ∃ power,
        (powerOfTen exponent).Denotes power ∧ Near power (10 ^ exponent)
        ∧ (exponent ≤ 22 → power = 10 ^ exponent) := by
  have moderate : 10 ^ exponent < 2 ^ 256 :=
    (Nat.pow_le_pow_right (by decide) small).trans_lt (by norm_num)
  obtain ⟨power, denotes, rounded⟩ := ofNat_rounded moderate
  rw [Nat.cast_pow, Nat.cast_ofNat] at rounded
  refine ⟨power, denotes, ?_, ?_⟩
  · refine .of_abs_le (by positivity) ?_
    rw [slack, mul_one_div]
    exact rounded.near (one_le_pow₀ (by norm_num))
  · intro exact
    have narrow : 5 ^ exponent < 2 ^ 53 :=
      (Nat.pow_le_pow_right (by decide) exact).trans_lt (by norm_num)
    have factored
        : (10 : ℚ) ^ exponent * one
          = (5 ^ exponent : Nat) * 2 ^ (exponent + Format.double.unitExponent) := by
      rw [one_eq, pow_add, Nat.cast_pow, Nat.cast_ofNat, ← mul_assoc, ← mul_pow]
      norm_num
    exact rounded.eq narrow factored

section Sides

variable {exact quotient result : ℚ} {n height : Nat} (near : Near quotient exact)
  (rounded : Rounded quotient result) (narrow : n < 2 ^ 25) (coarse : 28 ≤ height)

include near rounded narrow coarse

/-- What lies well below a number of 25 bits is read as less. The next lower number of 53 bits is
not reached either, since both errors together are smaller than the distance.
-/
theorem result_lt (positive : 0 < n) (apart : exact * one + 2 ^ height / 2 ^ 27 ≤ n * 2 ^ height)
    : result * one < n * 2 ^ height := by
  have one_pos : (0 : ℚ) < one := by exact_mod_cast one_pos
  obtain ⟨shift, rfl⟩ := Nat.exists_eq_add_of_le coarse
  -- The number just below, in units of the last of 53 bits.
  obtain ⟨before, before_eq⟩ : ∃ before, n * 2 ^ 28 = before + 1 := ⟨n * 2 ^ 28 - 1, by omega⟩
  have cast_eq : (n : ℚ) * 2 ^ 28 = before + 1 := by exact_mod_cast before_eq
  have before_lt : before < 2 ^ 53 := by omega
  have unit_pos : (0 : ℚ) < 2 ^ shift := by positivity
  have split : (n : ℚ) * 2 ^ (28 + shift) = (before + 1) * 2 ^ shift := by
    rw [pow_add, ← mul_assoc, cast_eq]
  have distance_eq : (2 : ℚ) ^ (28 + shift) / 2 ^ 27 = 2 * 2 ^ shift := by
    rw [pow_add]
    ring
  have error_le : slack * before * 2 ^ shift ≤ 1 * 2 ^ shift := by
    have : (before : ℚ) < 2 ^ 53 := by exact_mod_cast before_lt
    refine mul_le_mul_of_nonneg_right ?_ unit_pos.le
    rw [slack]
    linarith
  -- If the quotient were beyond it, the exact value would be too near the number.
  have quotient_le : quotient * one ≤ before * 2 ^ shift := by
    by_contra beyond
    have scaled := mul_le_mul_of_nonneg_right near.le one_pos.le
    have off : (0 : ℚ) < 1 - slack := by norm_num [slack]
    have := mul_lt_mul_of_pos_left (not_le.mp beyond) off
    linarith
  calc
    result * one ≤ before * 2 ^ shift := rounded.le before_lt quotient_le
    _ < (before + 1) * 2 ^ shift := by linarith
    _ = n * 2 ^ (28 + shift) := split.symm

/-- What lies well above a number of 25 bits is read as more. -/
theorem lt_result (apart : n * 2 ^ height + 2 ^ height / 2 ^ 27 ≤ exact * one)
    : n * 2 ^ height < result * one := by
  have one_pos : (0 : ℚ) < one := by exact_mod_cast one_pos
  obtain ⟨shift, rfl⟩ := Nat.exists_eq_add_of_le coarse
  have next_lt : n * 2 ^ 28 + 1 < 2 ^ 53 := by omega
  have cast_eq : ((n * 2 ^ 28 + 1 : Nat) : ℚ) = n * 2 ^ 28 + 1 := by push_cast; rfl
  have unit_pos : (0 : ℚ) < 2 ^ shift := by positivity
  have split : (n : ℚ) * 2 ^ (28 + shift) = n * 2 ^ 28 * 2 ^ shift := by
    rw [pow_add, ← mul_assoc]
  have distance_eq : (2 : ℚ) ^ (28 + shift) / 2 ^ 27 = 2 * 2 ^ shift := by
    rw [pow_add]
    ring
  have error_le : slack * (n * 2 ^ 28 + 2) * 2 ^ shift ≤ 1 * 2 ^ shift := by
    have : (n : ℚ) + 1 ≤ 2 ^ 25 := by exact_mod_cast narrow
    refine mul_le_mul_of_nonneg_right ?_ unit_pos.le
    rw [slack]
    linarith
  -- The number just above, which is not passed from above either.
  have le_quotient : ((n * 2 ^ 28 + 1 : Nat) : ℚ) * 2 ^ shift ≤ quotient * one := by
    have scaled := mul_le_mul_of_nonneg_right near.ge one_pos.le
    have off : (0 : ℚ) ≤ 1 - slack := by norm_num [slack]
    have := mul_le_mul_of_nonneg_left apart off
    rw [split, distance_eq] at this
    rw [cast_eq]
    linarith
  calc
    (n : ℚ) * 2 ^ (28 + shift) = n * 2 ^ 28 * 2 ^ shift := split
    _ < (n * 2 ^ 28 + 1 : Nat) * 2 ^ shift := by rw [cast_eq]; linarith
    _ ≤ result * one := rounded.ge next_lt le_quotient

end Sides

theorem result_eq {exact result : ℚ} {n height : Nat} (rounded : Rounded exact result)
    (narrow : n < 2 ^ 25) (same : exact * one = n * 2 ^ height)
    : result = exact :=
  rounded.eq (narrow.trans (by norm_num)) same

/-- Digits are rounded from next to what they stand for with their power of ten, and from exactly
that when the power of ten is a number of 64 bits.
-/
def ScalesNear (digits : Nat) (exponent : Int) (fraction : ℚ) : Prop :=
  ∃ x result quotient,
    scale? digits exponent = some x ∧ x.Denotes result ∧ Rounded quotient result
    ∧ Near quotient fraction ∧ (exponent.natAbs ≤ 22 → quotient = fraction)

section Few

variable {digits size : Nat} (few : digits < 2 ^ 53) (small : size ≤ 60)

include few small

/-- Scaling by a power of ten comes near the exact product, and gives it where nothing has to be
rounded.
-/
theorem scalesNear_mul : ScalesNear digits size (digits * 10 ^ size) := by
  obtain ⟨power, denotes, near, exact⟩ := powerOfTen_denotes small
  have inRange : size ≤ maxPower := Nat.le_trans small (by decide)
  -- The power is not large, so the product stays moderate.
  have power_le : power ≤ 2 * 10 ^ 60 := by
    have ten_le : (10 : ℚ) ^ size ≤ 10 ^ 60 := pow_le_pow_right₀ (by norm_num) small
    have := near.le
    norm_num [slack] at this ⊢
    linarith
  have product_lt : digits * power < 2 ^ 256 := by
    have digits_lt : (digits : ℚ) < 2 ^ 53 := by exact_mod_cast few
    have power_pos := near.pos (by positivity)
    calc
      digits * power ≤ 2 ^ 53 * (2 * 10 ^ 60) := by gcongr
      _ < 2 ^ 256 := by norm_num
  obtain ⟨result, denoted, rounded⟩ := (ofNat_denotes few).mul denotes product_lt
  have finite : (ofNat digits * powerOfTen size).isInfinite = false := by
    obtain ⟨units, measures, -⟩ := denoted
    exact measures.isInfinite_eq
  refine ⟨ofNat digits * powerOfTen size, result, _, ?_, denoted, rounded,
    near.mul_left (Nat.cast_nonneg _), fun within => by rw [exact within]⟩
  simp only [scale?, Int.natAbs_natCast, if_pos (Int.natCast_nonneg size), if_pos inRange, finite,
    Bool.false_eq_true, if_false]

/-- So does scaling down, which divides once by the power. -/
theorem scalesNear_div (below : 0 < size) : ScalesNear digits (-size) (digits / 10 ^ size) := by
  obtain ⟨power, denotes, near, exact⟩ := powerOfTen_denotes small
  have inRange : size ≤ maxPower := Nat.le_trans small (by decide)
  have ten_pos : (0 : ℚ) < 10 ^ size := by positivity
  have power_pos := near.pos ten_pos
  -- The power is not small, so the quotient stays moderate.
  have power_ge : 1 / 2 ≤ power := by
    have ten_ge : (1 : ℚ) ≤ 10 ^ size := one_le_pow₀ (by norm_num)
    have := near.ge
    norm_num [slack] at this ⊢
    linarith
  have quotient_lt : digits / power < 2 ^ 256 := by
    have digits_lt : (digits : ℚ) < 2 ^ 53 := by exact_mod_cast few
    rw [div_lt_iff₀ power_pos]
    calc
      (digits : ℚ) < 2 ^ 53 := digits_lt
      _ ≤ 2 ^ 256 * (1 / 2) := by norm_num
      _ ≤ 2 ^ 256 * power := by gcongr
  obtain ⟨result, denoted, rounded⟩ := (ofNat_denotes few).div denotes power_pos quotient_lt
  have negative : ¬ (0 : Int) ≤ -size := by omega
  refine ⟨ofNat digits / powerOfTen size, result, _, ?_, denoted, rounded,
    near.div_left ten_pos (Nat.cast_nonneg _), fun within => ?_⟩
  · simp only [scale?, Int.natAbs_neg, Int.natAbs_natCast, if_neg negative, if_pos inRange]
  · rw [Int.natAbs_neg, Int.natAbs_natCast] at within
    rw [exact within]

end Few

/-- Scaling comes near the exact value for either sign of the exponent. -/
theorem scalesNear {digits : Nat} {exponent : Int} (few : digits < 2 ^ 53)
    (moderate : exponent.natAbs ≤ 60)
    : ScalesNear digits exponent (digits * 10 ^ exponent) := by
  obtain ⟨size, rfl | rfl⟩ := exponent.eq_nat_or_neg
  · rw [zpow_natCast]
    exact scalesNear_mul few (by simpa using moderate)
  · rcases Nat.eq_zero_or_pos size with rfl | below
    · simpa using scalesNear_mul few (Nat.zero_le 60)
    · rw [zpow_neg, zpow_natCast, ← div_eq_mul_inv]
      exact scalesNear_div few (by simpa using moderate) below

end ImageVerification.Json.Number
