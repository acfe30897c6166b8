import ImageVerification.Proofs.Decimal.Sides
import ImageVerification.Proofs.Json.Scaling

/-! The decimal that is taken for a number of 32 bits is read as one of 64 bits that is rounded to
the same number again.
-/

namespace ImageVerification.Json.Number

open Binary Binary64 Decimal

/-- A middle between large numbers of 32 bits is a whole number with few odd factors, for which an
exact power of ten is enough.
-/
theorem natAbs_le_of_middle {digits whole scale : Nat} {exponent : Int} (few : digits < 2 ^ 53)
    (positive : 0 < whole) (narrow : whole < 2 ^ 25) (above : 150 < scale)
    (same : digits * (10 : ℚ) ^ exponent * 2 ^ 150 = whole * 2 ^ scale)
    : exponent.natAbs ≤ 22 := by
  obtain ⟨size, rfl | rfl⟩ := exponent.eq_nat_or_neg
  · rw [Int.natAbs_natCast]
    rw [zpow_natCast] at same
    have same : digits * 10 ^ size * 2 ^ 150 = whole * 2 ^ scale := by exact_mod_cast same
    have ten_eq : 10 ^ size = 5 ^ size * 2 ^ size := Nat.mul_pow 5 2 size
    have divides : 5 ^ size ∣ whole * 2 ^ scale :=
      ⟨digits * 2 ^ size * 2 ^ 150, by rw [← same, ten_eq]; ring⟩
    -- All fives of the power have to divide the middle, which is below 2 ^ 25.
    have coprime : (5 ^ size).Coprime (2 ^ scale) := Nat.Coprime.pow _ _ (by decide)
    have fives_le := Nat.le_of_dvd positive (coprime.dvd_of_dvd_mul_right divides)
    by_contra large
    have : 5 ^ 22 ≤ 5 ^ size := Nat.pow_le_pow_right (by decide) (by omega)
    omega
  · rw [Int.natAbs_neg, Int.natAbs_natCast]
    rw [zpow_neg, zpow_natCast, mul_assoc, mul_comm _ (2 ^ 150), ← mul_assoc,
      mul_inv_eq_iff_eq_mul₀ (by positivity)] at same
    have same : digits * 2 ^ 150 = whole * 2 ^ scale * 10 ^ size := by exact_mod_cast same
    -- The middle is whole, so the digits have to make up for the negative power.
    have tens_le : 10 ^ size ≤ digits := by
      have : 1 * 2 ^ 150 ≤ whole * 2 ^ scale :=
        Nat.mul_le_mul positive (Nat.pow_le_pow_right (by decide) above.le)
      have := Nat.mul_le_mul_right (10 ^ size) this
      rw [← same, Nat.one_mul, Nat.mul_comm] at this
      exact Nat.le_of_mul_le_mul_right this (by positivity)
    by_contra large
    have : 10 ^ 22 ≤ 10 ^ size := Nat.pow_le_pow_right (by decide) (by omega)
    omega

/-- The unit of doubles in half steps of a single: 924 binary places finer. -/
theorem one_eq_halves : (one : ℚ) = 2 ^ 150 * 2 ^ 924 := by
  have unit_eq : Format.double.unitExponent = 150 + 924 := rfl
  rw [one_eq, unit_eq, pow_add]

section Scaled

variable {value middle : ℚ} {scale : Nat}

theorem value_mul_one (value : ℚ) : value * one = value * 2 ^ 150 * 2 ^ 924 := by
  rw [one_eq_halves, mul_assoc]

theorem halves_mul (halves : ℚ) (scale : Nat)
    : halves * 2 ^ (scale + 924) = halves * 2 ^ scale * 2 ^ 924 := by
  rw [pow_add, mul_assoc]

theorem distance_mul (scale : Nat)
    : (2 : ℚ) ^ (scale + 924) / 2 ^ 27 = 2 ^ scale / 2 ^ 27 * 2 ^ 924 := by
  have split : (2 : ℚ) ^ (scale + 924) = 2 ^ scale * 2 ^ 924 := pow_add _ _ _
  rw [split, mul_div_right_comm]

/-- A value well above the middle of two singles is so among the doubles. -/
theorem above_scaled (apart : middle * 2 ^ scale + 2 ^ scale / 2 ^ 27 ≤ value * 2 ^ 150)
    : middle * 2 ^ (scale + 924) + 2 ^ (scale + 924) / 2 ^ 27 ≤ value * one := by
  rw [value_mul_one, halves_mul middle, distance_mul, ← add_mul]
  exact mul_le_mul_of_nonneg_right apart (pow_pos two_pos _).le

/-- So is a value well below it. -/
theorem below_scaled (apart : value * 2 ^ 150 + 2 ^ scale / 2 ^ 27 ≤ middle * 2 ^ scale)
    : value * one + 2 ^ (scale + 924) / 2 ^ 27 ≤ middle * 2 ^ (scale + 924) := by
  rw [value_mul_one, halves_mul middle, distance_mul, ← add_mul]
  exact mul_le_mul_of_nonneg_right apart (pow_pos two_pos _).le

end Scaled

section Suiting

variable {significand scale digits : Nat} {exponent : Int} {x : Scientific}
  (suits : Suits significand scale x) (value_eq : digits * (10 : ℚ) ^ exponent = x.value)
  (inRange : scale < 254) (narrow : significand < 2 ^ 24)
  (normal : 0 < scale → 2 ^ 23 ≤ significand) (usual : isSpecial significand scale = false)
  (few : digits < 2 ^ 53)

include suits value_eq inRange narrow normal usual few

/-- What is read is on the same side of a middle next to the number as the decimal. -/
theorem result_beside {quotient result : ℚ} (rounded : Rounded quotient result)
    (near : Near quotient (digits * (10 : ℚ) ^ exponent))
    (exact : exponent.natAbs ≤ 22 → quotient = digits * (10 : ℚ) ^ exponent) (whole : Nat)
    (positive : 0 < whole)
    (adjacent : whole + 1 = 2 * significand ∨ whole = 2 * significand + 1)
    : (whole * 2 ^ scale ≤ x.value * 2 ^ 150 →
        whole * 2 ^ (scale + 924) < result * one
        ∨ whole * 2 ^ (scale + 924) = result * one ∧ significand % 2 = 0)
      ∧ (x.value * 2 ^ 150 ≤ whole * 2 ^ scale →
          result * one < whole * 2 ^ (scale + 924)
          ∨ result * one = whole * 2 ^ (scale + 924) ∧ significand % 2 = 0) := by
  have whole_lt : whole < 2 ^ 25 := by omega
  rcases suits.beside inRange narrow normal usual adjacent with ⟨same, even, above⟩ | far
  · have on_middle : x.value * one = whole * 2 ^ (scale + 924) := by
      rw [value_mul_one, same, halves_mul _ scale]
    have small := natAbs_le_of_middle few positive whole_lt above (by rw [value_eq]; exact same)
    have quotient_eq : quotient = x.value := (exact small).trans value_eq
    rw [quotient_eq] at rounded
    rw [result_eq rounded whole_lt on_middle]
    exact ⟨fun _ => .inr ⟨on_middle.symm, even⟩, fun _ => .inr ⟨on_middle, even⟩⟩
  · rw [value_eq] at near
    constructor
    · intro atLeast
      rw [abs_of_nonneg (by linarith)] at far
      have apart : whole * 2 ^ scale + 2 ^ scale / 2 ^ 27 ≤ x.value * 2 ^ 150 := by linarith
      exact .inl (lt_result near rounded whole_lt (by omega) (above_scaled apart))
    · intro atMost
      rw [abs_of_nonpos (by linarith)] at far
      have apart : x.value * 2 ^ 150 + 2 ^ scale / 2 ^ 27 ≤ whole * 2 ^ scale := by linarith
      exact .inl (result_lt near rounded whole_lt (by omega) positive (below_scaled apart))

/-- The digits of a decimal for a number of 32 bits, with whatever sign, lead back to the number. -/
theorem scale?_narrow (moderate : exponent.natAbs ≤ 60) (positive : 0 < significand)
    : ∃ y,
        scale? digits exponent = some y
        ∧ ∀ negative : Bool,
            (if negative then y.neg else y).narrow
            = ⟨UInt32.ofNat (Format.single.withSign negative (scale * 2 ^ 23 + significand))⟩ := by
  obtain ⟨y, result, quotient, read, denotes, rounded, near, exact⟩ := scalesNear few moderate
  -- Scaling has rounded once or twice, but not across the middle of two singles.
  have beside := result_beside suits value_eq inRange narrow normal usual few rounded near exact
  refine ⟨y, read, fun negative => ?_⟩
  obtain ⟨units, measures, units_eq⟩ := denotes
  have low_eq : ((2 * significand - 1 : Nat) : ℚ) = 2 * significand - 1 := by
    rw [Nat.cast_sub (by omega)]
    push_cast
    rfl
  have high_eq : ((2 * significand + 1 : Nat) : ℚ) = 2 * significand + 1 := by push_cast; rfl
  have atLeast : ((2 * significand - 1 : Nat) : ℚ) * 2 ^ scale ≤ x.value * 2 ^ 150 := by
    rw [low_eq]
    exact suits.inside.low_le
  have atMost : x.value * 2 ^ 150 ≤ ((2 * significand + 1 : Nat) : ℚ) * 2 ^ scale := by
    rw [high_eq]
    exact suits.inside.le_high
  have low := (beside (2 * significand - 1) (by omega) (.inl (by omega))).1 atLeast
  have high := (beside (2 * significand + 1) (by omega) (.inr rfl)).2 atMost
  rw [units_eq] at low high
  have low : (2 * significand - 1) * 2 ^ (scale + 924) < units
      ∨ (2 * significand - 1) * 2 ^ (scale + 924) = units ∧ significand % 2 = 0 := by
    exact_mod_cast low
  have high : units < (2 * significand + 1) * 2 ^ (scale + 924)
      ∨ units = (2 * significand + 1) * 2 ^ (scale + 924) ∧ significand % 2 = 0 := by
    exact_mod_cast high
  -- So the units are between both middles, and narrowing rounds them to the number.
  have below : 2 * significand * 2 ^ (scale + 924)
      = (2 * significand - 1) * 2 ^ (scale + 924) + 2 ^ (scale + 924) := by
    rw [← Nat.succ_mul]
    congr 1
    omega
  rw [Nat.succ_mul] at high
  have notLeast : 0 < scale → 2 ^ 23 < significand := by
    simp only [isSpecial, decide_eq_false_iff_not, not_or] at usual
    omega
  exact measures.narrow_eq_ofNat negative narrow inRange notLeast (by omega) (by omega)

end Suiting

/-- The same for the least number of a scale, whose middles are of different scales. -/
theorem scale?_narrow_least {scale digits : Nat} {exponent : Int} {x : Scientific}
    (suits : SuitsLeast scale x) (value_eq : digits * (10 : ℚ) ^ exponent = x.value)
    (inRange : scale < 253) (few : digits < 2 ^ 53) (moderate : exponent.natAbs ≤ 60)
    : ∃ y,
        scale? digits exponent = some y
        ∧ ∀ negative : Bool,
            (if negative then y.neg else y).narrow
            = ⟨UInt32.ofNat (Format.single.withSign negative ((scale + 1) * 2 ^ 23 + 2 ^ 23))⟩ := by
  obtain ⟨y, result, quotient, read, ⟨units, measures, units_eq⟩, rounded, near, -⟩ :=
    scalesNear few moderate
  rw [value_eq] at near
  have low : ((2 ^ 25 - 1 : Nat) : ℚ) * 2 ^ (scale + 924) < result * one := by
    refine lt_result near rounded (by decide) (by omega) (above_scaled ?_)
    have cast_eq : ((2 ^ 25 - 1 : Nat) : ℚ) = 2 ^ 25 - 1 := by norm_num
    rw [cast_eq]
    exact suits.low
  have high : result * one < ((2 ^ 24 + 1 : Nat) : ℚ) * 2 ^ (scale + 1 + 924) := by
    refine result_lt near rounded (by decide) (by omega) (by decide) (below_scaled ?_)
    have cast_eq : ((2 ^ 24 + 1 : Nat) : ℚ) = 2 ^ 24 + 1 := by norm_num
    rw [cast_eq]
    exact suits.high
  rw [units_eq] at low high
  have low : (2 ^ 25 - 1) * 2 ^ (scale + 924) < units := by exact_mod_cast low
  have high : units < (2 ^ 24 + 1) * 2 ^ (scale + 1 + 924) := by exact_mod_cast high
  refine ⟨y, read, fun negative => measures.narrow_eq_least negative inRange ?_ ?_⟩
  · omega
  · rw [Nat.add_right_comm, Nat.pow_succ] at high
    omega

end ImageVerification.Json.Number
