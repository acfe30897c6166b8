import ImageVerification.Proofs.Decimal.Shortest

/-! The decimals that are taken for numbers of 32 bits. -/

namespace ImageVerification.Decimal

open Binary

namespace Scientific

/-- The fraction that a decimal stands for. -/
def value (x : Scientific) : ℚ := x.significand * 10 ^ x.exponent

/-- A positive decimal with few digits and a small exponent. -/
structure Moderate (x : Scientific) : Prop where
  positive : 0 < x.significand
  few : x.significand < 2 ^ 53
  le_exponent : -53 ≤ x.exponent
  exponent_le : x.exponent ≤ 38

end Scientific

/-- The interval of a number of 32 bits with neighbours at the same distance on both sides. -/
def Interval.single (significand scale : Nat) : Interval :=
  {
    low := (4 * significand - 2) * 2 ^ scale
    middle := 4 * significand * 2 ^ scale
    high := (4 * significand + 2) * 2 ^ scale
    den := 2 ^ 151
    closed := significand % 2 = 0
  }

open Decimal.Interval (single)

variable {significand scale : Nat}

theorem ofUnits_eq_single (normal : 0 < scale → 2 ^ 23 < significand)
    : Interval.ofUnits Format.single significand scale = single significand scale := by
  have wide : ¬ (significand = Nat.pow 2 Format.single.fraction ∧ 0 < scale) := by
    rintro ⟨least, scaled⟩
    exact absurd least (Nat.ne_of_gt (normal scaled))
  unfold Interval.ofUnits
  simp only [if_neg wide]
  rfl

theorem single_den : ((single significand scale).den : ℚ) = 2 ^ 151 := by
  exact_mod_cast rfl

theorem single_middle
    : ((single significand scale).middle : ℚ) = 2 * (2 * significand * 2 ^ scale) := by
  have : (single significand scale).middle = 2 * (2 * significand * 2 ^ scale) := by
    show 4 * significand * 2 ^ scale = _
    ring
  exact_mod_cast this

theorem single_high
    : ((single significand scale).high : ℚ) = 2 * ((2 * significand + 1) * 2 ^ scale) := by
  have : (single significand scale).high = 2 * ((2 * significand + 1) * 2 ^ scale) := by
    show (4 * significand + 2) * 2 ^ scale = _
    ring
  exact_mod_cast this

theorem single_low (positive : 0 < significand)
    : ((single significand scale).low : ℚ) = 2 * ((2 * significand - 1) * 2 ^ scale) := by
  obtain ⟨before, rfl⟩ := Nat.exists_eq_add_of_lt positive
  have : (single (0 + before + 1) scale).low = 2 * ((2 * before + 1) * 2 ^ scale) := by
    show (4 * (0 + before + 1) - 2) * 2 ^ scale = _
    rw [show 4 * (0 + before + 1) - 2 = 2 * (2 * before + 1) by omega]
    ring
  rw [this]
  push_cast
  ring

theorem single_symmetric (positive : 0 < significand) (scale : Nat)
    : (single significand scale).low + (single significand scale).high
      = 2 * (single significand scale).middle := by
  have : ((single significand scale).low : ℚ) + (single significand scale).high
      = 2 * (single significand scale).middle := by
    rw [single_low positive, single_high, single_middle]
    ring
  exact_mod_cast this

/-- A decimal is not further from a number of 32 bits than half of the distance to the neighbours,
for which `2 ^ scale` stands. It is nearer if the significand is odd.
-/
def IsInside (significand scale : Nat) (x : Scientific) : Prop :=
  significand % 2 = 0
      ∧ (2 * significand - 1) * 2 ^ scale ≤ x.value * 2 ^ 150
      ∧ x.value * 2 ^ 150 ≤ (2 * significand + 1) * 2 ^ scale
    ∨ (2 * significand - 1) * 2 ^ scale < x.value * 2 ^ 150
      ∧ x.value * 2 ^ 150 < (2 * significand + 1) * 2 ^ scale

namespace IsInside

variable {x : Scientific} (inside : IsInside significand scale x)

include inside

theorem low_le : (2 * significand - 1) * 2 ^ scale ≤ x.value * 2 ^ 150 := by
  rcases inside with ⟨-, low, -⟩ | ⟨low, -⟩
  · exact low
  · exact low.le

theorem le_high : x.value * 2 ^ 150 ≤ (2 * significand + 1) * 2 ^ scale := by
  rcases inside with ⟨-, -, high⟩ | ⟨-, high⟩
  · exact high
  · exact high.le

/-- Of nine digits at most, which is far from 53 bits. -/
theorem significand_lt (positive : 0 < significand) {leading : Int} {last : Nat} (few : last ≤ 9)
    (exponent_eq : x.exponent = leading - last + 1)
    (below : 2 * (2 * significand * 2 ^ scale) < (10 : ℚ) ^ (leading + 1) * 2 ^ 151)
    : x.significand < 2 ^ 53 := by
  have unit_pos : (0 : ℚ) < 2 ^ scale := by positivity
  have power_pos : (0 : ℚ) < 10 ^ x.exponent := by positivity
  have power_eq : (10 : ℚ) ^ (leading + 1) = 10 ^ last * 10 ^ x.exponent := by
    rw [exponent_eq, ← zpow_natCast, ← zpow_add₀ (by norm_num)]
    congr 1
    omega
  have power_le : (10 : ℚ) ^ last ≤ 10 ^ 9 := pow_le_pow_right₀ (by norm_num) few
  have significand_ge : (1 : ℚ) ≤ significand := by exact_mod_cast positive
  have unit_le : 1 * (2 : ℚ) ^ scale ≤ significand * 2 ^ scale :=
    mul_le_mul_of_nonneg_right significand_ge unit_pos.le
  have atMost := inside.le_high
  rw [power_eq] at below
  rw [Scientific.value] at atMost
  have : x.significand * (10 : ℚ) ^ x.exponent < 2 * 10 ^ last * 10 ^ x.exponent := by linarith
  have : (x.significand : ℚ) < 2 * 10 ^ last := lt_of_mul_lt_mul_right this power_pos.le
  have : (x.significand : ℚ) < 2 ^ 53 := by linarith
  exact_mod_cast this

end IsInside

/-- What is known of a decimal for a number of 32 bits: it is inside, and not further from the
number than half a place.
-/
structure Suits (significand scale : Nat) (x : Scientific) : Prop extends x.Moderate where
  inside : IsInside significand scale x
  near : |x.value * 2 ^ 150 - 2 * significand * 2 ^ scale| ≤ 10 ^ x.exponent * 2 ^ 149

theorem middle_pos (positive : 0 < significand) (scale : Nat)
    : 0 < (single significand scale).middle :=
  Nat.mul_pos (by omega) (Nat.two_pow_pos _)

/-- Nine digits suffice: their grid is finer than half the distance of the neighbours. -/
theorem gridPoint?_single (positive : 0 < significand) (narrow : significand < 2 ^ 24)
    (scale : Nat)
    : ((single significand scale).gridPoint?
        ((single significand scale).leadingExponent - (9 : Nat) + 1)).isSome = true := by
  have unit_pos : (0 : ℚ) < 2 ^ scale := by positivity
  have den_pos : 0 < (single significand scale).den := Nat.two_pow_pos _
  obtain ⟨atMost, -⟩ := Interval.leadingExponent_spec den_pos (middle_pos positive scale)
  refine Interval.gridPoint?_isSome den_pos ?_ ?_
  · have scaled
        : (10 : ℚ) ^ ((single significand scale).leadingExponent - (9 : Nat) + 1)
          = 10 ^ (single significand scale).leadingExponent / 10 ^ 8 := by
      rw [← zpow_natCast, ← zpow_sub₀ (by norm_num)]
      congr 1
      omega
    rw [single_den, single_middle] at atMost
    rw [scaled, single_den, single_middle, single_low positive]
    have significand_le : (significand : ℚ) < 2 ^ 24 := by exact_mod_cast narrow
    have := mul_lt_mul_of_pos_right significand_le unit_pos
    linarith
  · have : ((single significand scale).middle : ℚ) < (single significand scale).high := by
      rw [single_middle, single_high]
      linarith
    exact_mod_cast this

/-- The first digit of a single stands for a power of ten from -45 to 38. -/
theorem leadingExponent_bounds (positive : 0 < significand) (narrow : significand < 2 ^ 24)
    (inRange : scale < 254)
    : -45 ≤ (single significand scale).leadingExponent
      ∧ (single significand scale).leadingExponent ≤ 38 := by
  obtain ⟨atMost, below⟩ :=
    Interval.leadingExponent_spec (Nat.two_pow_pos _) (middle_pos positive scale)
  generalize (single significand scale).leadingExponent = leading at atMost below
  rw [single_middle, single_den] at atMost below
  constructor
  · by_contra less
    have unit_ge : (1 : ℚ) ≤ 2 ^ scale := one_le_pow₀ (by norm_num)
    have significand_ge : (1 : ℚ) ≤ significand := by exact_mod_cast positive
    have := one_le_mul_of_one_le_of_one_le significand_ge unit_ge
    have tiny : (10 : ℚ) ^ (leading + 1) ≤ 10 ^ (-45 : Int) :=
      zpow_le_zpow_right₀ (by norm_num) (by omega)
    norm_num at tiny
    linarith
  · by_contra more
    have : significand * 2 ^ scale < 2 ^ 24 * 2 ^ 253 :=
      Nat.mul_lt_mul_of_lt_of_le narrow (Nat.pow_le_pow_right (by decide) (by omega))
        (Nat.two_pow_pos _)
    have : (significand : ℚ) * 2 ^ scale < 2 ^ 24 * 2 ^ 253 := by exact_mod_cast this
    have huge : (10 : ℚ) ^ (39 : Int) ≤ 10 ^ leading :=
      zpow_le_zpow_right₀ (by norm_num) (by omega)
    norm_num at huge
    linarith

/-- The shortest digits suit their single. Witness: nine of them do, so the search ends, and what it
ends with is inside and near.
-/
theorem suits_shortest (positive : 0 < significand) (narrow : significand < 2 ^ 24)
    (inRange : scale < 254) (normal : 0 < scale → 2 ^ 23 < significand)
    : Suits significand scale (shortest Format.single significand scale) := by
  have den_pos : 0 < (single significand scale).den := Nat.two_pow_pos _
  obtain ⟨leading_ge, leading_le⟩ := leadingExponent_bounds positive narrow inRange
  obtain ⟨-, below⟩ := Interval.leadingExponent_spec den_pos (middle_pos positive scale)
  have known := gridPoint?_single positive narrow scale
  rw [shortest, ofUnits_eq_single normal]
  generalize (single significand scale).leadingExponent = leading at *
  obtain ⟨last, atLeast, last_le, exponent_eq, found⟩ :=
    Interval.shortestFrom_spec leading known (by decide : 1 ≤ 9) (by decide : 9 < 1 + maxDigits)
  generalize (single significand scale).shortestFrom leading maxDigits 1 = x at exponent_eq found ⊢
  rw [← exponent_eq] at found
  obtain ⟨digits_pos, inside, near⟩ := Interval.gridPoint?_spec den_pos found
  have value_eq : x.significand * (10 : ℚ) ^ x.exponent = x.value := rfl
  have near := near (single_symmetric positive scale)
  rw [value_eq, single_low positive, single_high, single_den] at inside
  rw [value_eq, single_middle, single_den] at near
  rw [single_middle, single_den] at below
  have inside : IsInside significand scale x := by
    refine inside.imp ?_ ?_
    · rintro ⟨even, low, high⟩
      exact ⟨of_decide_eq_true even, by linarith, by linarith⟩
    · rintro ⟨low, high⟩
      exact ⟨by linarith, by linarith⟩
  have doubled
      : x.value * 2 ^ 151 - 2 * (2 * significand * 2 ^ scale)
        = 2 * (x.value * 2 ^ 150 - 2 * significand * 2 ^ scale) := by ring
  rw [doubled, abs_mul, abs_two] at near
  have few := inside.significand_lt positive last_le exponent_eq below
  exact ⟨⟨digits_pos, few, by omega, by omega⟩, inside, by linarith⟩

end ImageVerification.Decimal
