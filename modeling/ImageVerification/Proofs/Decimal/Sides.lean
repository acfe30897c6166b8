import ImageVerification.Proofs.Decimal.Separation
import ImageVerification.Proofs.Decimal.Single

/-! A decimal for a number of 32 bits is well inside the interval of the number, or exactly at an
end that belongs to it.
-/

namespace ImageVerification.Decimal

variable {scale : Nat}

theorem gridDen_pos (scale : Nat) : 0 < gridDen scale :=
  Nat.mul_pos (Nat.pow_pos (by decide)) (Nat.two_pow_pos _)

theorem gridExponent_eq (scale : Nat)
    : (10 : ℚ) ^ gridExponent scale * 2 ^ 150 * gridDen scale = gridNum scale * 2 ^ scale := by
  have tens := Interval.pow_toNat_eq (gridExponent scale)
  have twos : (2 : ℚ) ^ 150 * 2 ^ (scale - 150) = 2 ^ (150 - scale) * 2 ^ scale := by
    have : 150 + (scale - 150) = 150 - scale + scale := by omega
    rw [← pow_add, ← pow_add, this]
  rw [Nat.pow_eq, Nat.pow_eq] at tens
  rw [gridDen, gridNum, Nat.cast_mul, Nat.cast_mul, tens]
  push_cast
  linear_combination
    (10 : ℚ) ^ gridExponent scale * 10 ^ (-gridExponent scale).toNat * twos

/-- Finer powers of ten are finer than the distance of the numbers of a scale by a margin. -/
theorem gridNum_le
    : ∀ scale < 254,
        2 ^ 27 * gridNum scale + 20 * gridDen scale ≤ 20 * 2 ^ 27 * gridDen scale := by
  decide +kernel

theorem pow_le_of_lt_gridExponent {exponent : Int} (inRange : scale < 254)
    (fine : exponent < gridExponent scale)
    : (10 : ℚ) ^ exponent * 2 ^ 149 ≤ 2 ^ scale - 2 ^ scale / 2 ^ 27 := by
  have den_pos : (0 : ℚ) < gridDen scale := by exact_mod_cast gridDen_pos scale
  have unit_pos : (0 : ℚ) < 2 ^ scale := by positivity
  have finer : (10 : ℚ) ^ exponent ≤ 10 ^ gridExponent scale / 10 := by
    rw [div_eq_mul_inv, ← zpow_sub_one₀ (by norm_num)]
    exact zpow_le_zpow_right₀ (by norm_num) (by omega)
  have margin
      : (2 : ℚ) ^ 27 * gridNum scale + 20 * gridDen scale ≤ 20 * 2 ^ 27 * gridDen scale := by
    exact_mod_cast gridNum_le scale inRange
  have power_eq
      : (10 : ℚ) ^ gridExponent scale * 2 ^ 150 = gridNum scale / gridDen scale * 2 ^ scale := by
    rw [div_mul_eq_mul_div, eq_div_iff den_pos.ne']
    exact gridExponent_eq scale
  have ratio_le : (gridNum scale : ℚ) / gridDen scale ≤ 20 * (2 ^ 27 - 1) / 2 ^ 27 := by
    rw [div_le_div_iff₀ den_pos (by norm_num)]
    linarith
  have := mul_le_mul_of_nonneg_right ratio_le unit_pos.le
  linarith

/-- A multiple of a coarse power of ten is not near an odd multiple of half the distance of the
numbers of a scale, unless it is equal to it.
-/
theorem value_equal_or_far {x : Scientific} {whole : Nat} (inRange : scale < 254)
    (coarse : gridExponent scale ≤ x.exponent) (positive : 0 < x.significand)
    (odd : whole % 2 = 1) (narrow : whole < 2 ^ 25) (normal : 0 < scale → 2 ^ 24 ≤ whole)
    (uncritical : isCritical scale whole = false)
    : x.value * 2 ^ 150 = whole * 2 ^ scale ∧ 150 < scale
      ∨ 2 ^ scale / 2 ^ 27 ≤ |x.value * 2 ^ 150 - whole * 2 ^ scale| := by
  have den_pos : (0 : ℚ) < gridDen scale := by exact_mod_cast gridDen_pos scale
  have unit_pos : (0 : ℚ) < 2 ^ scale := by positivity
  obtain ⟨more, exponent_eq⟩ := Int.le.dest coarse
  -- The decimal in steps of the grid of its scale.
  let count := x.significand * 10 ^ more
  have count_pos : 0 < count := Nat.mul_pos positive (Nat.pow_pos (by decide))
  have value_eq : x.value * 2 ^ 150 * gridDen scale = count * gridNum scale * 2 ^ scale := by
    rw [Scientific.value, ← exponent_eq, zpow_add₀ (by norm_num), zpow_natCast, Nat.cast_mul,
      Nat.cast_pow]
    linear_combination x.significand * (10 : ℚ) ^ more * gridExponent_eq scale
  rcases equal_or_far inRange count_pos odd narrow normal uncritical with ⟨same, above⟩ | far
  · left
    refine ⟨mul_right_cancel₀ den_pos.ne' ?_, above⟩
    have same : (count : ℚ) * gridNum scale = whole * gridDen scale := by exact_mod_cast same
    rw [value_eq, same]
    ring
  · right
    have far
        : (gridDen scale : ℚ) ≤ 2 ^ 27 * |(count * gridNum scale : ℚ) - whole * gridDen scale| := by
      have := (Int.cast_le (R := ℚ)).mpr far
      rw [Bracket.distance] at this
      push_cast at this
      exact this
    have scaled
        : (x.value * 2 ^ 150 - whole * 2 ^ scale) * gridDen scale
          = (count * gridNum scale - whole * gridDen scale) * 2 ^ scale := by
      rw [sub_mul, value_eq]
      ring
    have absolute := congrArg abs scaled
    rw [abs_mul, abs_mul, abs_of_pos den_pos, abs_of_pos unit_pos] at absolute
    refine le_of_mul_le_mul_right ?_ den_pos
    rw [absolute]
    have := mul_le_mul_of_nonneg_right far unit_pos.le
    linarith

/-- Numbers of 32 bits that the decimals taken for them are read back as for a reason other than the
general one: at the least significand of a scale the neighbour below is closer, and the critical
middle lies between two of them.
-/
def isSpecial (significand scale : Nat) : Bool :=
  0 < scale ∧ significand = 2 ^ 23
    ∨ isCritical scale (2 * significand - 1) ∨ isCritical scale (2 * significand + 1)

namespace Suits

variable {significand : Nat} {x : Scientific} (suits : Suits significand scale x)
  (inRange : scale < 254) (narrow : significand < 2 ^ 24)
  (normal : 0 < scale → 2 ^ 23 ≤ significand) (usual : isSpecial significand scale = false)

include suits inRange narrow normal usual

/-- A decimal is not near the middles next to its number, unless one belongs to the number and is
what the decimal stands for.
-/
theorem beside {whole : Nat}
    (adjacent : whole + 1 = 2 * significand ∨ whole = 2 * significand + 1)
    : x.value * 2 ^ 150 = whole * 2 ^ scale ∧ significand % 2 = 0 ∧ 150 < scale
      ∨ 2 ^ scale / 2 ^ 27 ≤ |x.value * 2 ^ 150 - whole * 2 ^ scale| := by
  have unit_pos : (0 : ℚ) < 2 ^ scale := by positivity
  have offset : (whole : ℚ) + 1 = 2 * significand ∨ (whole : ℚ) = 2 * significand + 1 :=
    adjacent.imp (fun below => by exact_mod_cast below) (fun above => by exact_mod_cast above)
  -- On a fine grid the digits are so near their number that they are far from the middles; on a
  -- coarse one the decimal is on the grid, which is known to be far from them.
  rcases lt_or_ge x.exponent (gridExponent scale) with fine | coarse
  · right
    obtain ⟨low, high⟩ := abs_le.mp suits.near
    have := pow_le_of_lt_gridExponent inRange fine
    rw [le_abs]
    rcases offset with below | above
    · left
      rw [← below] at low
      linarith
    · right
      rw [above]
      linarith
  · simp only [isSpecial, decide_eq_false_iff_not, not_or] at usual
    obtain ⟨notLeast, uncritical, uncriticalToo⟩ := usual
    have uncritical : isCritical scale whole = false := by
      rcases adjacent with below | rfl
      · have : whole = 2 * significand - 1 := by omega
        rw [this]
        simpa using uncritical
      · simpa using uncriticalToo
    refine (value_equal_or_far inRange coarse suits.positive (by omega) (by omega) (by omega)
      uncritical).imp_left ?_
    rintro ⟨same, above⟩
    refine ⟨same, ?_, above⟩
    -- The end of an interval is inside only if the number is even.
    rcases suits.inside with ⟨even, -, -⟩ | ⟨low, high⟩
    · exact even
    · rw [same] at low high
      rcases offset with below | above
      · rw [← below] at low
        linarith
      · rw [above] at high
        linarith

end Suits

/-- Whether a decimal for the least number of the next scale is well inside the interval of that
number, of which the lower half is only half as wide.
-/
def isClear (scale : Nat) (x : Scientific) : Bool :=
  let num := x.significand * 10 ^ x.exponent.toNat * 2 ^ 150
  let den := 10 ^ (-x.exponent).toNat * 2 ^ scale
  0 < x.significand ∧ x.significand < 2 ^ 53 ∧ -53 ≤ x.exponent ∧ x.exponent ≤ 38
    ∧ 2 ^ 52 * den + den ≤ 2 ^ 27 * (num + den)
    ∧ 2 ^ 27 * num + 2 * den ≤ 2 ^ 28 * (2 ^ 24 + 1) * den

theorem isClear_shortest
    : ∀ scale < 253, isClear scale (shortest Binary.Format.single (2 ^ 23) (scale + 1)) = true := by
  decide +kernel

/-- What is known of a decimal for the least number of a scale that is not the first. -/
structure SuitsLeast (scale : Nat) (x : Scientific) : Prop extends x.Moderate where
  low : (2 ^ 25 - 1) * 2 ^ scale + 2 ^ scale / 2 ^ 27 ≤ x.value * 2 ^ 150
  high : x.value * 2 ^ 150 + 2 ^ (scale + 1) / 2 ^ 27 ≤ (2 ^ 24 + 1) * 2 ^ (scale + 1)

theorem suitsLeast_shortest (inRange : scale < 253)
    : SuitsLeast scale (shortest Binary.Format.single (2 ^ 23) (scale + 1)) := by
  have clear := isClear_shortest scale inRange
  generalize shortest Binary.Format.single (2 ^ 23) (scale + 1) = x at clear
  simp only [isClear, decide_eq_true_eq] at clear
  obtain ⟨positive, few, le_exponent, exponent_le, low, high⟩ := clear
  have unit_pos : (0 : ℚ) < 2 ^ scale := by positivity
  have scale_pos := Interval.pow_neg_toNat_pos x.exponent
  have tens := Interval.pow_toNat_eq x.exponent
  rw [Nat.pow_eq] at scale_pos
  rw [Nat.pow_eq, Nat.pow_eq] at tens
  -- The check was made in whole numbers; one of the two powers is one.
  generalize 10 ^ x.exponent.toNat = up at low high tens
  generalize 10 ^ (-x.exponent).toNat = down at low high tens scale_pos
  have scaled : (x.significand : ℚ) * up * 2 ^ 150 = x.value * 2 ^ 150 * down := by
    rw [tens, Scientific.value]
    ring
  have low
      : 2 ^ 52 * (down * 2 ^ scale) + down * 2 ^ scale
        ≤ 2 ^ 27 * (x.value * 2 ^ 150 * down + down * 2 ^ scale) := by
    rw [← scaled]
    exact_mod_cast low
  have high
      : 2 ^ 27 * (x.value * 2 ^ 150 * down) + 2 * (down * 2 ^ scale)
        ≤ 2 ^ 28 * (2 ^ 24 + 1) * (down * 2 ^ scale) := by
    rw [← scaled]
    exact_mod_cast high
  refine ⟨⟨positive, few, le_exponent, exponent_le⟩, ?_, ?_⟩
  · exact le_of_mul_le_mul_right (by linarith) scale_pos
  · rw [pow_succ (2 : ℚ) scale]
    exact le_of_mul_le_mul_right (by linarith) scale_pos

end ImageVerification.Decimal
