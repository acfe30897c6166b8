import ImageVerification.Binary.Format
import Mathlib.Tactic.Ring
import Mathlib.Tactic.Linarith

/-! Rounding keeps to the numbers that a format has: it goes past none of them, and it is off by
half of their distance at most.
-/

namespace ImageVerification.Binary

section Whole

variable {num den n : Nat}

/-- Rounding does not pass a whole number from below. -/
theorem roundHalfEven_le (positive : 0 < den) (atMost : num ≤ n * den)
    : roundHalfEven num den ≤ n := by
  have quotient_le : num / den ≤ n := Nat.div_le_of_le_mul (Nat.mul_comm n den ▸ atMost)
  have split := Nat.div_add_mod num den
  unfold roundHalfEven
  rcases Nat.lt_or_eq_of_le quotient_le with below | same
  · dsimp only
    split_ifs <;> omega
  · have whole : num % den = 0 := by
      rw [same, Nat.mul_comm] at split
      omega
    simp only [whole, same, Nat.mul_zero, if_pos positive, Nat.le_refl]

/-- Nor does it from above. -/
theorem le_roundHalfEven (positive : 0 < den) (atLeast : n * den ≤ num)
    : n ≤ roundHalfEven num den := by
  have le_quotient : n ≤ num / den := (Nat.le_div_iff_mul_le positive).mpr atLeast
  unfold roundHalfEven
  dsimp only
  split_ifs <;> omega

/-- The nearest whole number is off by a half at most. -/
theorem roundHalfEven_near (num : Nat) (positive : 0 < den)
    : 2 * num ≤ (2 * roundHalfEven num den + 1) * den
      ∧ 2 * (roundHalfEven num den * den) ≤ 2 * num + den := by
  have split := Nat.div_add_mod num den
  have rest_lt := Nat.mod_lt num positive
  rw [Nat.mul_comm] at split
  have up : (num / den + 1) * den = num / den * den + den := Nat.succ_mul _ _
  have expand (r : Nat) : (2 * r + 1) * den = 2 * (r * den) + den := by ring
  rw [expand]
  unfold roundHalfEven
  dsimp only
  split_ifs with less more
  · omega
  · omega
  · rcases Nat.mod_two_eq_zero_or_one (num / den) with even | odd
    · rw [even, Nat.add_zero]
      omega
    · rw [odd]
      omega

/-- A whole number is the nearest one of what lies within a half of it; at exactly a half it has to
be even.
-/
theorem roundHalfEven_eq (positive : 0 < den)
    (low : 2 * (n * den) < 2 * num + den ∨ 2 * (n * den) = 2 * num + den ∧ n % 2 = 0)
    (high : 2 * num < 2 * (n * den) + den ∨ 2 * num = 2 * (n * den) + den ∧ n % 2 = 0)
    : roundHalfEven num den = n := by
  have split := Nat.div_add_mod num den
  have rest_lt := Nat.mod_lt num positive
  rw [Nat.mul_comm] at split
  have neighbour : num / den = n ∨ num / den + 1 = n := by
    by_contra apart
    rcases Nat.lt_or_gt_of_ne (fun same => apart (.inl same)) with below | above
    · have far : num / den + 2 ≤ n := by omega
      have := Nat.mul_le_mul_right den far
      rw [Nat.add_mul] at this
      omega
    · have far : n + 1 ≤ num / den := above
      have := Nat.mul_le_mul_right den far
      rw [Nat.add_mul] at this
      omega
  unfold roundHalfEven
  dsimp only
  rcases neighbour with same | next
  · rw [same] at split ⊢
    split_ifs <;> omega
  · have : n * den = num / den * den + den := by rw [← next, Nat.succ_mul]
    split_ifs <;> omega

end Whole

namespace Format

variable {format : Format} {num den significand scale : Nat}

/-- The least positive numbers that make up a pattern without a sign. -/
def magnitude (format : Format) (bits : Nat) : Nat :=
  if bits < 2 ^ format.fraction then bits
  else (2 ^ format.fraction + bits % 2 ^ format.fraction) * 2 ^ (bits / 2 ^ format.fraction - 1)

/-- A significand that is as wide as it may be belongs to the next scale. -/
theorem magnitude_add (wide : significand ≤ 2 ^ (format.fraction + 1))
    (normal : 0 < scale → 2 ^ format.fraction ≤ significand)
    : format.magnitude (scale * 2 ^ format.fraction + significand) = significand * 2 ^ scale := by
  have positive : 0 < 2 ^ format.fraction := Nat.two_pow_pos _
  rw [Nat.pow_succ] at wide
  unfold magnitude
  rcases Nat.lt_or_ge significand (2 ^ format.fraction) with subnormal | normal
  · obtain rfl : scale = 0 := by
      by_contra other
      exact absurd (normal (Nat.pos_of_ne_zero other)) (Nat.not_le.mpr subnormal)
    rw [Nat.zero_mul, Nat.zero_add, if_pos subnormal, Nat.pow_zero, Nat.mul_one]
  · rw [if_neg (by omega)]
    rcases Nat.lt_or_eq_of_le wide with narrow | full
    · obtain ⟨low, rfl⟩ := Nat.exists_eq_add_of_le normal
      have low_lt : low < 2 ^ format.fraction := by omega
      have regroup : scale * 2 ^ format.fraction + (2 ^ format.fraction + low)
          = low + (scale + 1) * 2 ^ format.fraction := by ring
      rw [regroup, Nat.add_mul_mod_self_right, Nat.add_mul_div_right _ _ positive,
        Nat.mod_eq_of_lt low_lt, Nat.div_eq_of_lt low_lt, Nat.zero_add, Nat.add_sub_cancel]
    · have regroup : scale * 2 ^ format.fraction + significand
          = (scale + 2) * 2 ^ format.fraction := by rw [full]; ring
      rw [regroup, Nat.mul_mod_left, Nat.mul_div_cancel _ positive, full]
      simp only [Nat.add_zero, Nat.add_one_sub_one, Nat.pow_succ]
      ring

/-- A significand that is not wider than it may be ends before the next scale but one. -/
theorem add_significand_le (scale : Nat) (wide : significand ≤ 2 ^ (format.fraction + 1))
    : scale * 2 ^ format.fraction + significand ≤ (scale + 2) * 2 ^ format.fraction := by
  rw [Nat.pow_succ] at wide
  rw [Nat.add_mul]
  omega

theorem add_significand_le_infinityBits (inRange : scale + 2 < 2 ^ format.exponents)
    (wide : significand ≤ 2 ^ (format.fraction + 1))
    : scale * 2 ^ format.fraction + significand ≤ format.infinityBits :=
  (add_significand_le scale wide).trans (Nat.mul_le_mul_right _ (Nat.le_pred_of_lt inRange))

/-- The scale at which a quotient is rounded. -/
def scaleOf (format : Format) (num den : Nat) : Nat := (num / den).log2 - format.fraction

/-- The scale is large enough for the number to fit into the significand. -/
theorem lt_of_scaleOf (positive : 0 < den)
    : num < 2 ^ (format.fraction + 1) * (den * 2 ^ format.scaleOf num den) := by
  have bound : num / den < 2 ^ (format.fraction + 1 + format.scaleOf num den) := by
    have least : (num / den).log2 + 1 ≤ format.fraction + 1 + format.scaleOf num den := by
      unfold scaleOf
      omega
    exact Nat.lt_of_lt_of_le Nat.lt_log2_self (Nat.pow_le_pow_right (by decide) least)
  have := (Nat.div_lt_iff_lt_mul positive).mp bound
  rw [Nat.pow_add] at this
  calc
    num < 2 ^ (format.fraction + 1) * 2 ^ format.scaleOf num den * den := this
    _ = 2 ^ (format.fraction + 1) * (den * 2 ^ format.scaleOf num den) := by ring

theorem roundHalfEven_scaleOf_le (format : Format) (num : Nat) (positive : 0 < den)
    : roundHalfEven num (den * 2 ^ format.scaleOf num den) ≤ 2 ^ (format.fraction + 1) :=
  roundHalfEven_le (Nat.mul_pos positive (Nat.two_pow_pos _))
    (Nat.le_of_lt (format.lt_of_scaleOf positive))

/-- No scale but zero is larger than it has to be. -/
theorem le_of_scaleOf_pos (positive : 0 < den) (scaled : 0 < format.scaleOf num den)
    : 2 ^ format.fraction * (den * 2 ^ format.scaleOf num den) ≤ num := by
  have exponent_eq : format.fraction + format.scaleOf num den = (num / den).log2 := by
    unfold scaleOf at scaled ⊢
    omega
  have nonzero : num / den ≠ 0 := by
    intro zero
    simp [scaleOf, zero] at scaled
  have bound : 2 ^ (format.fraction + format.scaleOf num den) ≤ num / den :=
    exponent_eq ▸ Nat.log2_self_le nonzero
  have := (Nat.le_div_iff_mul_le positive).mp bound
  rw [Nat.pow_add] at this
  calc
    2 ^ format.fraction * (den * 2 ^ format.scaleOf num den)
      = 2 ^ format.fraction * 2 ^ format.scaleOf num den * den := by ring
    _ ≤ num := this

/-- A small number has a small scale. -/
theorem scaleOf_lt {limit : Nat} (positive : 0 < den) (nonzero : 0 < limit)
    (small : num < 2 ^ (format.fraction + limit) * den)
    : format.scaleOf num den < limit := by
  unfold scaleOf
  by_cases zero : num / den = 0
  · simp [zero, nonzero]
  · have := (Nat.log2_lt zero).mpr ((Nat.div_lt_iff_lt_mul positive).mpr small)
    omega

/-- Nothing between the least and the greatest significand of a scale is rounded at another. -/
theorem scaleOf_eq (positive : 0 < den)
    (atLeast : 0 < scale → 2 ^ format.fraction * (den * 2 ^ scale) ≤ num)
    (below : num < 2 ^ (format.fraction + 1) * (den * 2 ^ scale))
    : format.scaleOf num den = scale := by
  have upper : num / den < 2 ^ (format.fraction + 1 + scale) := by
    rw [Nat.div_lt_iff_lt_mul positive, Nat.pow_add]
    calc
      num < 2 ^ (format.fraction + 1) * (den * 2 ^ scale) := below
      _ = 2 ^ (format.fraction + 1) * 2 ^ scale * den := by ring
  unfold scaleOf
  rcases Nat.eq_zero_or_pos scale with rfl | scaled
  · by_cases zero : num / den = 0
    · simp [zero]
    · have := (Nat.log2_lt zero).mpr upper
      omega
  · have lower : 2 ^ (format.fraction + scale) ≤ num / den := by
      rw [Nat.le_div_iff_mul_le positive, Nat.pow_add]
      calc
        2 ^ format.fraction * 2 ^ scale * den
          = 2 ^ format.fraction * (den * 2 ^ scale) := by ring
        _ ≤ num := atLeast scaled
    have nonzero : num / den ≠ 0 := by
      intro zero
      have := Nat.two_pow_pos (format.fraction + scale)
      omega
    -- The quotient has as many binary digits as the significand and the scale together.
    have log_eq := (Nat.log2_eq_iff nonzero).mpr ⟨lower, by rwa [Nat.add_right_comm]⟩
    omega

/-- What a quotient is rounded to has the significand nearest to it at its scale. -/
theorem magnitude_roundUnits (positive : 0 < den)
    (inRange : format.scaleOf num den + 3 < 2 ^ format.exponents)
    : format.magnitude (format.roundUnits num den)
      = roundHalfEven num (den * 2 ^ format.scaleOf num den) * 2 ^ format.scaleOf num den := by
  have scaled : 0 < den * 2 ^ format.scaleOf num den := Nat.mul_pos positive (Nat.two_pow_pos _)
  have wide := roundHalfEven_scaleOf_le format num positive
  have normal (above : 0 < format.scaleOf num den) :=
    le_roundHalfEven scaled (format.le_of_scaleOf_pos positive above)
  have rounded : format.roundUnits num den
      = format.scaleOf num den * 2 ^ format.fraction
        + roundHalfEven num (den * 2 ^ format.scaleOf num den) :=
    Nat.min_eq_left (add_significand_le_infinityBits (Nat.lt_of_succ_lt inRange) wide)
  rw [rounded, magnitude_add wide normal]

section Bounds

variable (positive : 0 < den) (inRange : format.scaleOf num den + 3 < 2 ^ format.exponents)

include positive inRange

/-- A number of the format that a quotient does not exceed is not exceeded after rounding. -/
theorem magnitude_roundUnits_le (narrow : significand < 2 ^ (format.fraction + 1))
    (atMost : num ≤ significand * 2 ^ scale * den)
    : format.magnitude (format.roundUnits num den) ≤ significand * 2 ^ scale := by
  have scaled : 0 < den * 2 ^ format.scaleOf num den := Nat.mul_pos positive (Nat.two_pow_pos _)
  rw [magnitude_roundUnits positive inRange]
  rcases Nat.lt_or_ge scale (format.scaleOf num den) with finer | coarser
  · have above := format.le_of_scaleOf_pos positive (Nat.zero_lt_of_lt finer)
    have wider : 2 ^ (scale + 1) ≤ 2 ^ format.scaleOf num den :=
      Nat.pow_le_pow_right (by decide) finer
    -- A coarser scale than that of the bound would need more than the bound to reach its least
    -- significand.
    have : num < num := by
      calc
        num ≤ significand * 2 ^ scale * den := atMost
        _ = significand * (den * 2 ^ scale) := by ring
        _ < 2 ^ (format.fraction + 1) * (den * 2 ^ scale) :=
            Nat.mul_lt_mul_of_pos_right narrow (Nat.mul_pos positive (Nat.two_pow_pos _))
        _ = 2 ^ format.fraction * (den * 2 ^ (scale + 1)) := by ring
        _ ≤ 2 ^ format.fraction * (den * 2 ^ format.scaleOf num den) := by gcongr
        _ ≤ num := above
    exact absurd this (Nat.lt_irrefl num)
  · obtain ⟨more, rfl⟩ := Nat.exists_eq_add_of_le coarser
    have rounded
        : roundHalfEven num (den * 2 ^ format.scaleOf num den) ≤ significand * 2 ^ more := by
      refine roundHalfEven_le scaled (Nat.le_trans atMost (Nat.le_of_eq ?_))
      rw [Nat.pow_add]
      ring
    calc
      _ ≤ significand * 2 ^ more * 2 ^ format.scaleOf num den := Nat.mul_le_mul_right _ rounded
      _ = significand * 2 ^ (format.scaleOf num den + more) := by rw [Nat.pow_add]; ring

/-- A number of the format that a quotient reaches is reached after rounding. -/
theorem le_magnitude_roundUnits (narrow : significand < 2 ^ (format.fraction + 1))
    (atLeast : significand * 2 ^ scale * den ≤ num)
    : significand * 2 ^ scale ≤ format.magnitude (format.roundUnits num den) := by
  have scaled : 0 < den * 2 ^ format.scaleOf num den := Nat.mul_pos positive (Nat.two_pow_pos _)
  rw [magnitude_roundUnits positive inRange]
  rcases Nat.lt_or_ge scale (format.scaleOf num den) with finer | coarser
  · have normal := le_roundHalfEven scaled
      (format.le_of_scaleOf_pos positive (Nat.zero_lt_of_lt finer))
    have wider : 2 ^ (scale + 1) ≤ 2 ^ format.scaleOf num den :=
      Nat.pow_le_pow_right (by decide) finer
    calc
      significand * 2 ^ scale ≤ 2 ^ (format.fraction + 1) * 2 ^ scale :=
        Nat.mul_le_mul_right _ (Nat.le_of_lt narrow)
      _ = 2 ^ format.fraction * 2 ^ (scale + 1) := by ring
      _ ≤ 2 ^ format.fraction * 2 ^ format.scaleOf num den := by gcongr
      _ ≤ _ := Nat.mul_le_mul_right _ normal
  · obtain ⟨more, rfl⟩ := Nat.exists_eq_add_of_le coarser
    have rounded
        : significand * 2 ^ more ≤ roundHalfEven num (den * 2 ^ format.scaleOf num den) := by
      refine le_roundHalfEven scaled (Nat.le_trans (Nat.le_of_eq ?_) atLeast)
      rw [Nat.pow_add]
      ring
    calc
      significand * 2 ^ (format.scaleOf num den + more)
        = significand * 2 ^ more * 2 ^ format.scaleOf num den := by rw [Nat.pow_add]; ring
      _ ≤ _ := Nat.mul_le_mul_right _ rounded

/-- Rounding is off by one part in `2 ^ (fraction + 1)` at most, unless the number is so small that
its significand is not of full width.
-/
theorem magnitude_roundUnits_near (normal : 2 ^ format.fraction * den ≤ num)
    : 2 ^ (format.fraction + 1) * num
        ≤ 2 ^ (format.fraction + 1) * (format.magnitude (format.roundUnits num den) * den) + num
      ∧ 2 ^ (format.fraction + 1) * (format.magnitude (format.roundUnits num den) * den)
        ≤ 2 ^ (format.fraction + 1) * num + num := by
  have scaled : 0 < den * 2 ^ format.scaleOf num den := Nat.mul_pos positive (Nat.two_pow_pos _)
  -- Half a unit of the last place is the error, and the number is at least 2 ^ fraction of them.
  have unit_le : 2 ^ format.fraction * (den * 2 ^ format.scaleOf num den) ≤ num := by
    rcases Nat.eq_zero_or_pos (format.scaleOf num den) with zero | above
    · rwa [zero, Nat.pow_zero, Nat.mul_one]
    · exact format.le_of_scaleOf_pos positive above
  obtain ⟨low, high⟩ := roundHalfEven_near num scaled
  rw [magnitude_roundUnits positive inRange]
  generalize roundHalfEven num (den * 2 ^ format.scaleOf num den) = rounded at low high ⊢
  rw [Nat.mul_assoc rounded, Nat.mul_comm _ den]
  generalize den * 2 ^ format.scaleOf num den = unit at unit_le low high ⊢
  rw [Nat.pow_succ]
  constructor
  · calc
      2 ^ format.fraction * 2 * num = 2 ^ format.fraction * (2 * num) := by ring
      _ ≤ 2 ^ format.fraction * ((2 * rounded + 1) * unit) := Nat.mul_le_mul_left _ low
      _ = 2 ^ format.fraction * 2 * (rounded * unit) + 2 ^ format.fraction * unit := by ring
      _ ≤ _ := Nat.add_le_add_left unit_le _
  · calc
      2 ^ format.fraction * 2 * (rounded * unit)
        = 2 ^ format.fraction * (2 * (rounded * unit)) := by ring
      _ ≤ 2 ^ format.fraction * (2 * num + unit) := Nat.mul_le_mul_left _ high
      _ = 2 ^ format.fraction * 2 * num + 2 ^ format.fraction * unit := by ring
      _ ≤ _ := Nat.add_le_add_left unit_le _

end Bounds

section Nearest

variable (positive : 0 < den) (inRange : scale + 2 < 2 ^ format.exponents)

include positive inRange

/-- What is rounded at a scale has the pattern of the significand that is nearest to it. -/
theorem roundUnits_eq (atLeast : 0 < scale → 2 ^ format.fraction * (den * 2 ^ scale) ≤ num)
    (below : num < 2 ^ (format.fraction + 1) * (den * 2 ^ scale))
    (low : 2 * (significand * (den * 2 ^ scale)) < 2 * num + den * 2 ^ scale
      ∨ 2 * (significand * (den * 2 ^ scale)) = 2 * num + den * 2 ^ scale ∧ significand % 2 = 0)
    (high : 2 * num < 2 * (significand * (den * 2 ^ scale)) + den * 2 ^ scale
      ∨ 2 * num = 2 * (significand * (den * 2 ^ scale)) + den * 2 ^ scale ∧ significand % 2 = 0)
    : format.roundUnits num den = scale * 2 ^ format.fraction + significand := by
  have scaled : 0 < den * 2 ^ scale := Nat.mul_pos positive (Nat.two_pow_pos _)
  have scale_eq : format.scaleOf num den = scale := scaleOf_eq positive atLeast below
  have rounded := roundHalfEven_eq scaled low high
  have wide := roundHalfEven_le scaled (Nat.le_of_lt below)
  rw [rounded] at wide
  calc
    format.roundUnits num den
      = min (format.scaleOf num den * 2 ^ format.fraction
          + roundHalfEven num (den * 2 ^ format.scaleOf num den)) format.infinityBits := rfl
    _ = min (scale * 2 ^ format.fraction + significand) format.infinityBits := by
        rw [scale_eq, rounded]
    _ = scale * 2 ^ format.fraction + significand :=
        Nat.min_eq_left (add_significand_le_infinityBits inRange wide)

/-- Above the least significand of a scale, a pattern is what everything within half of its last
place is rounded to.
-/
theorem roundUnits_of_near (narrow : significand < 2 ^ (format.fraction + 1))
    (normal : 0 < scale → 2 ^ format.fraction < significand)
    (low : 2 * (significand * (den * 2 ^ scale)) < 2 * num + den * 2 ^ scale
      ∨ 2 * (significand * (den * 2 ^ scale)) = 2 * num + den * 2 ^ scale ∧ significand % 2 = 0)
    (high : 2 * num < 2 * (significand * (den * 2 ^ scale)) + den * 2 ^ scale
      ∨ 2 * num = 2 * (significand * (den * 2 ^ scale)) + den * 2 ^ scale ∧ significand % 2 = 0)
    : format.roundUnits num den = scale * 2 ^ format.fraction + significand := by
  have scaled : 0 < den * 2 ^ scale := Nat.mul_pos positive (Nat.two_pow_pos _)
  refine roundUnits_eq positive inRange ?_ ?_ low high
  · intro above
    have := Nat.mul_le_mul_right (den * 2 ^ scale) (normal above)
    rw [Nat.succ_mul] at this
    omega
  · have := Nat.mul_le_mul_right (den * 2 ^ scale) narrow
    rw [Nat.succ_mul] at this
    omega

end Nearest

/-- At the least significand of a scale the numbers below lie closer; what is nearer to it than to
them may be rounded at their scale.
-/
theorem roundUnits_least (positive : 0 < den) (inRange : scale + 3 < 2 ^ format.exponents)
    (low : 2 * (2 ^ (format.fraction + 1) * (den * 2 ^ scale)) < 2 * num + den * 2 ^ scale)
    (high : num < 2 ^ (format.fraction + 1) * (den * 2 ^ scale) + den * 2 ^ scale)
    : format.roundUnits num den = (scale + 1) * 2 ^ format.fraction + 2 ^ format.fraction := by
  have scaled : 0 < den * 2 ^ scale := Nat.mul_pos positive (Nat.two_pow_pos _)
  have width := Nat.two_pow_pos format.fraction
  have unit_le : den * 2 ^ scale ≤ 2 ^ format.fraction * (den * 2 ^ scale) :=
    Nat.le_mul_of_pos_left _ width
  have double : 2 ^ (format.fraction + 1) * (den * 2 ^ scale)
      = 2 * (2 ^ format.fraction * (den * 2 ^ scale)) := by ring
  rcases Nat.lt_or_ge num (2 ^ (format.fraction + 1) * (den * 2 ^ scale)) with finer | coarser
  · have rounded : format.roundUnits num den
        = scale * 2 ^ format.fraction + 2 ^ (format.fraction + 1) :=
      roundUnits_eq positive (by omega) (fun _ => by omega) finer (.inl low) (.inl (by omega))
    rw [rounded]
    ring
  · have wider : den * 2 ^ (scale + 1) = 2 * (den * 2 ^ scale) := by ring
    have once : 2 ^ format.fraction * (2 * (den * 2 ^ scale))
        = 2 ^ (format.fraction + 1) * (den * 2 ^ scale) := by ring
    have twice : 2 ^ (format.fraction + 1) * (2 * (den * 2 ^ scale))
        = 2 * (2 ^ (format.fraction + 1) * (den * 2 ^ scale)) := by ring
    refine roundUnits_eq positive (by omega) ?_ ?_ (.inl ?_) (.inl ?_) <;> rw [wider]
    · intro _
      rwa [once]
    · rw [twice]
      omega
    · rw [once]
      omega
    · rw [once]
      omega

end Format

end ImageVerification.Binary
