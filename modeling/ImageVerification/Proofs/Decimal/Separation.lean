import ImageVerification.Proofs.Decimal.Bracket

/-! Decimals keep away from the middles between numbers of 32 bits.

Between two neighbours of one scale lies the odd multiple of half their distance. Short decimals,
that is multiples of a power of ten that is not finer than that distance, are either equal to such a
middle or apart from it by more than `2 ^ -27` halves, with a single exception. For each scale a
bracket of the power of ten shows it.
-/

namespace ImageVerification.Decimal

namespace Bracket

/-- Narrows a bracket of `num / den` until the multiples of its sum exceed the limit, or until its
lower end is met.
-/
def search (num den limit : Nat) : Nat → Bracket → Bracket
  | 0, bracket => bracket
  | fuel + 1, bracket =>
      let midNum := bracket.lowNum + bracket.highNum
      let midDen := bracket.lowDen + bracket.highDen
      if bracket.lowNum * den = bracket.lowDen * num ∨ limit * den ≤ midDen * num then bracket
      else if midNum * den ≤ midDen * num then
        search num den limit fuel { bracket with lowNum := midNum, lowDen := midDen }
      else search num den limit fuel { bracket with highNum := midNum, highDen := midDen }

end Bracket

/-- The least power of ten that is not finer than the distance of the numbers of a scale. -/
def gridExponent (scale : Nat) : Int := -((149 - scale) * 30103 / 100000)

/-- That power over half of the distance, as a fraction. -/
def gridNum (scale : Nat) : Nat := 10 ^ (gridExponent scale).toNat * 2 ^ (150 - scale)

def gridDen (scale : Nat) : Nat := 10 ^ (-gridExponent scale).toNat * 2 ^ (scale - 150)

def bracketOf (scale : Nat) : Bracket :=
  .search (gridNum scale) (gridDen scale) (2 ^ 25 + 1) 1400
    { lowNum := 0, lowDen := 1, highNum := 1, highDen := 0 }

/-- The middle between `11420669` and `11420670` of scale 42, to which a short decimal comes closer
than two roundings keep apart.
-/
def isCritical (scale whole : Nat) : Bool := scale = 42 ∧ whole = 22841339

/-- Whether the multiples of a neighbour are far from the odd numbers of 25 bits: either all of them
are, or the first of them is the only one that counts.
-/
def isHarmless (scale whole gap : Nat) : Bool :=
  gridDen scale ≤ 2 ^ 27 * gap
    ∨ 2 ^ 25 ≤ 3 * whole ∧ (0 < scale ∧ whole < 2 ^ 24 ∨ isCritical scale whole)

/-- Whether the lower end of a bracket is the power of ten itself. -/
def meets (scale : Nat) (bracket : Bracket) : Bool :=
  bracket.lowNum * gridDen scale = bracket.lowDen * gridNum scale
    ∧ 0 < bracket.lowDen ∧ bracket.lowDen ≤ 2 ^ 27
    ∧ (150 < scale ∨ bracket.lowNum % 2 = 0 ∧ bracket.lowDen % 2 = 1)

/-- Whether the ends of a bracket show the multiples of the power of ten to be far from the odd
numbers of 25 bits.
-/
def encloses (scale : Nat) (bracket : Bracket) : Bool :=
  let lowGap := bracket.lowGap (gridNum scale) (gridDen scale)
  let highGap := bracket.highGap (gridNum scale) (gridDen scale)
  bracket.Around (gridNum scale) (gridDen scale)
    ∧ (2 ^ 25 + 1) * gridDen scale ≤ (bracket.lowDen + bracket.highDen) * gridNum scale
    ∧ gridDen scale ≤ 2 ^ 27 * (lowGap + highGap)
    ∧ isHarmless scale bracket.lowNum lowGap ∧ isHarmless scale bracket.highNum highGap

/-- At every scale the chosen fractions meet the grid exactly or enclose it. -/
theorem meets_or_encloses
    : ∀ scale < 254, meets scale (bracketOf scale) || encloses scale (bracketOf scale) := by
  decide +kernel

section Whole

variable {scale count whole : Nat} {bracket : Bracket}

/-- Where they meet it, an odd half step is on the grid or far away from it. -/
theorem equal_or_far_of_meets (met : meets scale bracket = true) (odd : whole % 2 = 1)
    : count * gridNum scale = whole * gridDen scale ∧ 150 < scale
      ∨ gridDen scale ≤ 2 ^ 27 * Bracket.distance (gridNum scale) (gridDen scale) count whole := by
  simp only [meets, decide_eq_true_eq] at met
  obtain ⟨same, positive, small, parity⟩ := met
  have same : (bracket.lowNum * gridDen scale : Int) = bracket.lowDen * gridNum scale := by
    exact_mod_cast same
  -- The grid is the low fraction itself, so distances are whole multiples of one unit.
  have scaled
      : (bracket.lowDen : Int) * (count * gridNum scale - whole * gridDen scale)
        = gridDen scale * (count * bracket.lowNum - whole * bracket.lowDen) := by
    linear_combination (-(count : Int)) * same
  -- If the distance is zero, the half step is on the grid; otherwise it is one at least.
  by_cases multiple : count * bracket.lowNum = whole * bracket.lowDen
  · left
    have zero : (count * bracket.lowNum - whole * bracket.lowDen : Int) = 0 := by
      rw [sub_eq_zero]
      exact_mod_cast multiple
    rw [zero, mul_zero] at scaled
    have equal := (mul_eq_zero.mp scaled).resolve_left (by exact_mod_cast positive.ne')
    refine ⟨by exact_mod_cast sub_eq_zero.mp equal, ?_⟩
    -- An even number cannot be an odd one, unless the scale is high.
    rcases parity with above | ⟨even, oddDen⟩
    · exact above
    · have left_even : count * bracket.lowNum % 2 = 0 := by rw [Nat.mul_mod, even, Nat.mul_zero]
      have right_odd : whole * bracket.lowDen % 2 = 1 := by rw [Nat.mul_mod, odd, oddDen]
      rw [multiple] at left_even
      omega
  · right
    have apart : (1 : Int) ≤ |(count * bracket.lowNum : Int) - whole * bracket.lowDen| := by
      refine Int.one_le_abs (sub_ne_zero.mpr ?_)
      exact_mod_cast multiple
    have den_nonneg : (0 : Int) ≤ gridDen scale := Int.natCast_nonneg _
    have absolute := congrArg abs scaled
    rw [abs_mul, abs_mul, Nat.abs_cast, Nat.abs_cast] at absolute
    calc
      (gridDen scale : Int)
        ≤ gridDen scale * |(count * bracket.lowNum : Int) - whole * bracket.lowDen| :=
          le_mul_of_one_le_right den_nonneg apart
      _ = bracket.lowDen * |(count * gridNum scale : Int) - whole * gridDen scale| :=
          absolute.symm
      _ ≤ 2 ^ 27 * |(count * gridNum scale : Int) - whole * gridDen scale| :=
          mul_le_mul_of_nonneg_right (by exact_mod_cast small) (abs_nonneg _)

/-- What is left of a neighbour that is near an odd number of 25 bits is that number itself. -/
theorem far_of_isHarmless {times near gap : Nat} (harmless : isHarmless scale near gap = true)
    (whole_eq : whole = times * near) (odd : whole % 2 = 1) (narrow : whole < 2 ^ 25)
    (normal : 0 < scale → 2 ^ 24 ≤ whole) (uncritical : isCritical scale whole = false)
    : gridDen scale ≤ 2 ^ 27 * (times * gap) := by
  have positive : 0 < times := by
    rw [Nat.pos_iff_ne_zero]
    rintro rfl
    omega
  simp only [isHarmless, decide_eq_true_eq] at harmless
  rcases harmless with wide | ⟨single, outside⟩
  · exact wide.trans (Nat.mul_le_mul_left _ (Nat.le_mul_of_pos_left gap positive))
  · have few : times < 3 := by
      by_contra many
      have := Nat.mul_le_mul_right near (not_lt.mp many)
      omega
    have once : times = 1 := by
      by_contra other
      have twice : times = 2 := by omega
      rw [twice] at whole_eq
      omega
    rw [once, Nat.one_mul] at whole_eq
    rcases outside with ⟨above, below⟩ | critical
    · have := normal above
      omega
    · rw [← whole_eq, uncritical] at critical
      cases critical

/-- Where they enclose it, an odd half step is far away from it. Witness: a near one would be a
multiple of one of the two fractions.
-/
theorem far_of_encloses (enclosed : encloses scale bracket = true) (positive : 0 < count)
    (odd : whole % 2 = 1) (narrow : whole < 2 ^ 25) (normal : 0 < scale → 2 ^ 24 ≤ whole)
    (uncritical : isCritical scale whole = false)
    : gridDen scale ≤ 2 ^ 27 * Bracket.distance (gridNum scale) (gridDen scale) count whole := by
  simp only [encloses, decide_eq_true_eq] at enclosed
  obtain ⟨around, sum_le, gaps, lowHarmless, highHarmless⟩ := enclosed
  rcases around.near_cases positive whole with
    ⟨times, rfl, whole_eq⟩ | ⟨times, rfl, whole_eq⟩ | beyond | apart
  · have far := far_of_isHarmless lowHarmless whole_eq odd narrow normal uncritical
    rw [whole_eq, Bracket.distance_mul, around.distance_low]
    exact_mod_cast far
  · have far := far_of_isHarmless highHarmless whole_eq odd narrow normal uncritical
    rw [whole_eq, Bracket.distance_mul, around.distance_high]
    exact_mod_cast far
  · -- The multiple itself is greater than all numbers of 25 bits.
    have above := sum_le.trans (Nat.mul_le_mul_right (gridNum scale) beyond)
    have below := Nat.mul_le_mul_right (gridDen scale) narrow
    rw [Nat.add_mul] at above
    rw [Nat.succ_mul] at below
    have excess : (gridDen scale : Int) ≤ count * gridNum scale - whole * gridDen scale := by
      have : gridDen scale + whole * gridDen scale ≤ count * gridNum scale := by omega
      rw [le_sub_iff_add_le]
      exact_mod_cast this
    have := excess.trans (le_abs_self _)
    rw [Bracket.distance]
    omega
  · refine le_trans ?_ (mul_le_mul_of_nonneg_left apart (by norm_num))
    exact_mod_cast gaps

/-- A multiple of the power of ten of a scale is far from every odd multiple of half the distance of
its numbers, or equal to it. The latter takes a scale where halves are whole numbers.
-/
theorem equal_or_far (inRange : scale < 254) (positive : 0 < count) (odd : whole % 2 = 1)
    (narrow : whole < 2 ^ 25) (normal : 0 < scale → 2 ^ 24 ≤ whole)
    (uncritical : isCritical scale whole = false)
    : count * gridNum scale = whole * gridDen scale ∧ 150 < scale
      ∨ gridDen scale ≤ 2 ^ 27 * Bracket.distance (gridNum scale) (gridDen scale) count whole := by
  rcases Bool.or_eq_true_iff.mp (meets_or_encloses scale inRange) with met | enclosed
  · exact equal_or_far_of_meets met odd
  · exact .inr (far_of_encloses enclosed positive odd narrow normal uncritical)

end Whole

end ImageVerification.Decimal
