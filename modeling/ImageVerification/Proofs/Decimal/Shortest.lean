import ImageVerification.Decimal.Shortest
import Mathlib.Algebra.Order.Field.Power
import Mathlib.Algebra.Order.Field.Rat
import Mathlib.Tactic.FieldSimp
import Mathlib.Tactic.Linarith
import Mathlib.Tactic.NormNum
import Mathlib.Tactic.Positivity
import Mathlib.Tactic.Ring

/-! The decimal that is taken for a number lies in its interval, and is a nearest one to it on the
first grid that has points there.
-/

namespace ImageVerification.Decimal

namespace Interval

variable {interval : Interval} {digits gridNum gridDen : Nat}

/-- A grid point lies in the interval, its ends included only if it is closed. -/
theorem contains_iff
    : interval.contains digits gridNum gridDen = true
      ↔ (interval.closed = true
            ∧ interval.low * gridDen ≤ digits * (gridNum * interval.den)
            ∧ digits * (gridNum * interval.den) ≤ interval.high * gridDen
          ∨ interval.low * gridDen < digits * (gridNum * interval.den)
            ∧ digits * (gridNum * interval.den) < interval.high * gridDen) := by
  unfold contains
  dsimp only
  rw [Nat.mul_assoc]
  cases interval.closed with
  | true => simp; omega
  | false => simp

/-- The middle lies between two points of the grid, of which the one is chosen that is inside or, if
both are, that is nearer.
-/
theorem nearestPoint?_cases {below gap : Nat}
    (below_eq : interval.middle * gridDen / (gridNum * interval.den) = below)
    (gap_eq : interval.middle * gridDen % (gridNum * interval.den) = gap)
    (found : interval.nearestPoint? gridNum gridDen = some digits)
    : digits = below ∧ 0 < below ∧ interval.contains below gridNum gridDen = true
        ∧ (interval.contains (below + 1) gridNum gridDen = true →
            2 * gap ≤ gridNum * interval.den)
      ∨ digits = below + 1 ∧ interval.contains (below + 1) gridNum gridDen = true
        ∧ (0 < below → interval.contains below gridNum gridDen = true →
            gridNum * interval.den ≤ 2 * gap) := by
  unfold nearestPoint? at found
  dsimp only at found
  rw [below_eq, gap_eq] at found
  cases belowInside : interval.contains below gridNum gridDen && below != 0 with
  | false =>
      have outside (positive : 0 < below) : ¬ interval.contains below gridNum gridDen = true :=
        fun inside => by simp [inside, positive.ne'] at belowInside
      cases aboveInside : interval.contains (below + 1) gridNum gridDen <;>
        simp only [belowInside, aboveInside] at found
      · cases found
      · exact .inr ⟨(Option.some.inj found).symm, rfl,
          fun positive inside => absurd inside (outside positive)⟩
  | true =>
      obtain ⟨inside, nonzero⟩ : interval.contains below gridNum gridDen = true ∧ below ≠ 0 := by
        simpa using belowInside
      have positive := Nat.pos_of_ne_zero nonzero
      cases aboveInside : interval.contains (below + 1) gridNum gridDen <;>
        simp only [belowInside, aboveInside] at found
      · exact .inl ⟨(Option.some.inj found).symm, positive, inside, nofun⟩
      · split at found
        · exact .inl ⟨(Option.some.inj found).symm, positive, inside, fun _ => by omega⟩
        · exact .inr ⟨(Option.some.inj found).symm, rfl, fun _ _ => by omega⟩

/-- A chosen point lies inside, and no other point of the grid is nearer to the middle if the ends
are equally far from it.
-/
theorem nearestPoint?_spec (fine : 0 < gridNum * interval.den)
    (found : interval.nearestPoint? gridNum gridDen = some digits)
    : 0 < digits ∧ interval.contains digits gridNum gridDen = true
      ∧ (interval.low + interval.high = 2 * interval.middle →
          2 * (interval.middle * gridDen)
              ≤ 2 * (digits * (gridNum * interval.den)) + gridNum * interval.den
            ∧ 2 * (digits * (gridNum * interval.den))
              ≤ 2 * (interval.middle * gridDen) + gridNum * interval.den) := by
  have gap_lt := Nat.mod_lt (interval.middle * gridDen) fine
  have split := Nat.div_add_mod (interval.middle * gridDen) (gridNum * interval.den)
  have chosen := nearestPoint?_cases rfl rfl found
  rw [Nat.mul_comm] at split
  generalize interval.middle * gridDen / (gridNum * interval.den) = below at chosen split
  generalize interval.middle * gridDen % (gridNum * interval.den) = gap at chosen split gap_lt
  have next : (below + 1) * (gridNum * interval.den)
      = below * (gridNum * interval.den) + gridNum * interval.den := Nat.succ_mul _ _
  have ends (symmetric : interval.low + interval.high = 2 * interval.middle)
      : interval.low * gridDen + interval.high * gridDen = 2 * (interval.middle * gridDen) := by
    rw [← Nat.add_mul, symmetric, Nat.mul_assoc]
  rcases chosen with ⟨rfl, positive, inside, nearer⟩ | ⟨rfl, inside, nearer⟩
  · refine ⟨positive, inside, fun symmetric => ?_⟩
    have ends := ends symmetric
    rw [contains_iff, next] at nearer
    rw [contains_iff] at inside
    omega
  · -- Next to the point above there may be zero, which is not taken though it may be inside.
    refine ⟨Nat.succ_pos _, inside, fun symmetric => ?_⟩
    have ends := ends symmetric
    rw [contains_iff] at nearer
    rw [contains_iff, next] at inside
    rw [next]
    rcases Nat.eq_zero_or_pos below with rfl | positive
    · omega
    · have nearer := nearer positive
      omega

/-- A grid that is finer than the lower half of an interval has a point inside. -/
theorem nearestPoint?_isSome (fine : 0 < gridNum * interval.den)
    (lowApart : gridNum * interval.den + interval.low * gridDen ≤ interval.middle * gridDen)
    (highApart : interval.middle * gridDen < interval.high * gridDen)
    : (interval.nearestPoint? gridNum gridDen).isSome = true := by
  have gap_lt := Nat.mod_lt (interval.middle * gridDen) fine
  have split := Nat.div_add_mod (interval.middle * gridDen) (gridNum * interval.den)
  rw [Nat.mul_comm] at split
  unfold nearestPoint?
  dsimp only
  generalize interval.middle * gridDen / (gridNum * interval.den) = below at split ⊢
  generalize interval.middle * gridDen % (gridNum * interval.den) = gap at split gap_lt ⊢
  have nonzero : below ≠ 0 := by
    rintro rfl
    omega
  have inside : interval.contains below gridNum gridDen = true := contains_iff.mpr (by omega)
  have chosen : (interval.contains below gridNum gridDen && below != 0) = true := by
    simp [inside, nonzero]
  rw [chosen]
  cases interval.contains (below + 1) gridNum gridDen with
  | true =>
      dsimp only
      split <;> rfl
  | false => rfl

theorem lt_pow_length_toDigits (n : Nat) : n < 10 ^ (Nat.toDigits 10 n).length :=
  (Nat.length_toDigits_le_iff (by decide) Nat.length_toDigits_pos).mp (Nat.le_refl _)

theorem pow_length_toDigits_le {n : Nat} (positive : 0 < n)
    : 10 ^ ((Nat.toDigits 10 n).length - 1) ≤ n := by
  rcases Nat.eq_zero_or_pos ((Nat.toDigits 10 n).length - 1) with zero | more
  · rwa [zero]
  · by_contra less
    have := (Nat.length_toDigits_le_iff (by decide) more).mpr (Nat.lt_of_not_le less)
    omega

/-- The middle has its first digit at the leading exponent. -/
theorem leadingExponent_spec (den_pos : 0 < interval.den) (middle_pos : 0 < interval.middle)
    : (10 : ℚ) ^ interval.leadingExponent * interval.den ≤ interval.middle
      ∧ interval.middle < (10 : ℚ) ^ (interval.leadingExponent + 1) * interval.den := by
  have den_pos' : (0 : ℚ) < interval.den := by exact_mod_cast den_pos
  unfold leadingExponent
  split
  -- From one on the first digit is counted off the whole part.
  case isTrue whole =>
    have quotient_pos : 0 < interval.middle / interval.den := Nat.div_pos whole den_pos
    have length_pos := Nat.length_toDigits_pos (b := 10) (n := interval.middle / interval.den)
    have low := pow_length_toDigits_le quotient_pos
    have high := lt_pow_length_toDigits (interval.middle / interval.den)
    rw [Nat.le_div_iff_mul_le den_pos] at low
    rw [Nat.div_lt_iff_lt_mul den_pos] at high
    obtain ⟨rest, length_eq⟩ := Nat.exists_eq_succ_of_ne_zero length_pos.ne'
    rw [length_eq] at low high ⊢
    have exponent_eq : ((rest.succ : Nat) : Int) - 1 = rest := by omega
    rw [exponent_eq, zpow_natCast]
    constructor
    · exact_mod_cast low
    · exact_mod_cast high
  -- Below one the zeros before it are counted, as the digits of the reciprocal rounded down.
  case isFalse part =>
    have quotient_pos : 0 < (interval.den - 1) / interval.middle :=
      Nat.div_pos (by omega) middle_pos
    have length_pos := Nat.length_toDigits_pos (b := 10) (n := (interval.den - 1) / interval.middle)
    have low := pow_length_toDigits_le quotient_pos
    have high := lt_pow_length_toDigits ((interval.den - 1) / interval.middle)
    rw [Nat.le_div_iff_mul_le middle_pos] at low
    rw [Nat.div_lt_iff_lt_mul middle_pos] at high
    obtain ⟨rest, length_eq⟩ := Nat.exists_eq_succ_of_ne_zero length_pos.ne'
    rw [length_eq] at low high ⊢
    have ten_pos (n : Nat) : (0 : ℚ) < 10 ^ n := by positivity
    have exponent_eq : -((rest.succ : Nat) : Int) + 1 = -(rest : Int) := by omega
    rw [exponent_eq, zpow_neg, zpow_neg, zpow_natCast, zpow_natCast]
    constructor
    · rw [inv_mul_le_iff₀ (ten_pos _)]
      have : interval.den ≤ 10 ^ rest.succ * interval.middle := by omega
      exact_mod_cast this
    · rw [lt_inv_mul_iff₀ (ten_pos _)]
      have : 10 ^ rest * interval.middle < interval.den := by
        rw [Nat.succ_sub_one] at low
        omega
      exact_mod_cast this

/-- The multiple of a power of ten inside that is nearest to the middle. -/
def gridPoint? (interval : Interval) (exponent : Int) : Option Nat :=
  interval.nearestPoint? (Nat.pow 10 exponent.toNat) (Nat.pow 10 (-exponent).toNat)

section Grid

variable {exponent : Int} (den_pos : 0 < interval.den)

theorem pow_toNat_eq (exponent : Int)
    : ((Nat.pow 10 exponent.toNat : Nat) : ℚ)
      = 10 ^ exponent * (Nat.pow 10 (-exponent).toNat : Nat) := by
  rw [Nat.pow_eq, Nat.pow_eq, Nat.cast_pow, Nat.cast_pow, Nat.cast_ofNat, ← zpow_natCast,
    ← zpow_natCast, ← zpow_add₀ (by norm_num)]
  congr 1
  omega

theorem pow_neg_toNat_pos (exponent : Int) : (0 : ℚ) < (Nat.pow 10 (-exponent).toNat : Nat) := by
  exact_mod_cast Nat.pow_pos (by decide)

include den_pos

/-- A grid point that is found is positive and lies in the interval; if the middle is in the middle,
the point is no further from it than half a step of the grid.
-/
theorem gridPoint?_spec (found : interval.gridPoint? exponent = some digits)
    : 0 < digits
      ∧ (interval.closed = true
            ∧ interval.low ≤ digits * (10 : ℚ) ^ exponent * interval.den
            ∧ digits * (10 : ℚ) ^ exponent * interval.den ≤ interval.high
          ∨ interval.low < digits * (10 : ℚ) ^ exponent * interval.den
            ∧ digits * (10 : ℚ) ^ exponent * interval.den < interval.high)
      ∧ (interval.low + interval.high = 2 * interval.middle →
          2 * |digits * (10 : ℚ) ^ exponent * interval.den - interval.middle|
            ≤ 10 ^ exponent * interval.den) := by
  have fine : 0 < Nat.pow 10 exponent.toNat * interval.den :=
    Nat.mul_pos (Nat.pow_pos (by decide)) den_pos
  obtain ⟨positive, inside, near⟩ := nearestPoint?_spec fine found
  have scale_pos := pow_neg_toNat_pos exponent
  have num_eq := pow_toNat_eq exponent
  rw [contains_iff] at inside
  generalize Nat.pow 10 exponent.toNat = num at inside near num_eq
  generalize Nat.pow 10 (-exponent).toNat = den at inside near num_eq scale_pos
  -- Everything is scaled by the same power of ten, which is divided out at the end.
  have point_eq
      : ((digits * (num * interval.den) : Nat) : ℚ)
        = digits * (10 : ℚ) ^ exponent * interval.den * den := by
    rw [Nat.cast_mul, Nat.cast_mul, num_eq]
    ring
  have step_eq : ((num * interval.den : Nat) : ℚ) = 10 ^ exponent * interval.den * den := by
    rw [Nat.cast_mul, num_eq]
    ring
  refine ⟨positive, ?_, ?_⟩
  · rcases inside with ⟨closed, low, high⟩ | ⟨low, high⟩
    · left
      rw [← Nat.cast_le (α := ℚ), point_eq, Nat.cast_mul] at low high
      exact ⟨closed, le_of_mul_le_mul_right low scale_pos, le_of_mul_le_mul_right high scale_pos⟩
    · right
      rw [← Nat.cast_lt (α := ℚ), point_eq, Nat.cast_mul] at low high
      exact ⟨lt_of_mul_lt_mul_right low scale_pos.le, lt_of_mul_lt_mul_right high scale_pos.le⟩
  · intro symmetric
    obtain ⟨low, high⟩ := near symmetric
    rw [← Nat.cast_le (α := ℚ), Nat.cast_add, Nat.cast_mul 2, Nat.cast_mul 2, point_eq, step_eq,
      Nat.cast_mul, Nat.cast_ofNat] at low high
    generalize digits * (10 : ℚ) ^ exponent * interval.den = point at low high ⊢
    generalize 10 ^ exponent * (interval.den : ℚ) = step at low high ⊢
    have low : 2 * interval.middle ≤ 2 * point + step :=
      le_of_mul_le_mul_right (by linarith) scale_pos
    have high : 2 * point ≤ 2 * interval.middle + step :=
      le_of_mul_le_mul_right (by linarith) scale_pos
    rw [← le_div_iff₀' two_pos, abs_le]
    constructor <;> linarith

/-- A grid no coarser than the lower half of the interval has a point in it. -/
theorem gridPoint?_isSome
    (lowApart : 10 ^ exponent * (interval.den : ℚ) + interval.low ≤ interval.middle)
    (highApart : interval.middle < interval.high)
    : (interval.gridPoint? exponent).isSome = true := by
  have fine : 0 < Nat.pow 10 exponent.toNat * interval.den :=
    Nat.mul_pos (Nat.pow_pos (by decide)) den_pos
  have scale_pos := pow_neg_toNat_pos exponent
  have num_eq := pow_toNat_eq exponent
  unfold gridPoint?
  generalize Nat.pow 10 exponent.toNat = num at fine num_eq ⊢
  generalize Nat.pow 10 (-exponent).toNat = den at num_eq scale_pos ⊢
  refine nearestPoint?_isSome fine ?_ ?_
  · have scaled := mul_le_mul_of_nonneg_right lowApart scale_pos.le
    have : ((num * interval.den + interval.low * den : Nat) : ℚ)
        ≤ (interval.middle * den : Nat) := by
      push_cast
      rw [num_eq]
      linarith
    exact_mod_cast this
  · have scale_pos : 0 < den := by exact_mod_cast scale_pos
    have highApart : interval.middle < interval.high := by exact_mod_cast highApart
    exact Nat.mul_lt_mul_of_pos_right highApart scale_pos

end Grid

/-- The search ends at the first grid with a point inside, and so not after one of which that is
known.
-/
theorem shortestFrom_spec (leading : Int) {fuel count known : Nat}
    (known_some : (interval.gridPoint? (leading - known + 1)).isSome = true)
    (count_le : count ≤ known) (known_lt : known < count + fuel)
    : ∃ last,
        count ≤ last ∧ last ≤ known
        ∧ (interval.shortestFrom leading fuel count).exponent = leading - last + 1
        ∧ interval.gridPoint? (leading - last + 1)
          = some (interval.shortestFrom leading fuel count).significand := by
  induction fuel generalizing count with
  | zero => omega
  | succ fuel ih =>
      rw [shortestFrom]
      cases found : interval.gridPoint? (leading - count + 1) with
      | some digits =>
          refine ⟨count, Nat.le_refl _, count_le, ?_⟩
          unfold gridPoint? at found ⊢
          simp only [found, and_self]
      | none =>
          have before : count ≠ known := by
            rintro rfl
            rw [found] at known_some
            cases known_some
          have next_le : count + 1 ≤ known := by omega
          obtain ⟨last, after, rest⟩ := ih next_le (by omega)
          refine ⟨last, Nat.le_of_succ_le after, ?_⟩
          unfold gridPoint? at found
          rw [found]
          exact rest

end Interval

end ImageVerification.Decimal
