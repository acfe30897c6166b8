import Mathlib.Algebra.Order.Ring.Abs
import Mathlib.Tactic.LinearCombination
import Mathlib.Tactic.Linarith
import Mathlib.Tactic.Ring

/-! How close the multiples of a fraction come to whole numbers: a fraction between two neighbours
is approximated best by these, and by their multiples.
-/

namespace ImageVerification.Decimal

/-- Two fractions, of which the first is to be the lower one. -/
structure Bracket where
  lowNum : Nat
  lowDen : Nat
  highNum : Nat
  highDen : Nat

namespace Bracket

/-- Neighbours, that is two fractions that are as close as their denominators allow, with another
fraction between them.
-/
structure Around (bracket : Bracket) (num den : Nat) : Prop where
  neighbours : bracket.highNum * bracket.lowDen = bracket.lowNum * bracket.highDen + 1
  low_le : bracket.lowNum * den ≤ bracket.lowDen * num
  le_high : bracket.highDen * num ≤ bracket.highNum * den

instance (bracket : Bracket) (num den : Nat) : Decidable (bracket.Around num den) :=
  decidable_of_iff (_ ∧ _ ∧ _)
    ⟨fun ⟨neighbours, low_le, le_high⟩ => ⟨neighbours, low_le, le_high⟩,
      fun ⟨neighbours, low_le, le_high⟩ => ⟨neighbours, low_le, le_high⟩⟩

/-- How far `count * num / den` is from `whole`, in parts of `den`. -/
def distance (num den count whole : Nat) : Int := |(count * num : Int) - whole * den|

/-- How far the fraction is above the lower end, in parts of both denominators. -/
def lowGap (bracket : Bracket) (num den : Nat) : Nat := bracket.lowDen * num - bracket.lowNum * den

def highGap (bracket : Bracket) (num den : Nat) : Nat :=
  bracket.highNum * den - bracket.highDen * num

variable {bracket : Bracket} {num den count whole : Nat}

/-- A multiple of a fraction is as many times as far away. -/
theorem distance_mul (times : Nat)
    : distance num den (times * count) (times * whole) = times * distance num den count whole := by
  have factored
      : ((times * count : Nat) * num : Int) - (times * whole : Nat) * den
        = times * (count * num - whole * den) := by
    push_cast
    ring
  rw [distance, distance, factored, abs_mul, Nat.abs_cast]

namespace Around

variable (around : bracket.Around num den)

include around

theorem lowGap_eq
    : (bracket.lowGap num den : Int) = bracket.lowDen * num - bracket.lowNum * den := by
  rw [lowGap, Nat.cast_sub around.low_le, Nat.cast_mul, Nat.cast_mul]

theorem highGap_eq
    : (bracket.highGap num den : Int) = bracket.highNum * den - bracket.highDen * num := by
  rw [highGap, Nat.cast_sub around.le_high, Nat.cast_mul, Nat.cast_mul]

theorem distance_low
    : distance num den bracket.lowDen bracket.lowNum = bracket.lowGap num den := by
  rw [distance, ← around.lowGap_eq, Nat.abs_cast]

theorem distance_high
    : distance num den bracket.highDen bracket.highNum = bracket.highGap num den := by
  rw [distance, abs_sub_comm, ← around.highGap_eq, Nat.abs_cast]

/-- Neighbours span all pairs of whole numbers. -/
theorem exists_coordinates (count whole : Nat)
    : ∃ lows highs : Int,
        count = lows * bracket.lowDen + highs * bracket.highDen
        ∧ whole = lows * bracket.lowNum + highs * bracket.highNum
        ∧ distance num den count whole
          = |lows * bracket.lowGap num den - highs * bracket.highGap num den| := by
  have neighbours
      : (bracket.highNum * bracket.lowDen : Int) = bracket.lowNum * bracket.highDen + 1 := by
    exact_mod_cast around.neighbours
  have count_eq
      : (count : Int)
        = (count * bracket.highNum - whole * bracket.highDen) * bracket.lowDen
          + (whole * bracket.lowDen - count * bracket.lowNum) * bracket.highDen := by
    linear_combination (-(count : Int)) * neighbours
  have whole_eq
      : (whole : Int)
        = (count * bracket.highNum - whole * bracket.highDen) * bracket.lowNum
          + (whole * bracket.lowDen - count * bracket.lowNum) * bracket.highNum := by
    linear_combination (-(whole : Int)) * neighbours
  refine ⟨_, _, count_eq, whole_eq, ?_⟩
  rw [around.lowGap_eq, around.highGap_eq, distance]
  congr 1
  linear_combination (num : Int) * count_eq - (den : Int) * whole_eq

/-- A multiple of a fraction with a smaller denominator than the sum of those of its neighbours is
either one of a neighbour too, or further from every whole number than both neighbours together.
-/
theorem near_cases (positive : 0 < count) (whole : Nat)
    : (∃ times, count = times * bracket.lowDen ∧ whole = times * bracket.lowNum)
      ∨ (∃ times, count = times * bracket.highDen ∧ whole = times * bracket.highNum)
      ∨ bracket.lowDen + bracket.highDen ≤ count
      ∨ (bracket.lowGap num den + bracket.highGap num den : Nat)
        ≤ distance num den count whole := by
  -- The two neighbours span all fractions with whole coordinates, since their determinant is one.
  obtain ⟨lows, highs, count_eq, whole_eq, distance_eq⟩ := around.exists_coordinates count whole
  have lowGap_nonneg : (0 : Int) ≤ bracket.lowGap num den := Int.natCast_nonneg _
  have highGap_nonneg : (0 : Int) ≤ bracket.highGap num den := Int.natCast_nonneg _
  have lowDen_nonneg : (0 : Int) ≤ bracket.lowDen := Int.natCast_nonneg _
  have highDen_nonneg : (0 : Int) ≤ bracket.highDen := Int.natCast_nonneg _
  have count_pos : (0 : Int) < count := by exact_mod_cast positive
  rw [distance_eq, Nat.cast_add]
  -- With coordinates of different signs both gaps add up in the distance; with both positive the
  -- denominators do; with one of them zero the fraction is a multiple of a neighbour.
  rcases lt_trichotomy lows 0 with fewer | rfl | more
  · have positive : 0 < highs := by
      by_contra none
      have := mul_nonpos_of_nonpos_of_nonneg fewer.le lowDen_nonneg
      have := mul_nonpos_of_nonpos_of_nonneg (not_lt.mp none) highDen_nonneg
      linarith
    have : lows * bracket.lowGap num den ≤ -1 * bracket.lowGap num den :=
      mul_le_mul_of_nonneg_right (by omega) lowGap_nonneg
    have : 1 * (bracket.highGap num den : Int) ≤ highs * bracket.highGap num den :=
      mul_le_mul_of_nonneg_right positive highGap_nonneg
    right; right; right
    rw [abs_sub_comm]
    exact le_trans (by linarith) (le_abs_self _)
  · rw [zero_mul, zero_add] at count_eq whole_eq
    have positive : 0 ≤ highs := by
      by_contra negative
      have := mul_nonpos_of_nonpos_of_nonneg (not_le.mp negative).le highDen_nonneg
      linarith
    obtain ⟨times, rfl⟩ := Int.eq_ofNat_of_zero_le positive
    exact .inr (.inl ⟨times, by exact_mod_cast count_eq, by exact_mod_cast whole_eq⟩)
  · rcases lt_trichotomy highs 0 with fewer | rfl | both
    · have : 1 * (bracket.lowGap num den : Int) ≤ lows * bracket.lowGap num den :=
        mul_le_mul_of_nonneg_right more lowGap_nonneg
      have : highs * bracket.highGap num den ≤ -1 * bracket.highGap num den :=
        mul_le_mul_of_nonneg_right (by omega) highGap_nonneg
      right; right; right
      exact le_trans (by linarith) (le_abs_self _)
    · rw [zero_mul, add_zero] at count_eq whole_eq
      obtain ⟨times, rfl⟩ := Int.eq_ofNat_of_zero_le more.le
      exact .inl ⟨times, by exact_mod_cast count_eq, by exact_mod_cast whole_eq⟩
    · have : 1 * (bracket.lowDen : Int) ≤ lows * bracket.lowDen :=
        mul_le_mul_of_nonneg_right more lowDen_nonneg
      have : 1 * (bracket.highDen : Int) ≤ highs * bracket.highDen :=
        mul_le_mul_of_nonneg_right both highDen_nonneg
      right; right; left
      omega

end Around

end Bracket

end ImageVerification.Decimal
