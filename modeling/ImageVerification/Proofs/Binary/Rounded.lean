import ImageVerification.Proofs.Binary.Arithmetic
import Mathlib.Algebra.Order.Field.Rat
import Mathlib.Tactic.FieldSimp
import Mathlib.Tactic.NormNum
import Mathlib.Tactic.Positivity

/-! The fractions that numbers of 64 bits stand for, next to those that they are rounded from. -/

namespace ImageVerification.Binary64

open Binary

/-- A number stands for a fraction that is not negative. -/
def Denotes (x : Binary64) (fraction : ℚ) : Prop :=
  ∃ units : Nat, x.Measures units ∧ fraction * one = units

/-- What a fraction is rounded to when it is not too large. -/
structure Rounded (exact result : ℚ) : Prop where
  /-- No number of 53 bits is gone past from below. -/
  le : ∀ {significand scale : Nat}, significand < 2 ^ 53 →
    exact * one ≤ significand * 2 ^ scale → result * one ≤ significand * 2 ^ scale
  /-- No number of 53 bits is gone past from above. -/
  ge : ∀ {significand scale : Nat}, significand < 2 ^ 53 →
    significand * 2 ^ scale ≤ exact * one → significand * 2 ^ scale ≤ result * one
  near : 1 ≤ exact → |result - exact| ≤ exact / 2 ^ 53

/-- What needs 53 bits at most stays as it is. -/
theorem Rounded.eq {exact result : ℚ} {significand scale : Nat} (rounded : Rounded exact result)
    (narrow : significand < 2 ^ 53) (same : exact * one = significand * 2 ^ scale)
    : result = exact := by
  have one_pos : (0 : ℚ) < one := by exact_mod_cast one_pos
  refine mul_right_cancel₀ one_pos.ne' (le_antisymm ?_ ?_)
  · exact (rounded.le narrow same.le).trans same.ge
  · exact same.le.trans (rounded.ge narrow same.ge)

/-- The rounding of words is one of fractions: both bounds and the distance carry over. -/
theorem rounded_roundUnits {num den : Nat} (positive : 0 < den)
    (inRange : Format.double.scaleOf num den + 3 < 2 ^ Format.double.exponents)
    : Rounded (num / den / one)
        (Format.double.magnitude (Format.double.roundUnits num den) / one) := by
  have den_pos : (0 : ℚ) < den := by exact_mod_cast positive
  have one_pos : (0 : ℚ) < one := by exact_mod_cast one_pos
  have exact_eq : (num : ℚ) / den / one * one = num / den := by field_simp
  refine ⟨?_, ?_, ?_⟩
  · intro significand scale narrow atMost
    rw [exact_eq, div_le_iff₀ den_pos] at atMost
    rw [div_mul_cancel₀ _ one_pos.ne']
    exact_mod_cast
      Format.magnitude_roundUnits_le positive inRange narrow (by exact_mod_cast atMost)
  · intro significand scale narrow atLeast
    rw [exact_eq, le_div_iff₀ den_pos] at atLeast
    rw [div_mul_cancel₀ _ one_pos.ne']
    exact_mod_cast
      Format.le_magnitude_roundUnits positive inRange narrow (by exact_mod_cast atLeast)
  · intro large
    -- From one on every place of the significand is used, which bounds the error.
    have normal : 2 ^ Format.double.fraction * den ≤ num := by
      have width : 2 ^ Format.double.fraction ≤ one := Nat.pow_le_pow_right (by decide) (by decide)
      rw [le_div_iff₀ one_pos, one_mul, le_div_iff₀ den_pos] at large
      exact (Nat.mul_le_mul_right den width).trans (by exact_mod_cast large)
    obtain ⟨low, high⟩ := Format.magnitude_roundUnits_near positive inRange normal
    generalize Format.double.magnitude (Format.double.roundUnits num den) = units at low high ⊢
    have low : (2 : ℚ) ^ 53 * num ≤ 2 ^ 53 * (units * den) + num := by exact_mod_cast low
    have high : (2 : ℚ) ^ 53 * (units * den) ≤ 2 ^ 53 * num + num := by exact_mod_cast high
    have error_eq
        : (units : ℚ) / one - num / den / one = (units * den - num) / (den * one) := by
      field_simp
    have bound_eq : (num : ℚ) / den / one / 2 ^ 53 = num / 2 ^ 53 / (den * one) := by field_simp
    rw [error_eq, bound_eq, abs_div, abs_of_pos (mul_pos den_pos one_pos)]
    refine div_le_div_of_nonneg_right ?_ (mul_pos den_pos one_pos).le
    rw [abs_le]
    constructor <;> linarith

theorem exists_rounded {num den : Nat} (positive : 0 < den)
    (moderate : (num : ℚ) / den / one < 2 ^ 256)
    : ∃ result,
        (ofBits (Format.double.roundUnits num den)).Denotes result
        ∧ Rounded (num / den / one) result := by
  have den_pos : (0 : ℚ) < den := by exact_mod_cast positive
  have one_pos : (0 : ℚ) < one := by exact_mod_cast one_pos
  have small : num < 2 ^ (Format.double.fraction + 2000) * den := by
    rw [div_lt_iff₀ one_pos, div_lt_iff₀ den_pos] at moderate
    have moderate : num < 2 ^ 256 * one * den := by exact_mod_cast moderate
    refine moderate.trans_le (Nat.mul_le_mul_right den ?_)
    rw [one, ← Nat.pow_add]
    exact Nat.pow_le_pow_right (by decide) (by decide)
  have inRange : Format.double.scaleOf num den + 3 < 2 ^ Format.double.exponents := by
    have := Format.scaleOf_lt positive (by decide) small
    exact Nat.lt_trans (Nat.add_lt_add_right this 3) (by decide)
  exact ⟨_, ⟨_, measures_roundUnits positive inRange, div_mul_cancel₀ _ one_pos.ne'⟩,
    rounded_roundUnits positive inRange⟩

/-- A natural number becomes a double that it rounds to. -/
theorem ofNat_rounded {n : Nat} (moderate : n < 2 ^ 256)
    : ∃ result, (ofNat n).Denotes result ∧ Rounded n result := by
  have one_pos : (0 : ℚ) < one := by exact_mod_cast one_pos
  have exact_eq : ((n * one : Nat) : ℚ) / (1 : Nat) / one = n := by
    push_cast
    field_simp
  have moderate : ((n * one : Nat) : ℚ) / (1 : Nat) / one < 2 ^ 256 := by
    rw [exact_eq]
    exact_mod_cast moderate
  rw [ofNat_eq, ← exact_eq]
  exact exists_rounded Nat.one_pos moderate

namespace Denotes

variable {x y : Binary64} {p q : ℚ}

/-- A product of what is denoted is rounded once. -/
theorem mul (denotes : x.Denotes p) (denoted : y.Denotes q) (moderate : p * q < 2 ^ 256)
    : ∃ result, (x * y).Denotes result ∧ Rounded (p * q) result := by
  have one_pos : (0 : ℚ) < one := by exact_mod_cast one_pos
  obtain ⟨units, measures, units_eq⟩ := denotes
  obtain ⟨others, measured, others_eq⟩ := denoted
  have exact_eq : ((units * others : Nat) : ℚ) / one / one = p * q := by
    push_cast
    rw [← units_eq, ← others_eq]
    field_simp
  rw [measures.mul measured, ← exact_eq]
  exact exists_rounded Binary64.one_pos (by rw [exact_eq]; exact moderate)

/-- So is a quotient. -/
theorem div (denotes : x.Denotes p) (denoted : y.Denotes q) (positive : 0 < q)
    (moderate : p / q < 2 ^ 256)
    : ∃ result, (x / y).Denotes result ∧ Rounded (p / q) result := by
  have one_pos : (0 : ℚ) < one := by exact_mod_cast one_pos
  obtain ⟨units, measures, units_eq⟩ := denotes
  obtain ⟨others, measured, others_eq⟩ := denoted
  have others_pos : 0 < others := by
    have : (0 : ℚ) < others := others_eq ▸ mul_pos positive one_pos
    exact_mod_cast this
  have exact_eq : ((units * one : Nat) : ℚ) / others / one = p / q := by
    push_cast
    rw [← units_eq, ← others_eq]
    field_simp
  rw [measures.div measured others_pos, ← exact_eq]
  exact exists_rounded others_pos (by rw [exact_eq]; exact moderate)

end Denotes

end ImageVerification.Binary64
