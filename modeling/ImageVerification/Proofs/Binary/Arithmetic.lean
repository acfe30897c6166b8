import ImageVerification.Binary.Number
import ImageVerification.Proofs.Binary.Rounding

/-! What positive numbers of 64 bits measure, and what is left of that in 32 bits. -/

namespace ImageVerification

open Binary

namespace Binary.Format

variable {format : Format} {num den bits : Nat}

/-- Rounding stays finite where the scale is in range. Witness: the significand grows by one place
at most.
-/
theorem roundUnits_lt_infinityBits (positive : 0 < den)
    (inRange : format.scaleOf num den + 3 < 2 ^ format.exponents)
    : format.roundUnits num den < format.infinityBits := by
  calc
    format.roundUnits num den
      ≤ format.scaleOf num den * 2 ^ format.fraction
          + roundHalfEven num (den * 2 ^ format.scaleOf num den) := Nat.min_le_left _ _
    _ ≤ (format.scaleOf num den + 2) * 2 ^ format.fraction :=
        add_significand_le _ (roundHalfEven_scaleOf_le format num positive)
    _ < (2 ^ format.exponents - 1) * 2 ^ format.fraction :=
        Nat.mul_lt_mul_of_pos_right (by omega) (Nat.two_pow_pos _)
    _ = format.infinityBits := rfl

/-- A pattern below that of infinity is its magnitude, without a sign. -/
theorem value_of_lt_infinityBits (finite : bits < format.infinityBits)
    : ∃ significand scale,
        format.value bits = .finite false significand scale
        ∧ significand * 2 ^ scale = format.magnitude bits := by
  have width := Nat.two_pow_pos format.fraction
  have finite : bits < (2 ^ format.exponents - 1) * 2 ^ format.fraction := finite
  have exponent_lt : bits / 2 ^ format.fraction < 2 ^ format.exponents - 1 :=
    (Nat.div_lt_iff_lt_mul width).mpr finite
  have exponent_eq
      : bits / Nat.pow 2 format.fraction % Nat.pow 2 format.exponents
        = bits / 2 ^ format.fraction :=
    Nat.mod_eq_of_lt (Nat.lt_of_lt_of_le exponent_lt (Nat.sub_le _ _))
  have unsigned : bits / format.signBit = 0 := by
    refine Nat.div_eq_of_lt (Nat.lt_of_lt_of_le finite ?_)
    calc
      _ ≤ 2 ^ format.exponents * 2 ^ format.fraction := Nat.mul_le_mul_right _ (Nat.sub_le _ _)
      _ = 2 ^ (format.fraction + format.exponents) := by rw [Nat.pow_add, Nat.mul_comm]
      _ = format.signBit := rfl
  have infinite : bits / 2 ^ format.fraction ≠ Nat.pow 2 format.exponents - 1 :=
    Nat.ne_of_lt exponent_lt
  simp only [value, exponent_eq, unsigned, if_neg infinite]
  -- A subnormal number has no hidden bit, and its scale is zero.
  rcases Nat.lt_or_ge bits (2 ^ format.fraction) with subnormal | normal
  · have low : bits % Nat.pow 2 format.fraction = bits := Nat.mod_eq_of_lt subnormal
    rw [if_pos (Nat.div_eq_of_lt subnormal), low]
    exact ⟨bits, 0, rfl, by rw [magnitude, if_pos subnormal, Nat.pow_zero, Nat.mul_one]⟩
  · have above : bits / 2 ^ format.fraction ≠ 0 :=
      Nat.ne_of_gt (Nat.div_pos normal width)
    rw [if_neg above]
    exact ⟨_, _, rfl, by rw [magnitude, if_neg (Nat.not_lt.mpr normal)]; rfl⟩

variable {significand scale factor shift : Nat}

theorem mul_finite
    : format.mul (.finite false significand scale) (.finite false factor shift)
      = format.roundUnits (significand * 2 ^ scale * (factor * 2 ^ shift))
          (2 ^ format.unitExponent) := rfl

theorem div_finite (nonzero : factor ≠ 0)
    : format.div (.finite false significand scale) (.finite false factor shift)
      = format.roundUnits (significand * 2 ^ scale * 2 ^ format.unitExponent)
          (factor * 2 ^ shift) := by
  rw [div, if_neg nonzero]
  rfl

theorem ofValue_finite (source : Format) (negative : Bool)
    : format.ofValue source (.finite negative significand scale)
      = format.withSign negative
          (format.roundUnits (significand * 2 ^ scale * 2 ^ format.unitExponent)
            (2 ^ source.unitExponent)) := rfl

theorem ofQuotient_positive : format.ofQuotient false num den
    = format.roundUnits (num * 2 ^ format.unitExponent) den := rfl

/-- The sign is told by one bit, which a value does not depend on otherwise. -/
theorem value_signBit_add {significand scale : Nat} (unsigned : bits < format.signBit)
    (read : format.value bits = .finite false significand scale)
    : format.value (format.signBit + bits) = .finite true significand scale := by
  have width := Nat.two_pow_pos format.fraction
  have signBit_eq : format.signBit = 2 ^ format.exponents * 2 ^ format.fraction := by
    rw [← Nat.pow_add, Nat.add_comm]
    rfl
  have positive : 0 < format.signBit := Nat.two_pow_pos _
  have signed : (format.signBit + bits) / format.signBit = 1 := by
    rw [Nat.add_div_left _ positive, Nat.div_eq_of_lt unsigned]
  have plain : bits / format.signBit = 0 := Nat.div_eq_of_lt unsigned
  have exponent_eq
      : (format.signBit + bits) / Nat.pow 2 format.fraction % Nat.pow 2 format.exponents
        = bits / Nat.pow 2 format.fraction % Nat.pow 2 format.exponents := by
    show (format.signBit + bits) / 2 ^ format.fraction % 2 ^ format.exponents = _
    rw [signBit_eq, Nat.add_comm, Nat.add_mul_div_right _ _ width, Nat.add_mod_right]
    rfl
  have low_eq
      : (format.signBit + bits) % Nat.pow 2 format.fraction
        = bits % Nat.pow 2 format.fraction := by
    show (format.signBit + bits) % 2 ^ format.fraction = _
    rw [signBit_eq, Nat.add_comm, Nat.add_mul_mod_self_right]
    rfl
  -- Exponent and fraction are unchanged, so the same branch is taken.
  unfold value at read ⊢
  rw [exponent_eq, low_eq, signed]
  rw [plain] at read
  dsimp only at read ⊢
  split_ifs at read ⊢ <;> cases read <;> rfl

end Binary.Format

/-- A bit above all others. -/
theorem xor_two_pow {bits width : Nat} (small : bits < 2 ^ width)
    : bits ^^^ 2 ^ width = 2 ^ width + bits := by
  refine Nat.eq_of_testBit_eq fun place => ?_
  rw [Nat.testBit_xor, Nat.testBit_two_pow]
  rcases Nat.lt_trichotomy place width with below | rfl | above
  · rw [Nat.testBit_two_pow_add_gt below, decide_eq_false (Nat.ne_of_gt below), Bool.xor_false]
  · rw [Nat.testBit_two_pow_add_eq, decide_eq_true rfl, Bool.xor_true]
  · have wider : 2 ^ (width + 1) ≤ 2 ^ place := Nat.pow_le_pow_right (by decide) above
    rw [Nat.pow_succ] at wider
    rw [Nat.testBit_lt_two_pow (by omega), Nat.testBit_lt_two_pow (by omega),
      decide_eq_false (Nat.ne_of_lt above), Bool.xor_false]

/-- The pattern of a finite number of 32 bits, and the significands and scales that there are. -/
theorem Binary32.eq_of_value {x : Binary32} {negative : Bool} {significand scale : Nat}
    (read : x.value = .finite negative significand scale)
    : x = ⟨UInt32.ofNat (Format.single.withSign negative (scale * 2 ^ 23 + significand))⟩
      ∧ significand < 2 ^ 24 ∧ (0 < scale → 2 ^ 23 ≤ significand) ∧ scale < 254 := by
  obtain ⟨bits⟩ := x
  have signBit_eq : Format.single.signBit = 2147483648 := rfl
  have fraction_eq : Nat.pow 2 Format.single.fraction = 8388608 := rfl
  have exponents_eq : Nat.pow 2 Format.single.exponents = 256 := rfl
  have bits_lt := bits.toNat_lt
  simp only [value, Format.value, signBit_eq, fraction_eq, exponents_eq] at read
  have bits_eq
      : bits.toNat = Format.single.withSign negative (scale * 2 ^ 23 + significand)
        ∧ significand < 2 ^ 24 ∧ (0 < scale → 2 ^ 23 ≤ significand) ∧ scale < 254 := by
    unfold Format.withSign
    rw [signBit_eq]
    split_ifs at read
    · cases read
      split_ifs <;> simp_all <;> omega
    · cases read
      split_ifs <;> simp_all <;> omega
  refine ⟨?_, bits_eq.2⟩
  rw [← bits_eq.1, UInt32.ofNat_toNat]

namespace Binary64

/-- How many of the least positive numbers make one. -/
def one : Nat := 2 ^ Format.double.unitExponent

theorem one_pos : 0 < one := by
  rw [one]
  exact Nat.two_pow_pos _

/-- The distance between numbers of 32 bits in halves, and these in least positive numbers. -/
theorem one_mul_two_pow (scale : Nat) : one * 2 ^ scale = 2 ^ (scale + 924) * 2 ^ 150 := by
  have unit_eq : Format.double.unitExponent = 924 + 150 := rfl
  rw [one, unit_eq, ← Nat.pow_add, ← Nat.pow_add]
  congr 1
  omega

/-- A number is positive and finite, and so many times the least positive one. -/
def Measures (x : Binary64) (units : Nat) : Prop :=
  ∃ significand scale, x.value = .finite false significand scale ∧ significand * 2 ^ scale = units

theorem measures_ofBits {bits : Nat} (finite : bits < Format.double.infinityBits)
    : (ofBits bits).Measures (Format.double.magnitude bits) := by
  have same : (ofBits bits).bits.toNat = bits := by
    refine Nat.mod_eq_of_lt (Nat.lt_trans finite ?_)
    decide
  rw [Measures, value, same]
  exact Format.value_of_lt_infinityBits finite

/-- What is rounded within the range measures what it is rounded to. -/
theorem measures_roundUnits {num den : Nat} (positive : 0 < den)
    (inRange : Format.double.scaleOf num den + 3 < 2 ^ Format.double.exponents)
    : (ofBits (Format.double.roundUnits num den)).Measures
        (Format.double.magnitude (Format.double.roundUnits num den)) :=
  measures_ofBits (Format.roundUnits_lt_infinityBits positive inRange)

theorem ofNat_eq (n : Nat) : ofNat n = ofBits (Format.double.roundUnits (n * one) 1) := by
  rw [ofNat, ofQuotient, Format.ofQuotient_positive, one]

namespace Measures

variable {x y : Binary64} {units others : Nat}

theorem isInfinite_eq (measures : x.Measures units) : x.isInfinite = false := by
  obtain ⟨significand, scale, read, -⟩ := measures
  rw [isInfinite, read]

/-- A product of what is measured is the exact product, rounded once. -/
theorem mul (measures : x.Measures units) (measured : y.Measures others)
    : x * y = ofBits (Format.double.roundUnits (units * others) one) := by
  obtain ⟨significand, scale, read, rfl⟩ := measures
  obtain ⟨factor, shift, readToo, rfl⟩ := measured
  show ofBits (Format.double.mul x.value y.value) = _
  rw [read, readToo, Format.mul_finite, one]

/-- So is a quotient, if nothing is divided by zero. -/
theorem div (measures : x.Measures units) (measured : y.Measures others) (positive : 0 < others)
    : x / y = ofBits (Format.double.roundUnits (units * one) others) := by
  obtain ⟨significand, scale, read, rfl⟩ := measures
  obtain ⟨divisor, shift, readToo, rfl⟩ := measured
  have nonzero : divisor ≠ 0 := by
    rintro rfl
    simp at positive
  show ofBits (Format.double.div x.value y.value) = _
  rw [read, readToo, Format.div_finite nonzero, one]

/-- A double that measures something has no sign bit. -/
theorem bits_lt (measures : x.Measures units) : x.bits.toNat < Format.double.signBit := by
  obtain ⟨significand, scale, read, -⟩ := measures
  have word_lt := x.bits.toNat_lt
  by_contra signed
  have sign : x.bits.toNat / Format.double.signBit % 2 = 1 := by
    have signBit_eq : Format.double.signBit = 2 ^ 63 := rfl
    rw [signBit_eq] at signed ⊢
    omega
  rw [value, Format.value] at read
  simp only [sign, decide_true] at read
  split_ifs at read <;> cases read

theorem neg_value {significand scale : Nat} (read : x.value = .finite false significand scale)
    : x.neg.value = .finite true significand scale := by
  have unsigned := bits_lt ⟨significand, scale, read, rfl⟩
  have flipped : x.neg.bits.toNat = Format.double.signBit + x.bits.toNat := by
    rw [neg, UInt64.toNat_xor]
    exact xor_two_pow unsigned
  rw [value, flipped]
  exact Format.value_signBit_add unsigned read

/-- Both a number and its opposite are rounded to 32 bits by what they measure. -/
theorem narrow_eq (measures : x.Measures units) (negative : Bool)
    : (if negative then x.neg else x).narrow
      = ⟨UInt32.ofNat (Format.single.withSign negative
          (Format.single.roundUnits (units * 2 ^ Format.single.unitExponent) one))⟩ := by
  obtain ⟨significand, scale, read, rfl⟩ := measures
  have signed
      : (if negative then x.neg else x).value = .finite negative significand scale := by
    cases negative with
    | false => exact read
    | true => exact neg_value read
  rw [narrow, signed, Format.ofValue_finite, one]

/-- What measures less than half a last place more or less than a number of 32 bits is rounded to
it; at exactly a half its significand has to be even.
-/
theorem narrow_eq_ofNat {significand scale : Nat} (measures : x.Measures units) (negative : Bool)
    (narrow : significand < 2 ^ 24) (inRange : scale < 254)
    (normal : 0 < scale → 2 ^ 23 < significand)
    (low : 2 * significand * 2 ^ (scale + 924) < units + 2 ^ (scale + 924)
      ∨ 2 * significand * 2 ^ (scale + 924) = units + 2 ^ (scale + 924) ∧ significand % 2 = 0)
    (high : units < 2 * significand * 2 ^ (scale + 924) + 2 ^ (scale + 924)
      ∨ units = 2 * significand * 2 ^ (scale + 924) + 2 ^ (scale + 924) ∧ significand % 2 = 0)
    : (if negative then x.neg else x).narrow
      = ⟨UInt32.ofNat (Format.single.withSign negative (scale * 2 ^ 23 + significand))⟩ := by
  have half_eq := one_mul_two_pow scale
  have unit_eq : Format.single.unitExponent = 149 := rfl
  rw [Nat.mul_assoc] at low high
  have rounded
      : Format.single.roundUnits (units * 2 ^ Format.single.unitExponent) one
        = scale * 2 ^ Format.single.fraction + significand := by
    refine Format.roundUnits_of_near one_pos ?_ narrow normal ?_ ?_
    · show scale + 2 < 2 ^ 8
      omega
    · rw [half_eq, unit_eq, ← Nat.mul_assoc significand]
      omega
    · rw [half_eq, unit_eq, ← Nat.mul_assoc significand]
      omega
  rw [measures.narrow_eq, rounded]
  rfl

/-- The numbers below the least one of a scale are at half the distance. -/
theorem narrow_eq_least {scale : Nat} (measures : x.Measures units) (negative : Bool)
    (inRange : scale < 253)
    (low : 2 ^ 25 * 2 ^ (scale + 924) < units + 2 ^ (scale + 924))
    (high : units < 2 ^ 25 * 2 ^ (scale + 924) + 2 * 2 ^ (scale + 924))
    : (if negative then x.neg else x).narrow
      = ⟨UInt32.ofNat (Format.single.withSign negative ((scale + 1) * 2 ^ 23 + 2 ^ 23))⟩ := by
  have half_eq := one_mul_two_pow scale
  have unit_eq : Format.single.unitExponent = 149 := rfl
  have rounded
      : Format.single.roundUnits (units * 2 ^ Format.single.unitExponent) one
        = (scale + 1) * 2 ^ Format.single.fraction + 2 ^ Format.single.fraction := by
    refine Format.roundUnits_least one_pos ?_ ?_ ?_
    · show scale + 3 < 2 ^ 8
      omega
    · show 2 * (2 ^ 24 * (one * 2 ^ scale)) < _
      rw [half_eq, unit_eq]
      omega
    · show _ < 2 ^ 24 * (one * 2 ^ scale) + one * 2 ^ scale
      rw [half_eq, unit_eq]
      omega
  rw [measures.narrow_eq, rounded]
  rfl

end Measures

end Binary64

end ImageVerification
