import ImageVerification.Proofs.Json.Digits
import ImageVerification.Proofs.Json.Narrowing
import ImageVerification.Proofs.Snapshot.RoundTrip

/-! Every finite score is read back from its digits, though these are read with two roundings. -/

namespace ImageVerification.Snapshot

open Binary Decimal Json Json.Parser Json.Number Reader

/-- What is read as a number without a sign has none. -/
theorem literal?_of_unsigned? {text : List Char} {literal : Literal}
    (read : unsigned? false text = some (literal, []))
    : literal? text = some (literal, []) := by
  unfold literal?
  split
  case h_1 rest => cases read
  case h_2 => exact read

variable {x : Binary32} {negative : Bool} {significand scale : Nat}

/-- The text of a number with a significand. -/
theorem single_eq (read : x.value = .finite negative significand scale) (nonzero : significand ≠ 0)
    : Writer.single x
      = if negative then '-' :: Layout.single.render (shortest Format.single significand scale)
        else Layout.single.render (shortest Format.single significand scale) := by
  rw [Writer.single, Binary32.text?, read, renderValue?]
  simp only [if_neg nonzero]
  rfl

/-- A score is read back if scaling the digits that it is written with leads to it. -/
theorem readScore?_of_scale? (read : x.value = .finite negative significand scale)
    (nonzero : significand ≠ 0)
    (moderate : (shortest Format.single significand scale).Moderate)
    (scaled : ∀ (digits : Nat) (exponent : Int),
      digits * (10 : ℚ) ^ exponent = (shortest Format.single significand scale).value →
      digits < 2 ^ 53 → exponent.natAbs ≤ 60 →
      ∃ y, scale? digits exponent = some y ∧ (if negative then y.neg else y).narrow = x)
    : readScore? x = some x := by
  have text := single_eq read nonzero
  have written : x.text? = some (Writer.single x) := by
    rw [Writer.single, Binary32.text?, read]
    rfl
  have numerals := text?_numerals written
  obtain ⟨literal, digits, exponent, spelled, sign, notWhole, magnitude, value_eq, few, moderate⟩ :=
    spells_render moderate negative
  obtain ⟨y, found, narrow⟩ := scaled digits exponent value_eq few moderate
  have whole : literal? (Writer.single x) = some (literal, []) := by
    rw [text]
    cases negative with
    | false => exact literal?_of_unsigned? spelled
    | true => exact spelled
  have number : ofLiteral? literal = some (.float (if negative then y.neg else y)) := by
    rw [ofLiteral?, notWhole, float?, magnitude, found, sign]
    rfl
  rw [readScore?, document?_of_numerals numerals, whole]
  show (ofLiteral? literal).map toBinary32 = some x
  rw [number]
  exact congrArg some narrow

/-- The two numbers next to the middle that a decimal comes too close to, with both signs. -/
theorem readScore?_critical
    : ∀ negative, ∀ significand ∈ [11420669, 11420670],
        let bits := Format.single.withSign negative (42 * 2 ^ 23 + significand)
        readScore? ⟨UInt32.ofNat bits⟩ = some ⟨UInt32.ofNat bits⟩ := by
  decide +kernel

/-- Either zero is read back with its sign. -/
theorem readScore?_zero
    : ∀ negative,
        let bits := Format.single.withSign negative 0
        readScore? ⟨UInt32.ofNat bits⟩ = some ⟨UInt32.ofNat bits⟩ := by
  decide +kernel

/-- Every finite score is read back as it was. -/
theorem readScore?_of_isFinite {x : Binary32} (finite : x.isFinite = true)
    : readScore? x = some x := by
  unfold Binary32.isFinite at finite
  split at finite
  case h_2 => cases finite
  case h_1 negative significand scale read =>
    obtain ⟨x_eq, narrow, normal, inRange⟩ := Binary32.eq_of_value read
    -- Zero has no leading digit, so the search for digits does not apply to it.
    rcases Nat.eq_zero_or_pos significand with rfl | positive
    · have first : scale = 0 := by
        by_contra other
        exact absurd (normal (Nat.pos_of_ne_zero other)) (by decide)
      subst first
      rw [x_eq]
      exact readScore?_zero negative
    -- The least number of a binary place has a nearer neighbour below it, and two numbers lie
    -- beside a critical middle: these are read in their own way.
    cases special : isSpecial significand scale with
    | false =>
        have notLeast : 0 < scale → 2 ^ 23 < significand := by
          simp only [isSpecial, decide_eq_false_iff_not, not_or] at special
          omega
        have suits := suits_shortest positive narrow inRange notLeast
        refine readScore?_of_scale? read positive.ne' suits.toModerate
          fun digits exponent value_eq few moderate => ?_
        obtain ⟨y, found, leads⟩ := scale?_narrow suits value_eq inRange narrow normal special few
          moderate positive
        exact ⟨y, found, (leads negative).trans x_eq.symm⟩
    | true =>
        simp only [isSpecial, isCritical, decide_eq_true_eq] at special
        rcases special with ⟨scaled, rfl⟩ | ⟨rfl, before⟩ | ⟨rfl, after⟩
        · obtain ⟨lower, rfl⟩ := Nat.exists_eq_succ_of_ne_zero scaled.ne'
          have suits := suitsLeast_shortest (Nat.lt_of_succ_lt_succ inRange)
          refine readScore?_of_scale? read positive.ne' suits.toModerate
            fun digits exponent value_eq few moderate => ?_
          obtain ⟨y, found, leads⟩ := scale?_narrow_least suits value_eq
            (Nat.lt_of_succ_lt_succ inRange) few moderate
          exact ⟨y, found, (leads negative).trans x_eq.symm⟩
        · obtain rfl : significand = 11420670 := by omega
          rw [x_eq]
          exact readScore?_critical negative _ (by decide)
        · obtain rfl : significand = 11420669 := by omega
          rw [x_eq]
          exact readScore?_critical negative _ (by decide)

end ImageVerification.Snapshot
