import ImageVerification.Binary.Number

/-! The shortest decimal that reads back as a given binary number.

Every finite number owns the interval of reals that round to it; its ends belong to it when the
significand is even. Of the decimals with the fewest digits inside that interval the one nearest
to the number is taken, and of two equally near ones the one with the even last digit.
-/

namespace ImageVerification.Decimal

/-- The positive number `significand * 10 ^ exponent`. -/
structure Scientific where
  significand : Nat
  exponent : Int
deriving DecidableEq

/-- A positive number between two ends, all three over one denominator. -/
structure Interval where
  low : Nat
  middle : Nat
  high : Nat
  den : Nat
  closed : Bool

namespace Interval

/-- The interval that rounds to `significand * 2 ^ scale` least positive numbers; below the least
significand of a scale the neighbour is only half as far. -/
def ofUnits (format : Binary.Format) (significand scale : Nat) : Interval :=
  let narrow := significand = Nat.pow 2 format.fraction ∧ 0 < scale
  {
    low := (4 * significand - if narrow then 1 else 2) * Nat.pow 2 scale
    middle := 4 * significand * Nat.pow 2 scale
    high := (4 * significand + 2) * Nat.pow 2 scale
    den := 4 * Nat.pow 2 format.unitExponent
    closed := significand % 2 = 0
  }

/-- Whether `digits * gridNum / gridDen` lies inside. -/
def contains (interval : Interval) (digits gridNum gridDen : Nat) : Bool :=
  let point := digits * gridNum * interval.den
  let low := interval.low * gridDen
  let high := interval.high * gridDen
  if interval.closed then low ≤ point ∧ point ≤ high else low < point ∧ point < high

/-- The multiple of `gridNum / gridDen` inside that is nearest to the middle. -/
def nearestPoint? (interval : Interval) (gridNum gridDen : Nat) : Option Nat :=
  let step := gridNum * interval.den
  let target := interval.middle * gridDen
  let below := target / step
  let gap := target % step
  let above := below + 1
  match interval.contains below gridNum gridDen && below != 0,
      interval.contains above gridNum gridDen with
  | true, true =>
      if 2 * gap < step ∨ (2 * gap = step ∧ below % 2 = 0) then some below else some above
  | true, false => some below
  | false, true => some above
  | false, false => none

/-- The exponent of the first decimal digit of the middle. -/
def leadingExponent (interval : Interval) : Int :=
  if interval.den ≤ interval.middle then
    ((Nat.toDigits 10 (interval.middle / interval.den)).length : Int) - 1
  else
    -((Nat.toDigits 10 ((interval.den - 1) / interval.middle)).length : Int)

/-- Tries grids of `count` digits, `count + 1` digits and so on. -/
def shortestFrom (interval : Interval) (leading : Int) : Nat → Nat → Scientific
  | 0, count =>
      let exponent := leading - (count : Int) + 1
      ⟨interval.middle * Nat.pow 10 (-exponent).toNat
          / (interval.den * Nat.pow 10 exponent.toNat), exponent⟩
  | fuel + 1, count =>
      let exponent := leading - (count : Int) + 1
      match interval.nearestPoint? (Nat.pow 10 exponent.toNat) (Nat.pow 10 (-exponent).toNat) with
      | some digits => ⟨digits, exponent⟩
      | none => interval.shortestFrom leading fuel (count + 1)

end Interval

/-- Seventeen digits tell any two numbers of the supported formats apart. -/
def maxDigits : Nat := 17

def shortest (format : Binary.Format) (significand scale : Nat) : Scientific :=
  let interval := Interval.ofUnits format significand scale
  interval.shortestFrom interval.leadingExponent maxDigits 1

end ImageVerification.Decimal
