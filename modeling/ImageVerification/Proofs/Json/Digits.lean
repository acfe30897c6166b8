import ImageVerification.Json.Number
import ImageVerification.Json.Parser
import ImageVerification.Proofs.Decimal.Single
import ImageVerification.Proofs.Time.Rfc3339
import Mathlib.Data.List.TakeWhile

/-! The texts of decimals are read as literals with the same digits, and these stand for the
decimals.
-/

namespace ImageVerification.Json

open Decimal Json.Parser
open Timestamp (NoDigit)

section Digits

variable {ds : List Char}

/-- Digits stay below the power of ten of their length; by induction on them. -/
theorem ofDigitChars_lt (digits : ∀ c ∈ ds, c.isDigit = true)
    : Nat.ofDigitChars 10 ds 0 < 10 ^ ds.length := by
  induction ds with
  | nil => simp
  | cons d ds ih =>
      have rest_lt := ih fun c member => digits c (List.mem_cons_of_mem d member)
      obtain ⟨atLeast, atMost⟩ := Char.isDigit_iff_toNat.mp (digits d List.mem_cons_self)
      have digit_le : d.toNat - '0'.toNat ≤ 9 := by
        have : '0'.toNat = 48 := rfl
        have : '9'.toNat = 57 := rfl
        omega
      have first_le := Nat.mul_le_mul_left (10 ^ ds.length) digit_le
      have expand : Nat.ofDigitChars 10 (d :: ds) 0
          = 10 ^ ds.length * (d.toNat - '0'.toNat) + Nat.ofDigitChars 10 ds 0 := by
        rw [Nat.ofDigitChars_cons, Nat.ofDigitChars_eq_ofDigitChars_zero, Nat.mul_zero,
          Nat.zero_add]
      rw [expand, List.length_cons, Nat.pow_succ]
      omega

theorem naturalOf_eq (ds : List Char) : Number.naturalOf ds = Nat.ofDigitChars 10 ds 0 := by
  rw [Number.naturalOf, ← Timestamp.digitsValue_eq]
  rfl

/-- Digits that fit 64 bits are all taken. -/
theorem accumulate_eq {significand : Nat}
    (fits : Nat.ofDigitChars 10 ds significand < Number.wordLimit)
    : Number.accumulate significand ds = (Nat.ofDigitChars 10 ds significand, []) := by
  induction ds generalizing significand with
  | nil => rfl
  | cons d ds ih =>
      have step : significand * 10 + Number.digitOf d
          = 10 * significand + (d.toNat - '0'.toNat) := by
        rw [Nat.mul_comm]
        rfl
      rw [Nat.ofDigitChars_cons] at fits ⊢
      rw [Number.accumulate, step]
      have grown : 10 * significand + (d.toNat - '0'.toNat)
          ≤ Nat.ofDigitChars 10 ds (10 * significand + (d.toNat - '0'.toNat)) := by
        rw [Nat.ofDigitChars_eq_ofDigitChars_zero]
        have := Nat.le_mul_of_pos_left (10 * significand + (d.toNat - '0'.toNat))
          (Nat.pow_pos (by decide : 0 < 10) : 0 < 10 ^ ds.length)
        omega
      rw [if_pos (Nat.lt_of_le_of_lt grown fits)]
      exact ih fits

/-- Digits of which the first one is not a zero. -/
structure Leading (ds : List Char) : Prop where
  digits : ∀ c ∈ ds, c.isDigit = true
  first : ∃ c rest, ds = c :: rest ∧ c ≠ '0'

/-- The digits of a positive number begin with none that is zero. -/
theorem leading_digits {n : Nat} (positive : 0 < n) : Leading (digits n) := by
  have isDigits : ∀ c ∈ digits n, c.isDigit = true :=
    fun c member => Nat.isDigit_of_mem_toDigits (by decide) (by decide) member
  refine ⟨isDigits, ?_⟩
  have value_eq : Nat.ofDigitChars 10 (digits n) 0 = n := Nat.ofDigitChars_ten_toDigits
  have atLeast : 10 ^ ((digits n).length - 1) ≤ n := Interval.pow_length_toDigits_le positive
  cases written : digits n with
  | nil => exact absurd written Nat.toDigits_ne_nil
  | cons c rest =>
      refine ⟨c, rest, rfl, ?_⟩
      rintro rfl
      rw [written] at isDigits value_eq atLeast
      have below := ofDigitChars_lt fun c member => isDigits c (List.mem_cons_of_mem '0' member)
      rw [Nat.ofDigitChars_cons, Nat.sub_self, Nat.add_zero, Nat.mul_zero] at value_eq
      rw [List.length_cons, Nat.add_sub_cancel] at atLeast
      omega

/-- Only zeros at the end are trimmed. -/
theorem exists_trimZeros (cs : List Char)
    : ∃ count, cs = trimZeros cs ++ List.replicate count '0' := by
  refine ⟨(cs.reverse.takeWhile (· == '0')).length, ?_⟩
  have zeros : cs.reverse.takeWhile (· == '0')
      = List.replicate (cs.reverse.takeWhile (· == '0')).length '0' := by
    refine List.eq_replicate_of_mem fun c member => ?_
    simpa using List.mem_takeWhile_imp member
  have split := List.takeWhile_append_dropWhile (p := (· == '0')) (l := cs.reverse)
  rw [zeros] at split
  have back := congrArg List.reverse split
  rw [List.reverse_append, List.reverse_reverse, List.reverse_replicate] at back
  exact back.symm

/-- To trim zeros at the end leaves the first digit. -/
theorem leading_trimZeros (leading : Leading ds) : Leading (trimZeros ds) := by
  obtain ⟨count, split⟩ := exists_trimZeros ds
  obtain ⟨c, rest, written, nonzero⟩ := leading.first
  refine ⟨fun c member => leading.digits c ?_, ?_⟩
  · rw [split]
    exact List.mem_append_left _ member
  · cases trimmed : trimZeros ds with
    | nil =>
        rw [trimmed, List.nil_append, written] at split
        have member : c ∈ List.replicate count '0' := split ▸ List.mem_cons_self
        exact absurd (List.eq_of_mem_replicate member) nonzero
    | cons d others =>
        rw [trimmed, List.cons_append, written] at split
        exact ⟨d, others, rfl, (List.cons.inj split).1 ▸ nonzero⟩

end Digits

section Literals

variable {ds rest : List Char}

/-- Digits are read up to the first character that is none. -/
theorem digits?_append (digits : ∀ c ∈ ds, c.isDigit = true) (nonempty : ds ≠ [])
    (ends : NoDigit rest)
    : digits? (ds ++ rest) = some (ds, rest) := by
  have nothingMore : rest.takeWhile Char.isDigit = [] ∧ rest.dropWhile Char.isDigit = rest := by
    cases rest with
    | nil => simp
    | cons c rest =>
        have notDigit : c.isDigit = false := ends c rfl
        simp [notDigit]
  rw [digits?, List.takeWhile_append_of_pos digits, List.dropWhile_append_of_pos digits,
    nothingMore.1, nothingMore.2, List.append_nil]
  cases ds with
  | nil => exact absurd rfl nonempty
  | cons d ds => rfl

theorem digits?_all (digits : ∀ c ∈ ds, c.isDigit = true) (nonempty : ds ≠ [])
    : digits? ds = some (ds, []) := by
  have atEnd : NoDigit [] := fun c member => by cases member
  simpa using digits?_append digits nonempty atEnd

/-- So is a whole number, if it does not begin with a zero. -/
theorem whole?_append (leading : Leading ds) (ends : NoDigit rest)
    : whole? (ds ++ rest) = some (ds, rest) := by
  obtain ⟨c, others, written, nonzero⟩ := leading.first
  have read := digits?_append leading.digits (by simp [written]) ends
  subst written
  rw [List.cons_append] at read ⊢
  rw [whole?, read]
  exact fun _ same => nonzero (List.cons.inj same).1

/-- A literal with a fraction. -/
theorem unsigned?_point {whole : List Char}
    (read : whole? (whole ++ '.' :: ds) = some (whole, '.' :: ds))
    (digits : ∀ c ∈ ds, c.isDigit = true) (nonempty : ds ≠ []) (negative : Bool)
    : unsigned? negative (whole ++ '.' :: ds)
      = some ({ negative, whole, fraction := some ds, exponent := none }, []) := by
  simp [unsigned?, read, fraction?, digits?_all digits nonempty, exponent?]

/-- An exponent with its sign. -/
def exponentMark (exponent : Int) : List Char :=
  'e' :: (if exponent < 0 then '-' else '+') :: digits exponent.natAbs

/-- A written exponent is read back with its sign. -/
theorem exponent?_exponentMark (exponent : Int)
    : exponent? (exponentMark exponent)
      = some (some (decide (exponent < 0), digits exponent.natAbs), []) := by
  have isDigits : ∀ c ∈ digits exponent.natAbs, c.isDigit = true :=
    fun c member => Nat.isDigit_of_mem_toDigits (by decide) (by decide) member
  have read := digits?_all isDigits Nat.toDigits_ne_nil
  by_cases below : exponent < 0
  · simp [exponentMark, exponent?, below, exponentSign, read]
  · simp [exponentMark, exponent?, below, exponentSign, read]

/-- A literal of one digit before the point, with an exponent. -/
theorem unsigned?_scientific (leading : Leading ds) (exponent : Int) (negative : Bool)
    : ∃ whole fraction,
        unsigned? negative (Layout.scientific ds exponent)
          = some
              ({
                negative
                whole
                fraction
                exponent := some (decide (exponent < 0), digits exponent.natAbs)
              }, [])
        ∧ whole ++ fraction.getD [] = ds ∧ (fraction.getD []).length + 1 = ds.length := by
  obtain ⟨d, others, written, nonzero⟩ := leading.first
  have single : Leading [d] := ⟨by simpa [written] using leading.digits d, d, [], rfl, nonzero⟩
  subst written
  have endsMark : NoDigit (exponentMark exponent) := fun c member => by cases member; rfl
  -- A single digit is written without a point.
  cases others with
  | nil =>
      refine ⟨[d], none, ?_, rfl, rfl⟩
      have read : whole? (d :: exponentMark exponent) = some ([d], exponentMark exponent) :=
        whole?_append single endsMark
      have fraction : fraction? (exponentMark exponent) = some (none, exponentMark exponent) := rfl
      show unsigned? negative (d :: exponentMark exponent) = _
      simp [unsigned?, read, fraction, exponent?_exponentMark]
  | cons next others =>
      refine ⟨[d], some (next :: others), ?_, rfl, rfl⟩
      have endsPoint : NoDigit ('.' :: (next :: others ++ exponentMark exponent)) :=
        fun c member => by cases member; rfl
      have read
          : whole? (d :: '.' :: (next :: others ++ exponentMark exponent))
            = some ([d], '.' :: (next :: others ++ exponentMark exponent)) :=
        whole?_append single endsPoint
      have fraction
          : fraction? ('.' :: (next :: others ++ exponentMark exponent))
            = some (some (next :: others), exponentMark exponent) := by
        have digits (c : Char) (member : c ∈ next :: others) : c.isDigit = true :=
          leading.digits c (List.mem_cons_of_mem d member)
        rw [fraction?, digits?_append digits (List.cons_ne_nil _ _) endsMark]
        rfl
      show unsigned? negative (d :: '.' :: (next :: others ++ exponentMark exponent)) = _
      simp only [unsigned?, read, fraction, exponent?_exponentMark, Option.bind_eq_bind,
        Option.bind_some, Option.pure_def]

end Literals

section Magnitudes

open Number

/-- The digits of a literal on both sides of its point. -/
def Literal.digits (literal : Literal) : List Char := literal.whole ++ literal.fraction.getD []

/-- A literal with digits that fit 64 bits is read without dropping one. -/
theorem magnitude?_eq {literal : Literal}
    (fits : Nat.ofDigitChars 10 literal.digits 0 < wordLimit)
    : magnitude? literal
      = withExponent? (Nat.ofDigitChars 10 literal.digits 0)
          (-((literal.fraction.getD []).length : Int)) literal.exponent := by
  obtain ⟨negative, whole, fraction, exponent⟩ := literal
  unfold Literal.digits at fits ⊢
  have wholeFits : Nat.ofDigitChars 10 whole 0 < wordLimit := by
    refine Nat.lt_of_le_of_lt ?_ fits
    rw [Nat.ofDigitChars_append, Nat.ofDigitChars_eq_ofDigitChars_zero (l := fraction.getD [])]
    have := Nat.le_mul_of_pos_left (Nat.ofDigitChars 10 whole 0)
      (Nat.pow_pos (by decide : 0 < 10) : 0 < 10 ^ (fraction.getD []).length)
    exact Nat.le_add_right_of_le this
  rw [Nat.ofDigitChars_append] at fits ⊢
  cases fraction with
  | none => simp [magnitude?, accumulate_eq wholeFits]
  | some ds =>
      have taken : accumulate (Nat.ofDigitChars 10 whole 0) ds = _ := accumulate_eq fits
      simp [magnitude?, accumulate_eq wholeFits, taken]

theorem withExponent?_natAbs {significand : Nat} {start exponent : Int}
    (small : exponent.natAbs < 1000) (near : start.natAbs < 1000)
    : withExponent? significand start
        (some (decide (exponent < 0), Decimal.digits exponent.natAbs))
      = scale? significand (start + exponent) := by
  have size_eq : naturalOf (Decimal.digits exponent.natAbs) = exponent.natAbs := by
    rw [naturalOf_eq]
    exact Nat.ofDigitChars_ten_toDigits
  have limit_eq : exponentLimit = 2147483648 := rfl
  rw [withExponent?, size_eq, if_pos (by omega)]
  congr 1
  by_cases below : exponent < 0
  · simp only [below, decide_true, if_true, clampExponent]
    omega
  · simp only [below, decide_false, Bool.false_eq_true, if_false, clampExponent]
    omega

/-- A text is a literal with few digits that stands for a fraction: scaling them leads to it. -/
def Spells (text : List Char) (fraction : ℚ) : Prop :=
  ∀ negative, ∃ literal digits exponent,
    unsigned? negative text = some (literal, []) ∧ literal.negative = negative
    ∧ (literal.fraction.isNone && literal.exponent.isNone) = false
    ∧ magnitude? literal = scale? digits exponent ∧ digits * (10 : ℚ) ^ exponent = fraction
    ∧ digits < 2 ^ 53 ∧ exponent.natAbs ≤ 60

/-- Without an exponent the digits after the point tell the power of ten. -/
theorem spells_point {whole ds : List Char}
    (read : whole? (whole ++ '.' :: ds) = some (whole, '.' :: ds))
    (digits : ∀ c ∈ ds, c.isDigit = true) (nonempty : ds ≠ [])
    (few : Nat.ofDigitChars 10 (whole ++ ds) 0 < 2 ^ 53) (short : ds.length ≤ 60)
    : Spells (whole ++ '.' :: ds)
        (Nat.ofDigitChars 10 (whole ++ ds) 0 * (10 : ℚ) ^ (-(ds.length : Int))) := by
  intro negative
  have fits : Nat.ofDigitChars 10 (whole ++ ds) 0 < wordLimit := few.trans (by decide)
  exact ⟨_, _, _, unsigned?_point read digits nonempty negative, rfl, rfl, magnitude?_eq fits, rfl,
    few, by simpa using short⟩

variable {ds : List Char} {exponent : Int}

/-- Digits with an exponent spell their own number, the point moved behind the first digit. -/
theorem spells_scientific (leading : Leading ds) (few : Nat.ofDigitChars 10 ds 0 < 2 ^ 53)
    (small : exponent.natAbs < 1000) (short : ds.length < 1000)
    (moderate : (exponent + 1 - ds.length).natAbs ≤ 60)
    : Spells (Layout.scientific ds exponent)
        (Nat.ofDigitChars 10 ds 0 * (10 : ℚ) ^ (exponent + 1 - ds.length)) := by
  intro negative
  obtain ⟨whole, fraction, read, split, length_eq⟩ := unsigned?_scientific leading exponent negative
  have fits : Nat.ofDigitChars 10 ds 0 < wordLimit := few.trans (by decide)
  have start_eq : -((fraction.getD []).length : Int) + exponent = exponent + 1 - ds.length := by
    omega
  refine ⟨_, _, _, read, rfl, by simp, ?_, rfl, few, moderate⟩
  rw [magnitude?_eq (by rw [Literal.digits]; rwa [split]), Literal.digits]
  dsimp only
  rw [split, withExponent?_natAbs small (by omega), start_eq]

theorem isDigit_of_mem_zeros {count : Nat} {c : Char} (member : c ∈ List.replicate count '0')
    : c.isDigit = true := by
  rw [List.eq_of_mem_replicate member]
  rfl

theorem noDigit_point (rest : List Char) : NoDigit ('.' :: rest) :=
  fun c member => by cases member; rfl

theorem Leading.ne_nil (leading : Leading ds) : ds ≠ [] := by
  obtain ⟨c, rest, written, -⟩ := leading.first
  rw [written]
  exact List.cons_ne_nil _ _

theorem Leading.append (leading : Leading ds) {more : List Char}
    (digits : ∀ c ∈ more, c.isDigit = true)
    : Leading (ds ++ more) := by
  obtain ⟨c, rest, written, nonzero⟩ := leading.first
  refine ⟨fun d member => (List.mem_append.mp member).elim (leading.digits d) (digits d), ?_⟩
  exact ⟨c, rest ++ more, by rw [written, List.cons_append], nonzero⟩

/-- Digits behind a zero, a point and further zeros spell their own number. -/
theorem spells_part (leading : Leading ds) (few : Nat.ofDigitChars 10 ds 0 < 2 ^ 53) (zeros : Nat)
    (short : zeros + ds.length ≤ 60)
    : Spells ('0' :: '.' :: List.replicate zeros '0' ++ ds)
        (Nat.ofDigitChars 10 ds 0 * (10 : ℚ) ^ (-(zeros + ds.length : Int))) := by
  have value_eq
      : Nat.ofDigitChars 10 (['0'] ++ (List.replicate zeros '0' ++ ds)) 0
        = Nat.ofDigitChars 10 ds 0 := by
    rw [List.singleton_append, Nat.ofDigitChars_cons, Nat.ofDigitChars_append,
      Nat.ofDigitChars_replicate_zero, Nat.sub_self, Nat.mul_zero]
  have length_eq : (List.replicate zeros '0' ++ ds).length = zeros + ds.length := by
    rw [List.length_append, List.length_replicate]
  have digits : ∀ c ∈ List.replicate zeros '0' ++ ds, c.isDigit = true := fun c member =>
    (List.mem_append.mp member).elim isDigit_of_mem_zeros (leading.digits c)
  have spelled : Spells (['0'] ++ '.' :: (List.replicate zeros '0' ++ ds)) _ :=
    spells_point rfl digits (List.append_ne_nil_of_right_ne_nil _ leading.ne_nil)
      (by rwa [value_eq]) (by rwa [length_eq])
  rw [value_eq, length_eq, Nat.cast_add] at spelled
  exact spelled

/-- A zero after the point makes the significand ten times as large. -/
theorem spells_whole (leading : Leading ds) (zeros : Nat) (short : ds.length + zeros ≤ 13)
    : Spells (ds ++ List.replicate zeros '0' ++ ['.', '0'])
        (Nat.ofDigitChars 10 ds 0 * (10 : ℚ) ^ (zeros : Int)) := by
  -- Digits and zeros are one number, with the zero after the point as its last digit.
  have value_eq
      : Nat.ofDigitChars 10 (ds ++ List.replicate zeros '0' ++ ['0']) 0
        = 10 ^ (zeros + 1) * Nat.ofDigitChars 10 ds 0 := by
    rw [Nat.ofDigitChars_append, Nat.ofDigitChars_append, Nat.ofDigitChars_replicate_zero,
      Nat.ofDigitChars_cons, Nat.ofDigitChars_nil, Nat.sub_self, Nat.add_zero, Nat.pow_succ]
    ring
  have few : Nat.ofDigitChars 10 (ds ++ List.replicate zeros '0' ++ ['0']) 0 < 2 ^ 53 := by
    rw [value_eq]
    calc
      10 ^ (zeros + 1) * Nat.ofDigitChars 10 ds 0 < 10 ^ (zeros + 1) * 10 ^ ds.length :=
        Nat.mul_lt_mul_of_pos_left (ofDigitChars_lt leading.digits) (Nat.pow_pos (by decide))
      _ = 10 ^ (zeros + 1 + ds.length) := (Nat.pow_add _ _ _).symm
      _ ≤ 10 ^ 14 := Nat.pow_le_pow_right (by decide) (by omega)
      _ < 2 ^ 53 := by decide
  have leadingWhole : Leading (ds ++ List.replicate zeros '0') :=
    leading.append fun c => isDigit_of_mem_zeros
  have spelled : Spells (ds ++ List.replicate zeros '0' ++ '.' :: ['0']) _ :=
    spells_point (whole?_append leadingWhole (noDigit_point _)) (by simp) (by simp) few (by simp)
  have scaled
      : ((10 ^ (zeros + 1) * Nat.ofDigitChars 10 ds 0 : Nat) : ℚ) * 10 ^ (-(1 : Int))
        = Nat.ofDigitChars 10 ds 0 * (10 : ℚ) ^ (zeros : Int) := by
    rw [zpow_natCast, zpow_neg_one]
    push_cast
    ring
  rw [value_eq, List.length_singleton, Nat.cast_one, scaled] at spelled
  exact spelled

/-- Digits with a point among them spell their own number. -/
theorem spells_mixed (leading : Leading ds) (few : Nat.ofDigitChars 10 ds 0 < 2 ^ 53) {count : Nat}
    (before : 0 < count) (after : count < ds.length) (short : ds.length ≤ 60)
    : Spells (ds.take count ++ '.' :: ds.drop count)
        (Nat.ofDigitChars 10 ds 0 * (10 : ℚ) ^ ((count : Int) - ds.length)) := by
  obtain ⟨c, rest, written, nonzero⟩ := leading.first
  have leadingWhole : Leading (ds.take count) := by
    obtain ⟨previous, rfl⟩ := Nat.exists_eq_succ_of_ne_zero before.ne'
    refine ⟨fun d member => leading.digits d (List.mem_of_mem_take member), c,
      rest.take previous, ?_, nonzero⟩
    rw [written, List.take_succ_cons]
  have digits : ∀ d ∈ ds.drop count, d.isDigit = true :=
    fun d member => leading.digits d (List.mem_of_mem_drop member)
  have nonempty : ds.drop count ≠ [] := by
    rw [Ne, List.drop_eq_nil_iff]
    omega
  have length_eq : -((ds.drop count).length : Int) = count - ds.length := by
    rw [List.length_drop]
    omega
  have spelled := spells_point (whole?_append leadingWhole (noDigit_point _)) digits nonempty
    (by rwa [List.take_append_drop]) (by rw [List.length_drop]; omega)
  rwa [List.take_append_drop, length_eq] at spelled

/-- Without an exponent there are three ways to write a decimal. -/
theorem spells_positional (leading : Leading ds) (few : Nat.ofDigitChars 10 ds 0 < 2 ^ 53)
    (low : -6 ≤ exponent) (high : exponent ≤ 12) (short : ds.length ≤ 20)
    : Spells (Layout.positional ds exponent)
        (Nat.ofDigitChars 10 ds 0 * (10 : ℚ) ^ (exponent + 1 - ds.length)) := by
  unfold Layout.positional
  dsimp only
  split_ifs with below fitting
  · have exponent_eq
        : -(((-exponent).toNat - 1 : Nat) + ds.length : Int) = exponent + 1 - ds.length := by
      omega
    rw [← exponent_eq]
    exact spells_part leading few _ (by omega)
  · have exponent_eq
        : ((exponent.toNat + 1 - ds.length : Nat) : Int) = exponent + 1 - ds.length := by
      omega
    rw [← exponent_eq]
    exact spells_whole leading _ (by omega)
  · have exponent_eq
        : ((exponent.toNat + 1 : Nat) : Int) - ds.length = exponent + 1 - ds.length := by
      omega
    rw [← exponent_eq]
    exact spells_mixed leading few (Nat.succ_pos _) (by omega) (by omega)

/-- The text of a decimal is read as the decimal. -/
theorem spells_render {x : Scientific} (moderate : x.Moderate)
    : Spells (Layout.single.render x) x.value := by
  obtain ⟨positive, few, low, high⟩ := moderate
  have leading := leading_trimZeros (leading_digits positive)
  obtain ⟨zeros, split⟩ := exists_trimZeros (digits x.significand)
  -- Below 2 ^ 53 there are sixteen digits at most, so no exponent comes near its limits.
  have fewDigits : (digits x.significand).length ≤ 16 :=
    (Nat.length_toDigits_le_iff (by decide) (by decide)).mpr (few.trans (by decide))
  have significand_eq : Nat.ofDigitChars 10 (digits x.significand) 0 = x.significand :=
    Nat.ofDigitChars_ten_toDigits
  have length_eq := congrArg List.length split
  rw [List.length_append, List.length_replicate] at length_eq
  rw [split, Nat.ofDigitChars_append, Nat.ofDigitChars_replicate_zero] at significand_eq
  unfold Layout.render
  dsimp only
  generalize trimZeros (digits x.significand) = ds at leading split length_eq significand_eq ⊢
  generalize (digits x.significand).length = length at fewDigits length_eq ⊢
  have fewer : Nat.ofDigitChars 10 ds 0 < 2 ^ 53 := by
    have := Nat.le_mul_of_pos_left (Nat.ofDigitChars 10 ds 0)
      (Nat.pow_pos (by decide) : 0 < 10 ^ zeros)
    omega
  have exponent_eq : x.exponent + length - 1 + 1 - ds.length = zeros + x.exponent := by omega
  -- The zeros that are trimmed go into the exponent.
  have value_eq
      : x.value
        = Nat.ofDigitChars 10 ds 0 * (10 : ℚ) ^ (x.exponent + length - 1 + 1 - ds.length) := by
    rw [exponent_eq, zpow_add₀ (by norm_num), zpow_natCast, Scientific.value, ← significand_eq]
    push_cast
    ring
  rw [value_eq]
  split_ifs with positional
  · exact spells_positional leading fewer positional.1 positional.2 (by omega)
  · exact spells_scientific leading fewer (by omega) (by omega) (by omega)

end Magnitudes

end ImageVerification.Json
