import Mathlib.Tactic.IntervalCases
import ImageVerification.Time.Timestamp

/-! Days and dates: the date of a day is a date of the calendar, and leads back to the day. -/

namespace ImageVerification.Civil

/-- The month of a day, both counted from the first of March. -/
def monthOf (inYear : Nat) : Nat := (5 * inYear + 2) / 153

/-- The date of a day of a year of an era of 400 years, all counted from the first of March. -/
def dateOf (era : Int) (year inYear : Nat) : Date :=
  {
    year := if monthOf inYear < 10 then era * 400 + year else era * 400 + year + 1
    month := if monthOf inYear < 10 then monthOf inYear + 3 else monthOf inYear - 9
    day := inYear - (153 * monthOf inYear + 2) / 5 + 1
  }

/-- How the calendar takes a day apart. -/
structure Parts (days era : Int) (year inYear : Nat) : Prop where
  date_eq : ofDay days = dateOf era year inYear
  year_lt : year < 400
  inYear_lt : inYear < 366
  /-- Only leap years have a day more than 365. -/
  leap : inYear = 365 → (year + 1) % 4 = 0 ∧ ((year + 1) % 100 = 0 → year = 399)
  days_eq : days + epochDay = era * 146097 + (year * 365 + year / 4 - year / 100 + inYear : Nat)

/-- Centuries, cycles of four years and years are split off one after the other; the last of each
group may be a day longer.
-/
theorem exists_parts (days : Int) : ∃ era year inYear, Parts days era year inYear := by
  let shifted := days + epochDay
  let inEra := (shifted % 146097).toNat
  -- The last century and the last year of a cycle may have a day more, hence the bounds.
  let century := min (inEra / 36524) 3
  let inCentury := inEra - century * 36524
  let cycle := inCentury / 1461
  let inCycle := inCentury % 1461
  let rank := min (inCycle / 365) 3
  let inYear := inCycle - rank * 365
  let year := century * 100 + cycle * 4 + rank
  have inEra_lt : inEra < 146097 := by omega
  have inCentury_le : inCentury ≤ 36524 := by omega
  have cycle_lt : cycle < 25 := by omega
  have rank_le : rank ≤ 3 := Nat.min_le_right _ _
  have quarters : year / 4 = century * 25 + cycle := by omega
  have hundreds : year / 100 = century := by omega
  refine ⟨shifted / 146097, year, inYear, rfl, by omega, by omega, ?_, ?_⟩
  · intro last
    have rank_eq : rank = 3 := by omega
    refine ⟨by omega, ?_⟩
    intro whole
    have cycle_eq : cycle = 24 := by omega
    omega
  · have split : inEra = year * 365 + year / 4 - year / 100 + inYear := by omega
    omega

/-- A day of a year is in one of its twelve months. -/
theorem monthOf_lt {inYear : Nat} (inYear_lt : inYear < 366) : monthOf inYear < 12 := by
  unfold monthOf
  omega

/-- The date of a day leads back to the day. -/
theorem toDay_ofDay (days : Int) : (ofDay days).toDay = days := by
  obtain ⟨era, year, inYear, parts⟩ := exists_parts days
  have month_lt := monthOf_lt parts.inYear_lt
  have within : (153 * monthOf inYear + 2) / 5 ≤ inYear := by
    unfold monthOf
    omega
  have split := parts.days_eq
  have year_lt := parts.year_lt
  rw [parts.date_eq]
  -- January and February belong to the next year of the calendar.
  by_cases early : monthOf inYear < 10
  · have late : ¬ monthOf inYear + 3 ≤ 2 := by omega
    have back : monthOf inYear + 3 - 3 = monthOf inYear := by omega
    simp only [dateOf, Date.toDay, if_pos early, if_neg late, back]
    omega
  · have first : monthOf inYear - 9 ≤ 2 := by omega
    have back : monthOf inYear - 9 + 9 = monthOf inYear := by omega
    simp only [dateOf, Date.toDay, if_neg early, if_pos first, back]
    omega

/-- A year with a 366th day is a leap year. -/
theorem isLeap_of_last {days era : Int} {year inYear : Nat} (parts : Parts days era year inYear)
    (last : inYear = 365)
    : isLeap (era * 400 + year + 1) = true := by
  have year_lt := parts.year_lt
  obtain ⟨fourth, hundredth⟩ := parts.leap last
  have quarter : (era * 400 + year + 1) % 4 = 0 := by omega
  have whole : (era * 400 + year + 1) % 100 = 0 → (era * 400 + year + 1) % 400 = 0 := by
    intro even
    have last := hundredth (by omega)
    omega
  simp only [isLeap, quarter, decide_true, Bool.true_and, Bool.or_eq_true, decide_eq_true_eq]
  by_cases even : (era * 400 + year + 1) % 100 = 0
  · exact .inr (whole even)
  · exact .inl even

/-- The date of a day is a date of the calendar. Only the last month of a year, February, ends with
the year, and it is a day longer in leap years.
-/
theorem isValid_ofDay (days : Int) : (ofDay days).isValid = true := by
  obtain ⟨era, year, inYear, parts⟩ := exists_parts days
  have inYear_lt := parts.inYear_lt
  have month_lt := monthOf_lt inYear_lt
  rw [parts.date_eq]
  by_cases february : monthOf inYear = 11
  · by_cases last : inYear = 365
    · subst last
      simp [dateOf, february, Date.isValid, monthLength, isLeap_of_last parts rfl]
    · have length : 28 ≤ monthLength (era * 400 + year + 1) 2 := by
        unfold monthLength
        split <;> split <;> omega
      have day : inYear - 337 + 1 ≤ 28 := by omega
      have fits : inYear - 337 + 1 ≤ monthLength (era * 400 + year + 1) 2 := Nat.le_trans day length
      simp [dateOf, february, Date.isValid, fits]
  -- All other months have one length.
  · have month_eq : monthOf inYear = (5 * inYear + 2) / 153 := rfl
    simp only [dateOf]
    generalize monthOf inYear = month at month_lt month_eq february ⊢
    interval_cases month <;> simp [Date.isValid, monthLength] at february ⊢ <;> omega

theorem le_of_isValid {date : Date} (valid : date.isValid = true)
    : date.month ≤ 12 ∧ date.day ≤ 31 := by
  simp only [Date.isValid, Bool.and_eq_true, decide_eq_true_eq] at valid
  obtain ⟨⟨⟨-, month⟩, -⟩, day⟩ := valid
  have length : monthLength date.year date.month ≤ 31 := by
    unfold monthLength
    split
    · split <;> decide
    · split <;> decide
  exact ⟨month, Nat.le_trans day length⟩

/-- The supported timestamps have the supported years. -/
theorem year_ofDay (days : Int) (least : -96465292 ≤ days) (greatest : days ≤ 95026236)
    : -262143 ≤ (ofDay days).year ∧ (ofDay days).year ≤ 262142 := by
  obtain ⟨era, year, inYear, parts⟩ := exists_parts days
  have year_lt := parts.year_lt
  have inYear_lt := parts.inYear_lt
  have whole := parts.days_eq
  have month_eq : monthOf inYear = (5 * inYear + 2) / 153 := rfl
  rw [parts.date_eq]
  unfold epochDay at whole
  simp only [dateOf]
  have bounds : -656 ≤ era ∧ era ≤ 655 := by omega
  have first : era = -656 → 256 < year ∨ year = 256 ∧ 306 ≤ inYear := by omega
  have last : era = 655 → year < 142 ∨ year = 142 ∧ inYear < 306 := by omega
  by_cases early : monthOf inYear < 10
  · rw [if_pos early]
    omega
  · rw [if_neg early]
    omega

end ImageVerification.Civil
