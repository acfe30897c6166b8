/-! Points in civil time: seconds since the start of 1970 in UTC, and nanoseconds.

The last second of a minute may hold a leap second too: up to two seconds' worth of nanoseconds.
Days are counted from the first of March, so that the leap day ends a year, and years are grouped
by 4, 100 and 400.
-/

namespace ImageVerification

/-- The supported years are -262143 to 262142. -/
@[ext]
structure Timestamp where
  seconds : Int
  nanos : Nat
  seconds_ge : -8334601228800 ≤ seconds
  seconds_le : seconds ≤ 8210266876799
  nanos_lt : nanos < 2000000000
  leap : nanos < 1000000000 ∨ seconds % 60 = 59
deriving DecidableEq

namespace Timestamp

def of? (seconds : Int) (nanos : Nat) : Option Timestamp :=
  if h : -8334601228800 ≤ seconds ∧ seconds ≤ 8210266876799 ∧ nanos < 2000000000
      ∧ (nanos < 1000000000 ∨ seconds % 60 = 59) then
    some ⟨seconds, nanos, h.1, h.2.1, h.2.2.1, h.2.2.2⟩
  else none

/-- Nanoseconds since the start of 1970. -/
def unixNanos (t : Timestamp) : Int := t.seconds * 1000000000 + t.nanos

def ofUnixNanos? (n : Int) : Option Timestamp := of? (n / 1000000000) (n % 1000000000).toNat

def epoch : Timestamp := ⟨0, 0, by decide, by decide, by decide, by decide⟩

/-- Seconds first, nanoseconds second. -/
def le (t u : Timestamp) : Bool :=
  t.seconds < u.seconds || (t.seconds == u.seconds && t.nanos ≤ u.nanos)

end Timestamp

namespace Civil

/-- A day of the calendar; `month` and `day` count from one. -/
structure Date where
  year : Int
  month : Nat
  day : Nat
deriving DecidableEq

def isLeap (year : Int) : Bool := year % 4 = 0 && (year % 100 ≠ 0 || year % 400 = 0)

def monthLength (year : Int) (month : Nat) : Nat :=
  if month = 2 then (if isLeap year then 29 else 28)
  else if month = 4 ∨ month = 6 ∨ month = 9 ∨ month = 11 then 30
  else 31

def Date.isValid (date : Date) : Bool :=
  1 ≤ date.month && date.month ≤ 12 && 1 ≤ date.day
    && date.day ≤ monthLength date.year date.month

/-- Days from the first of March of year 0 to the start of 1970. -/
def epochDay : Int := 719468

/-- The day a number of days after the start of 1970. -/
def ofDay (days : Int) : Date :=
  let shifted := days + epochDay
  let inEra := (shifted % 146097).toNat
  let century := min (inEra / 36524) 3
  let inCentury := inEra - century * 36524
  let cycle := inCentury / 1461
  let inCycle := inCentury % 1461
  let rank := min (inCycle / 365) 3
  let inYear := inCycle - rank * 365
  let month := (5 * inYear + 2) / 153
  let year := shifted / 146097 * 400 + (century * 100 + cycle * 4 + rank : Nat)
  {
    year := if month < 10 then year else year + 1
    month := if month < 10 then month + 3 else month - 9
    day := inYear - (153 * month + 2) / 5 + 1
  }

/-- Days from the start of 1970 to a day. -/
def Date.toDay (date : Date) : Int :=
  let year := if date.month ≤ 2 then date.year - 1 else date.year
  let month := if date.month ≤ 2 then date.month + 9 else date.month - 3
  let inEra := year % 400
  let inYear : Int := ((153 * month + 2) / 5 + date.day : Nat) - 1
  year / 400 * 146097 + inEra * 365 + inEra / 4 - inEra / 100 + inYear - epochDay

end Civil

end ImageVerification
