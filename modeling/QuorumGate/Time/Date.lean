/-!
# Dates

Dates of the proleptic Gregorian calendar from year 1 to year 9999, and their day numbers.
-/

namespace QuorumGate

def isLeap (year : Nat) : Bool := year % 4 == 0 && (year % 100 != 0 || year % 400 == 0)

def daysInMonth (year month : Nat) : Nat :=
  match month with
  | 2 => if isLeap year then 29 else 28
  | 4 | 6 | 9 | 11 => 30
  | _ => 31

/-- A date that exists. -/
structure Date where
  year : Nat
  month : Nat
  day : Nat
  year_pos : 1 ≤ year
  year_le : year ≤ 9999
  month_pos : 1 ≤ month
  month_le : month ≤ 12
  day_pos : 1 ≤ day
  day_le : day ≤ daysInMonth year month
  deriving DecidableEq, Repr

namespace Date

def mk? (year month day : Nat) : Option Date :=
  if h : 1 ≤ year ∧ year ≤ 9999 ∧ 1 ≤ month ∧ month ≤ 12 ∧ 1 ≤ day ∧ day ≤ daysInMonth year month
  then some ⟨year, month, day, h.1, h.2.1, h.2.2.1, h.2.2.2.1, h.2.2.2.2.1, h.2.2.2.2.2⟩
  else none

theorem mk?_self (d : Date) : mk? d.year d.month d.day = some d := by
  simp [mk?, d.year_pos, d.year_le, d.month_pos, d.month_le, d.day_pos, d.day_le]

/-- Days from 1 January of year 1 to 1 January of `year`. -/
def daysBeforeYear (year : Nat) : Nat :=
  let p := year - 1
  365 * p + p / 4 - p / 100 + p / 400

/-- Days from 1 January to the first of `month`. -/
def daysBeforeMonth (year : Nat) : Nat → Nat
  | 0 | 1 => 0
  | month + 1 => daysBeforeMonth year month + daysInMonth year month

/-- The number of days since 1 January of year 1. -/
def ordinal (d : Date) : Nat := daysBeforeYear d.year + daysBeforeMonth d.year d.month + (d.day - 1)

/-- The month and the day of the month of a day of the year, counted from zero. -/
def monthAndDay (year : Nat) : Nat → Nat → Nat → Nat × Nat
  | 0, month, dayOfYear => (month, dayOfYear + 1)
  | left + 1, month, dayOfYear =>
    let n := daysInMonth year month
    if dayOfYear < n then (month, dayOfYear + 1)
    else monthAndDay year left (month + 1) (dayOfYear - n)

/-- The date of a day number. Years come in cycles of 400, 100 and 4; the last year of a longer
cycle has the day left over. -/
def ofOrdinal? (n : Nat) : Option Date :=
  let fourHundreds := n / 146097
  let n := n % 146097
  let hundreds := min (n / 36524) 3
  let n := n - hundreds * 36524
  let fours := n / 1461
  let n := n % 1461
  let ones := min (n / 365) 3
  let year := 400 * fourHundreds + 100 * hundreds + 4 * fours + ones + 1
  let (month, day) := monthAndDay year 11 1 (n - ones * 365)
  mk? year month day

end Date

end QuorumGate
