import QuorumGate.Service.Ledger

/-!
# The calendar counts days

A day number has one date, and a duration added to an instant moves it by just so many ticks. So the
end of a window is its beginning and the length of the window, across months and leap years.
-/

namespace QuorumGate

namespace Date

theorem mk?_eq_some {year month day : Nat} {d : Date} (h : mk? year month day = some d) :
    d.year = year ∧ d.month = month ∧ d.day = day := by
  unfold mk? at h
  split at h
  · cases h
    exact ⟨rfl, rfl, rfl⟩
  · cases h

theorem daysBeforeMonth_succ (year : Nat) {month : Nat} (h : 1 ≤ month) :
    daysBeforeMonth year (month + 1) = daysBeforeMonth year month + daysInMonth year month := by
  cases month with
  | zero => omega
  | succ m => rfl

/-- The day of the year that the month and the day were made from. -/
theorem daysBeforeMonth_monthAndDay (year left : Nat) {month : Nat} (dayOfYear : Nat)
    (h : 1 ≤ month) :
    daysBeforeMonth year (monthAndDay year left month dayOfYear).1 +
        ((monthAndDay year left month dayOfYear).2 - 1) =
      daysBeforeMonth year month + dayOfYear := by
  induction left generalizing month dayOfYear with
  | zero => simp [monthAndDay]
  | succ left ih =>
    rw [monthAndDay]
    by_cases within : dayOfYear < daysInMonth year month
    · simp [within]
    · simp only [within, ↓reduceIte]
      rw [ih (dayOfYear - daysInMonth year month) (Nat.le_add_left 1 month),
        daysBeforeMonth_succ year h]
      omega

/-- The days of whole cycles of 400, 100 and 4 years and of the years that are left. -/
theorem daysBeforeYear_cycles {a b c e : Nat} (hb : b ≤ 3) (hc : c ≤ 24) (he : e ≤ 3) :
    daysBeforeYear (400 * a + 100 * b + 4 * c + e + 1) =
      146097 * a + 36524 * b + 1461 * c + 365 * e := by
  have fours : (400 * a + 100 * b + 4 * c + e) / 4 = 100 * a + 25 * b + c := by omega
  have hundreds : (400 * a + 100 * b + 4 * c + e) / 100 = 4 * a + b := by omega
  have fourHundreds : (400 * a + 100 * b + 4 * c + e) / 400 = a := by omega
  simp only [daysBeforeYear, Nat.add_sub_cancel, fours, hundreds, fourHundreds]
  omega

/-- A day number is so many days after whole cycles of 400, 100 and 4 years and some more years.
Only the last year of a cycle has a day 365, and the last one of a cycle of 100 years only if it
also ends one of 400 years. -/
theorem ofOrdinal?_cycles (n : Nat) : ∃ a b c e dayOfYear,
    b ≤ 3 ∧ c ≤ 24 ∧ e ≤ 3 ∧
      146097 * a + 36524 * b + 1461 * c + 365 * e + dayOfYear = n ∧
      (364 < dayOfYear → dayOfYear = 365 ∧ e = 3 ∧ (c = 24 → b = 3)) ∧
      ofOrdinal? n =
        let year := 400 * a + 100 * b + 4 * c + e + 1
        mk? year (monthAndDay year 11 1 dayOfYear).1 (monthAndDay year 11 1 dayOfYear).2 := by
  refine ⟨n / 146097, _, _, _, _, ?_, ?_, ?_, ?_, ?_, rfl⟩
  all_goals
    have whole : 146097 * (n / 146097) + n % 146097 = n := Nat.div_add_mod n 146097
    have cycle : n % 146097 < 146097 := Nat.mod_lt n (by decide)
    generalize n / 146097 = a at *
    generalize n % 146097 = m at *
    generalize hb : min (m / 36524) 3 = b
    generalize hr : m - b * 36524 = r
    have centuries : b ≤ 3 ∧ 36524 * b + r = m ∧ r ≤ 36524 ∧ (r = 36524 → b = 3) := by omega
    clear hb hr
    have fours : 1461 * (r / 1461) + r % 1461 = r := Nat.div_add_mod r 1461
    have part : r % 1461 < 1461 := Nat.mod_lt r (by decide)
    generalize r / 1461 = c at *
    generalize r % 1461 = q at *
    omega

/-- The date of a day number has that day number. -/
theorem ordinal_of_ofOrdinal? {n : Nat} {d : Date} (h : ofOrdinal? n = some d) :
    d.ordinal = n := by
  obtain ⟨a, b, c, e, dayOfYear, hb, hc, he, whole, -, made⟩ := ofOrdinal?_cycles n
  obtain ⟨year, month, day⟩ := mk?_eq_some (made.symm.trans h)
  have before : daysBeforeYear d.year = 146097 * a + 36524 * b + 1461 * c + 365 * e := by
    rw [year]
    exact daysBeforeYear_cycles hb hc he
  have days : daysBeforeMonth d.year d.month + (d.day - 1) = dayOfYear := by
    rw [month, day, year, daysBeforeMonth_monthAndDay _ 11 dayOfYear (Nat.le_refl 1),
      daysBeforeMonth, Nat.zero_add]
  rw [ordinal]
  omega

theorem daysBeforeMonth_thirteen (year : Nat) :
    daysBeforeMonth year 13 = if isLeap year then 366 else 365 := by
  simp only [daysBeforeMonth, daysInMonth]
  split <;> rfl

/-- A day within the year is a day within one of its months. -/
theorem monthAndDay_valid {year left month dayOfYear : Nat} (pos : 1 ≤ month)
    (months : month + left = 12)
    (within : daysBeforeMonth year month + dayOfYear < daysBeforeMonth year 13) :
    let r := monthAndDay year left month dayOfYear
    1 ≤ r.1 ∧ r.1 ≤ 12 ∧ 1 ≤ r.2 ∧ r.2 ≤ daysInMonth year r.1 := by
  induction left generalizing month dayOfYear with
  | zero =>
    obtain rfl : month = 12 := by omega
    rw [daysBeforeMonth_succ year (by decide : 1 ≤ 12)] at within
    simp only [monthAndDay]
    omega
  | succ left ih =>
    simp only [monthAndDay]
    have next := daysBeforeMonth_succ year pos
    split
    case isTrue => simp only; omega
    case isFalse late => exact ih (by omega) (by omega) (by omega)

theorem isLeap_iff {year : Nat} :
    isLeap year = true ↔ year % 4 = 0 ∧ (year % 100 ≠ 0 ∨ year % 400 = 0) := by
  simp [isLeap]

/-- Every day up to the end of the year 9999 has a date. -/
theorem exists_ofOrdinal? {n : Nat} (h : n < 3652059) : ∃ d, ofOrdinal? n = some d := by
  obtain ⟨a, b, c, e, dayOfYear, hb, hc, he, whole, last, made⟩ := ofOrdinal?_cycles n
  generalize hyear : 400 * a + 100 * b + 4 * c + e + 1 = year at made
  have within : daysBeforeMonth year 1 + dayOfYear < daysBeforeMonth year 13 := by
    rw [daysBeforeMonth_thirteen, daysBeforeMonth, Nat.zero_add]
    by_cases common : dayOfYear ≤ 364
    · split <;> omega
    · obtain ⟨rfl, rfl, ends⟩ := last (by omega)
      rw [if_pos (isLeap_iff.2 (by omega))]
      decide
  obtain valid := monthAndDay_valid (Nat.le_refl 1) (rfl : 1 + 11 = 12) within
  rw [made]
  unfold mk?
  rw [dif_pos ⟨by omega, by omega, valid⟩]
  exact ⟨_, rfl⟩

theorem daysInMonth_le (year month : Nat) : daysInMonth year month ≤ 31 := by
  unfold daysInMonth
  repeat' split
  all_goals decide

theorem daysBeforeMonth_le (year month : Nat) : daysBeforeMonth year month ≤ 31 * month := by
  induction month with
  | zero => exact Nat.le_refl 0
  | succ month ih =>
    cases month with
    | zero => exact Nat.zero_le 31
    | succ m =>
      have length := daysInMonth_le year (m + 1)
      rw [daysBeforeMonth_succ year (Nat.le_add_left 1 m)]
      omega

/-- A bound on day numbers that is good enough for durations. -/
theorem ordinal_lt (d : Date) : d.ordinal < 4000000 := by
  have := d.year_le
  have := d.month_le
  have := daysBeforeMonth_le d.year d.month
  have : d.day ≤ 31 := Nat.le_trans d.day_le (daysInMonth_le d.year d.month)
  rw [ordinal, daysBeforeYear]
  omega

end Date

namespace Instant

variable {t u : Instant} {d : Duration}

theorem wall_of_ofWall? {wall : Int} {offset : Option Offset} (h : ofWall? wall offset = some u) :
    u.wall = wall ∧ u.offset = offset := by
  unfold ofWall? at h
  split at h
  · cases h
  · rename_i nonneg
    obtain ⟨date, hdate, rfl⟩ := Option.map_eq_some_iff.1 h
    have days := Date.ordinal_of_ofOrdinal? hdate
    have length : microsPerDay = 86400000000 := rfl
    refine ⟨?_, rfl⟩
    simp only [Instant.wall, days, length]
    omega

/-- What a wall clock shows when the calendar ends, with the year 9999. -/
def calendarEnd : Int := 3652059 * microsPerDay

theorem exists_ofWall? {wall : Int} (begun : 0 ≤ wall) (ends : wall < calendarEnd)
    (offset : Option Offset) : ∃ u, ofWall? wall offset = some u := by
  have length : microsPerDay = 86400000000 := rfl
  have day : wall.toNat / microsPerDay < 3652059 := by
    rw [calendarEnd, length] at ends
    rw [length]
    omega
  obtain ⟨date, made⟩ := Date.exists_ofOrdinal? day
  rw [ofWall?, if_neg (by omega)]
  simp only [made]
  exact ⟨_, rfl⟩

/-- A duration later is so many ticks later, under the same offset. -/
theorem ticks_plus (h : t.plus d = .ok u) :
    u.ticks = t.ticks + d.micros ∧ u.offset = t.offset := by
  unfold plus at h
  split at h
  · rename_i v hv
    cases h
    obtain ⟨wall, offset⟩ := wall_of_ofWall? hv
    refine ⟨?_, offset⟩
    unfold ticks
    rw [wall, offset]
    cases t.offset with
    | none => rfl
    | some o => simp only; omega
  · cases h

end Instant

theorem Duration.micros_ofSeconds {n : Int} {d : Duration} (h : Duration.ofSeconds n = .ok d) :
    d.micros = n * microsPerSecond := by
  unfold ofSeconds ofMicros at h
  simp only at h
  split at h
  · cases h
  · split at h
    · cases h
    · cases h
      rfl

/-- A proposal made now under a policy expires before the calendar ends, if it does at all. -/
def Policy.EndsInCalendar (P : Policy) (now : Instant) : Prop :=
  ∀ n, P.expirySeconds = some n → 0 ≤ now.wall + n * microsPerSecond ∧
    now.wall + n * microsPerSecond < Instant.calendarEnd

theorem Duration.ofSeconds_eq {n : Int} (lower : -4000000 * microsPerDay < n * microsPerSecond)
    (upper : n * microsPerSecond < 4000000 * microsPerDay) :
    Duration.ofSeconds n = .ok ⟨n * microsPerSecond⟩ := by
  have length : microsPerDay = 86400000000 := rfl
  rw [length] at lower upper
  rw [ofSeconds]
  unfold ofMicros
  rw [length, Int.fdiv_eq_ediv_of_nonneg _ (Int.natCast_nonneg _)]
  simp only
  rw [if_neg (by omega), if_neg (by omega)]

theorem Instant.wall_bounds (t : Instant) : 0 ≤ t.wall ∧ t.wall < 4000000 * microsPerDay := by
  have length : microsPerDay = 86400000000 := rfl
  have day := t.date.ordinal_lt
  have rest := t.micros_lt
  rw [wall, length]
  rw [length] at rest
  omega

theorem Policy.exists_expiryAt {P : Policy} {now : Instant} (h : P.EndsInCalendar now) :
    ∃ t, P.expiryAt now = .ok t := by
  rw [expiryAt]
  cases hn : P.expirySeconds with
  | none => exact ⟨none, rfl⟩
  | some n =>
    obtain ⟨begun, ends⟩ := h n hn
    obtain ⟨u, made⟩ := Instant.exists_ofWall? begun ends now.offset
    obtain ⟨first, last⟩ := now.wall_bounds
    rw [Instant.calendarEnd] at ends
    have length := Duration.ofSeconds_eq (n := n) (by omega) (by omega)
    simp only [length, Except.bind, Instant.plus, made]
    exact ⟨some u, rfl⟩

/-- The window of a policy is as long as the policy says, to the microsecond. -/
theorem Policy.ticks_expiryAt {P : Policy} {now : Instant} {t : Option Instant}
    (h : P.expiryAt now = .ok t) :
    t.map Instant.ticks = P.expirySeconds.map (now.ticks + · * microsPerSecond) ∧
      ∀ u, t = some u → u.offset = now.offset := by
  unfold expiryAt at h
  cases hn : P.expirySeconds with
  | none =>
    rw [hn] at h
    cases h
    exact ⟨rfl, by simp⟩
  | some n =>
    rw [hn] at h
    cases hd : Duration.ofSeconds n with
    | error f => simp only [hd] at h; cases h
    | ok d =>
      cases hu : now.plus d with
      | error f => simp only [hd, Except.bind, hu] at h; cases h
      | ok u =>
        simp only [hd, Except.bind, hu] at h
        cases h
        obtain ⟨ticks, offset⟩ := Instant.ticks_plus hu
        rw [Duration.micros_ofSeconds hd] at ticks
        exact ⟨congrArg some ticks, fun v hv => Option.some.inj hv ▸ offset⟩

end QuorumGate
