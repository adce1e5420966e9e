import DiveSchool.Timestamp

/-!
# `DiveSchool.Proofs.Calendar` — the days of the Gregorian calendar

The calendar repeats itself every 400 years, and if a year is taken to start in March, its leap day is the
last one. So a day is told by its era of 400 years, its century, its cycle of four years, its year and its
number within the year. The date of a day is read off these numbers, and they are read off the date.

## Contents
- **Days.** `MarchDay` and its number; `exists_number_eq`, every number is that of a day.
- **Years and months.** What a date shows of a day: `yearOfEra_eq`, `shifted_bounds`.
- **Dates.** `IsDate`; `dateOfDays_isDate` and `daysOfDate_dateOfDays`.
-/

namespace DiveSchool

/-! ## Days -/

/-- A day, the year starting in March. -/
structure MarchDay where
  era : Int
  century : Int
  cycle : Int
  year : Int
  day : Int
  century_bounds : 0 ≤ century ∧ century ≤ 3
  cycle_bounds : 0 ≤ cycle ∧ cycle ≤ 24
  year_bounds : 0 ≤ year ∧ year ≤ 3
  day_bounds : 0 ≤ day ∧ day ≤ 365
  /-- A leap day ends every cycle but the last one of the first three centuries. -/
  leap : day = 365 → year = 3 ∧ (cycle = 24 → century = 3)

namespace MarchDay

/-- The day within its era. -/
def dayOfEra (m : MarchDay) : Int := 36524 * m.century + 1461 * m.cycle + 365 * m.year + m.day

/-- The year within its era. -/
def yearOfEra (m : MarchDay) : Int := 100 * m.century + 4 * m.cycle + m.year

/-- Days since the first of January 1970. -/
def number (m : MarchDay) : Int := m.era * 146097 + m.dayOfEra - 719468

theorem dayOfEra_bounds (m : MarchDay) : 0 ≤ m.dayOfEra ∧ m.dayOfEra < 146097 := by
  obtain ⟨era, c, q, k, d, hc, hq, hk, hd, hleap⟩ := m
  simp only [dayOfEra]
  omega

/-- Every number is that of a day: centuries, cycles and years are counted off one after another, and the
    last one of each takes the day that is left over. -/
theorem exists_number_eq (n : Int) : ∃ m : MarchDay, m.number = n := by
  let doe := (n + 719468) % 146097
  let century := min (doe / 36524) 3
  let dayOfCentury := doe - 36524 * century
  let dayOfCycle := dayOfCentury % 1461
  let year := min (dayOfCycle / 365) 3
  refine ⟨⟨(n + 719468) / 146097, century, dayOfCentury / 1461, year, dayOfCycle - 365 * year,
    ?_, ?_, ?_, ?_, ?_⟩, ?_⟩
  case refine_6 =>
    simp only [number, dayOfEra, dayOfCycle, dayOfCentury, doe]
    omega
  all_goals
    simp only [year, dayOfCycle, dayOfCentury, century, doe]
    omega

/-! ## Years and months -/

/-- The year of an era by its day. Leap days before the day are taken out, and then every year has 365. -/
theorem yearOfEra_eq (m : MarchDay) :
    (m.dayOfEra - m.dayOfEra / 1460 + m.dayOfEra / 36524 - m.dayOfEra / 146096) / 365 = m.yearOfEra := by
  obtain ⟨era, c, q, k, d, hc, hq, hk, hd, hleap⟩ := m
  simp only [dayOfEra, yearOfEra]
  generalize hn : 36524 * c + 1461 * q + 365 * k + d = n
  obtain ⟨e, he, hecase⟩ : ∃ e, n / 146096 = e ∧ ((e = 0 ∧ n < 146096) ∨ (e = 1 ∧ n = 146096)) :=
    ⟨_, rfl, by omega⟩
  have hcentury : n / 36524 = c + e := by omega
  obtain ⟨f, hf, hfcase⟩ : ∃ f, n / 1460 = 25 * c + q + f ∧
      ((f = 0 ∧ 24 * c + q + 365 * k + d < 1460) ∨ (f = 1 ∧ 1460 ≤ 24 * c + q + 365 * k + d)) :=
    ⟨n / 1460 - (25 * c + q), by omega, by omega⟩
  rw [he, hcentury, hf]
  omega

/-- The day of the year by the day of the era. -/
theorem day_eq (m : MarchDay) :
    m.dayOfEra - (365 * m.yearOfEra + m.yearOfEra / 4 - m.yearOfEra / 100) = m.day := by
  obtain ⟨era, c, q, k, d, hc, hq, hk, hd, hleap⟩ := m
  simp only [dayOfEra, yearOfEra]
  omega

/-- The month, from March. -/
def shifted (m : MarchDay) : Int := (5 * m.day + 2) / 153

/-- The day of the month. -/
def dayOfMonth (m : MarchDay) : Int := m.day - (153 * m.shifted + 2) / 5 + 1

/-- The month, from January. -/
def month (m : MarchDay) : Int := if m.shifted < 10 then m.shifted + 3 else m.shifted - 9

/-- The year that starts in January. -/
def calendarYear (m : MarchDay) : Int := m.yearOfEra + m.era * 400 + (if m.month ≤ 2 then 1 else 0)

theorem shifted_bounds (m : MarchDay) : 0 ≤ m.shifted ∧ m.shifted ≤ 11 := by
  have hd := m.day_bounds
  unfold shifted
  omega

/-- February ends with the last day of the year. -/
theorem isLeapYear_of_last (m : MarchDay) (h : m.day = 365) : isLeapYear m.calendarYear = true := by
  have hmonth : m.month = 2 := by
    simp only [month, shifted, h]
    decide
  obtain ⟨era, c, q, k, d, hc, hq, hk, hd, hleap⟩ := m
  obtain ⟨hk3, hlast⟩ := hleap h
  simp only [isLeapYear, calendarYear, yearOfEra, hmonth, Bool.and_eq_true, Bool.or_eq_true, beq_iff_eq,
    bne_iff_ne]
  subst hk3
  by_cases hq24 : q = 24
  · have hc3 := hlast hq24
    omega
  · omega

theorem dayOfMonth_bounds (m : MarchDay) :
    1 ≤ m.dayOfMonth ∧ m.dayOfMonth ≤ daysInMonth m.calendarYear m.month := by
  have hd := m.day_bounds
  obtain ⟨hlow, hhigh⟩ := m.shifted_bounds
  have hday : 153 * m.shifted ≤ 5 * m.day + 2 ∧ 5 * m.day + 2 < 153 * m.shifted + 153 := by
    unfold shifted
    omega
  have hmonth : m.month = if m.shifted < 10 then m.shifted + 3 else m.shifted - 9 := rfl
  refine ⟨by unfold dayOfMonth; omega, ?_⟩
  unfold daysInMonth dayOfMonth
  split
  · split
    · omega
    · next hleap =>
        have hlast : m.day ≠ 365 := fun h => hleap (m.isLeapYear_of_last h)
        omega
  · split <;> omega

theorem month_bounds (m : MarchDay) : 1 ≤ m.month ∧ m.month ≤ 12 := by
  have hshifted := m.shifted_bounds
  unfold month
  omega

/-! ## Dates -/

theorem dateOfDays_number (m : MarchDay) :
    dateOfDays m.number = (m.calendarYear, m.month, m.dayOfMonth) := by
  have hbounds := m.dayOfEra_bounds
  have hera : Int.fdiv (m.number + 719468) 146097 = m.era := by
    rw [Int.fdiv_eq_ediv_of_nonneg _ (by decide)]
    unfold number
    omega
  have hday : m.number + 719468 - m.era * 146097 = m.dayOfEra := by
    unfold number
    omega
  simp only [dateOfDays, hera, hday, m.yearOfEra_eq, m.day_eq]
  rfl

theorem daysOfDate_number (m : MarchDay) : daysOfDate m.calendarYear m.month m.dayOfMonth = m.number := by
  have hyear : (if m.month ≤ 2 then m.calendarYear - 1 else m.calendarYear) = m.yearOfEra + m.era * 400 := by
    unfold calendarYear
    split <;> omega
  have hyears : 0 ≤ m.yearOfEra ∧ m.yearOfEra < 400 := by
    obtain ⟨era, c, q, k, d, hc, hq, hk, hd, hleap⟩ := m
    simp only [yearOfEra]
    omega
  have hera : Int.fdiv (m.yearOfEra + m.era * 400) 400 = m.era := by
    rw [Int.fdiv_eq_ediv_of_nonneg _ (by decide)]
    omega
  have hshifted := m.shifted_bounds
  have hmonth : m.month + (if m.month > 2 then -3 else 9) = m.shifted := by
    unfold month
    omega
  have hday := m.day_eq
  simp only [daysOfDate, hyear, hera, hmonth, number]
  unfold dayOfMonth
  omega

end MarchDay

/-- A date of the calendar. -/
structure IsDate (year month day : Int) : Prop where
  month_bounds : 1 ≤ month ∧ month ≤ 12
  day_bounds : 1 ≤ day ∧ day ≤ daysInMonth year month

/-- Every day has a date. -/
theorem dateOfDays_isDate (n : Int) : IsDate (dateOfDays n).1 (dateOfDays n).2.1 (dateOfDays n).2.2 := by
  obtain ⟨m, rfl⟩ := MarchDay.exists_number_eq n
  rw [m.dateOfDays_number]
  exact ⟨m.month_bounds, m.dayOfMonth_bounds⟩

/-- **The day of a date** is the day that has the date. -/
theorem daysOfDate_dateOfDays (n : Int) :
    daysOfDate (dateOfDays n).1 (dateOfDays n).2.1 (dateOfDays n).2.2 = n := by
  obtain ⟨m, rfl⟩ := MarchDay.exists_number_eq n
  rw [m.dateOfDays_number]
  exact m.daysOfDate_number

end DiveSchool
