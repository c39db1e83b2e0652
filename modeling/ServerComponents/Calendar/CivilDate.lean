/-!
# Days and dates

The proleptic Gregorian calendar.  Days are counted from 1 January 1970, and years of the
computation begin in March, so that the leap day is the last day of a year.
-/

namespace ServerComponents
namespace Calendar

structure CivilDate where
  year : Int
  month : Int
  day : Int
  deriving Repr, DecidableEq

/-- The day before 1 March, counted on from its year. -/
def marchStart (y : Int) : Int := 365 * y + y / 4 - y / 100 + y / 400 - 719468

/-- The days of a year that begins in March before its month `mp`. -/
def daysBeforeMonth (mp : Int) : Int := (153 * mp + 2) / 5

def daysFromCivil (date : CivilDate) : Int :=
  let y := if date.month ≤ 2 then date.year - 1 else date.year
  marchStart y + daysBeforeMonth ((date.month + 9) % 12) + date.day - 1

/-- The year that begins in March, and the day in it. -/
def marchDay (z : Int) : Int × Int :=
  let era := (z + 719468) / 146097
  let dayOfEra := (z + 719468) % 146097
  let century := min (dayOfEra / 36524) 3
  let dayOfCentury := dayOfEra - 36524 * century
  let leapCycle := dayOfCentury / 1461
  let dayOfCycle := dayOfCentury - 1461 * leapCycle
  let yearOfCycle := min (dayOfCycle / 365) 3
  (400 * era + 100 * century + 4 * leapCycle + yearOfCycle, dayOfCycle - 365 * yearOfCycle)

def civilFromDays (z : Int) : CivilDate :=
  let y := (marchDay z).1
  let dayOfYear := (marchDay z).2
  let mp := (5 * dayOfYear + 2) / 153
  let month := if mp < 10 then mp + 3 else mp - 9
  { year := if month ≤ 2 then y + 1 else y
    month := month
    day := dayOfYear - daysBeforeMonth mp + 1 }

def weekday (z : Int) : Int := (z + 4) % 7

def newYear (year : Int) : Int := daysFromCivil ⟨year, 1, 1⟩

theorem marchStart_split (era : Int) {century leapCycle year : Int}
    (hcentury : 0 ≤ century ∧ century ≤ 3) (hcycle : 0 ≤ leapCycle ∧ leapCycle ≤ 24)
    (hyear : 0 ≤ year ∧ year ≤ 3) :
    marchStart (400 * era + 100 * century + 4 * leapCycle + year) =
      146097 * era + 36524 * century + 1461 * leapCycle + 365 * year - 719468 := by
  unfold marchStart
  have hleap : (400 * era + 100 * century + 4 * leapCycle + year) / 4 =
      100 * era + 25 * century + leapCycle := by omega
  have hhundred : (400 * era + 100 * century + 4 * leapCycle + year) / 100 =
      4 * era + century := by omega
  have hera : (400 * era + 100 * century + 4 * leapCycle + year) / 400 = era := by omega
  rw [hleap, hhundred, hera]
  omega

/-- The parts of a day: the year ends after day 365 unless it is the last of its cycle, and
the century after its 36524 days unless it is the last of its era. -/
theorem marchDay_parts (z : Int) : exists era century leapCycle year : Int,
    (0 ≤ century ∧ century ≤ 3) ∧ (0 ≤ leapCycle ∧ leapCycle ≤ 24) ∧ (0 ≤ year ∧ year ≤ 3) ∧
      (marchDay z).1 = 400 * era + 100 * century + 4 * leapCycle + year ∧
      146097 * era + 36524 * century + 1461 * leapCycle + 365 * year + (marchDay z).2 =
        z + 719468 ∧
      0 ≤ (marchDay z).2 ∧ (marchDay z).2 ≤ 365 ∧ (year ≤ 2 -> (marchDay z).2 < 365) ∧
      (century ≤ 2 -> 1461 * leapCycle + 365 * year + (marchDay z).2 < 36524) ∧
      36524 * century + 1461 * leapCycle + 365 * year + (marchDay z).2 < 146097 := by
  unfold marchDay
  dsimp only
  have hera : 146097 * ((z + 719468) / 146097) + (z + 719468) % 146097 = z + 719468 := by omega
  have hday : 0 ≤ (z + 719468) % 146097 ∧ (z + 719468) % 146097 ≤ 146096 := by omega
  generalize (z + 719468) / 146097 = era at *
  generalize (z + 719468) % 146097 = dayOfEra at *
  have hcentury : 0 ≤ min (dayOfEra / 36524) 3 ∧ min (dayOfEra / 36524) 3 ≤ 3 := by omega
  have hdayOfCentury : 0 ≤ dayOfEra - 36524 * min (dayOfEra / 36524) 3 ∧
      dayOfEra - 36524 * min (dayOfEra / 36524) 3 ≤ 36524 := by omega
  have hnextCentury : min (dayOfEra / 36524) 3 ≤ 2 ->
      dayOfEra - 36524 * min (dayOfEra / 36524) 3 < 36524 := by omega
  generalize min (dayOfEra / 36524) 3 = century at *
  have hcycle : 0 ≤ (dayOfEra - 36524 * century) / 1461 ∧
      (dayOfEra - 36524 * century) / 1461 ≤ 24 := by omega
  have hdayOfCycle : 0 ≤ dayOfEra - 36524 * century -
        1461 * ((dayOfEra - 36524 * century) / 1461) ∧
      dayOfEra - 36524 * century - 1461 * ((dayOfEra - 36524 * century) / 1461) < 1461 := by
    omega
  generalize (dayOfEra - 36524 * century) / 1461 = leapCycle at *
  have hyear : 0 ≤ min ((dayOfEra - 36524 * century - 1461 * leapCycle) / 365) 3 ∧
      min ((dayOfEra - 36524 * century - 1461 * leapCycle) / 365) 3 ≤ 3 := by omega
  have hdayOfYear : 0 ≤ dayOfEra - 36524 * century - 1461 * leapCycle -
        365 * min ((dayOfEra - 36524 * century - 1461 * leapCycle) / 365) 3 ∧
      dayOfEra - 36524 * century - 1461 * leapCycle -
        365 * min ((dayOfEra - 36524 * century - 1461 * leapCycle) / 365) 3 ≤ 365 := by omega
  have hnextYear : min ((dayOfEra - 36524 * century - 1461 * leapCycle) / 365) 3 ≤ 2 ->
      dayOfEra - 36524 * century - 1461 * leapCycle -
        365 * min ((dayOfEra - 36524 * century - 1461 * leapCycle) / 365) 3 < 365 := by omega
  generalize min ((dayOfEra - 36524 * century - 1461 * leapCycle) / 365) 3 = year at *
  refine ⟨era, century, leapCycle, year, hcentury, hcycle, hyear, rfl, ?_, hdayOfYear.1,
    hdayOfYear.2, hnextYear, ?_, ?_⟩
  · omega
  · intro hlast
    have hnext := hnextCentury hlast
    omega
  · omega

theorem marchDay_spec (z : Int) :
    marchStart (marchDay z).1 + (marchDay z).2 = z ∧ 0 ≤ (marchDay z).2 ∧
      (marchDay z).2 ≤ 365 := by
  rcases marchDay_parts z with
    ⟨era, century, leapCycle, year, hcentury, hcycle, hyear, hfirst, hsum, hlow, hhigh, _⟩
  rw [hfirst, marchStart_split era hcentury hcycle hyear]
  omega

theorem marchStart_succ (y : Int) :
    marchStart y + 365 ≤ marchStart (y + 1) ∧ marchStart (y + 1) ≤ marchStart y + 366 := by
  unfold marchStart
  omega

theorem daysFromCivil_civilFromDays (z : Int) : daysFromCivil (civilFromDays z) = z := by
  rcases marchDay_spec z with ⟨hday, hnonneg, hle⟩
  unfold daysFromCivil civilFromDays
  dsimp only
  obtain ⟨mp, hmp⟩ : exists mp, (5 * (marchDay z).2 + 2) / 153 = mp := ⟨_, rfl⟩
  have hrange : 0 ≤ mp ∧ mp ≤ 11 := by omega
  simp only [hmp]
  by_cases hsummer : mp < 10
  · have hsame : (mp + 3 + 9) % 12 = mp := by omega
    have hlate : Not (mp + 3 ≤ 2) := by omega
    simp only [if_pos hsummer, if_neg hlate, hsame]
    omega
  · have hsame : (mp - 9 + 9) % 12 = mp := by omega
    have hearly : mp - 9 ≤ 2 := by omega
    simp only [if_neg hsummer, if_pos hearly, hsame, Int.add_sub_cancel]
    omega

/-!
# The first day of a year
-/

theorem newYear_eq (year : Int) : newYear year = marchStart (year - 1) + 306 := by
  unfold newYear daysFromCivil daysBeforeMonth
  dsimp only
  rw [if_pos (by decide)]
  omega

theorem newYear_succ (year : Int) :
    newYear year + 365 ≤ newYear (year + 1) ∧ newYear (year + 1) ≤ newYear year + 366 := by
  have hsucc := marchStart_succ (year - 1)
  rw [newYear_eq, newYear_eq, Int.add_sub_cancel]
  rw [Int.sub_add_cancel] at hsucc
  omega

theorem newYear_mono {year year' : Int} (h : year ≤ year') : newYear year ≤ newYear year' := by
  rw [newYear_eq, newYear_eq]
  unfold marchStart
  omega

theorem newYear_le_day (z : Int) :
    newYear (civilFromDays z).year ≤ z ∧ z < newYear ((civilFromDays z).year + 1) := by
  rcases marchDay_spec z with ⟨hday, hnonneg, hle⟩
  rw [newYear_eq, newYear_eq, Int.add_sub_cancel]
  unfold civilFromDays
  dsimp only
  by_cases hmp : (5 * (marchDay z).2 + 2) / 153 < 10
  · have hlate : Not ((5 * (marchDay z).2 + 2) / 153 + 3 ≤ 2) := by omega
    simp only [if_pos hmp, if_neg hlate]
    have hsucc := marchStart_succ ((marchDay z).1 - 1)
    rw [Int.sub_add_cancel] at hsucc
    omega
  · have hearly : (5 * (marchDay z).2 + 2) / 153 - 9 ≤ 2 := by omega
    simp only [if_neg hmp, if_pos hearly, Int.add_sub_cancel]
    have hsucc := marchStart_succ (marchDay z).1
    omega

theorem year_eq {year z : Int} (hstart : newYear year ≤ z) (hend : z < newYear (year + 1)) :
    (civilFromDays z).year = year := by
  rcases newYear_le_day z with ⟨hle, hlt⟩
  by_cases hless : (civilFromDays z).year + 1 ≤ year
  · have hmono := newYear_mono hless
    omega
  · by_cases hmore : year + 1 ≤ (civilFromDays z).year
    · have hmono := newYear_mono hmore
      omega
    · omega

/-!
# The weekday of a week
-/

def monthStart (year month : Int) : Int := daysFromCivil ⟨year, month, 1⟩

def nextMonthStart (year month : Int) : Int :=
  if month = 12 then newYear (year + 1) else monthStart year (month + 1)

/-- The weekday in the first, second ... week of a month that has it; the fifth week stands
for the last one. -/
def weekdayOfMonth (year month week day : Int) : Int :=
  let start := monthStart year month
  let z := start + (day - weekday start) % 7 + 7 * (week - 1)
  if week = 5 ∧ nextMonthStart year month ≤ z then z - 7 else z

theorem monthStart_march (year : Int) :
    newYear year + 59 ≤ monthStart year 3 ∧ monthStart year 3 ≤ newYear year + 60 := by
  have hsucc := marchStart_succ (year - 1)
  rw [Int.sub_add_cancel] at hsucc
  rw [newYear_eq]
  unfold monthStart daysFromCivil daysBeforeMonth
  dsimp only
  rw [if_neg (by decide)]
  omega

theorem monthStart_november (year : Int) :
    monthStart year 11 = monthStart year 3 + 245 := by
  unfold monthStart daysFromCivil daysBeforeMonth
  dsimp only
  rw [if_neg (by decide), if_neg (by decide)]
  omega

theorem weekdayOfMonth_bounds (year month day : Int) {week : Int} (h : 1 ≤ week ∧ week ≤ 4) :
    monthStart year month + 7 * (week - 1) ≤ weekdayOfMonth year month week day ∧
      weekdayOfMonth year month week day ≤ monthStart year month + 7 * week - 1 := by
  unfold weekdayOfMonth
  dsimp only
  have hnot : Not (week = 5 ∧ nextMonthStart year month ≤
      monthStart year month + (day - weekday (monthStart year month)) % 7 + 7 * (week - 1)) := by
    omega
  rw [if_neg hnot]
  omega

/-- March 2026 begins on a Sunday. -/
example : weekdayOfMonth 2026 3 2 0 = daysFromCivil ⟨2026, 3, 8⟩ := by decide

end Calendar
end ServerComponents
