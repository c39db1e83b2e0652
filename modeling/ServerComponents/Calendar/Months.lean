import ServerComponents.Calendar.CivilDate

/-!
# Months

The months of the calendar follow each other without a gap, so that every day lies in one
month.  In the years of the computation, which begin in March, a month is given by the
number of days before it.
-/

namespace ServerComponents
namespace Calendar

theorem marchDay_lt (z : Int) : z < marchStart ((marchDay z).1 + 1) := by
  rcases marchDay_parts z with ⟨era, century, leapCycle, year, hcentury, hcycle, hyear, hfirst,
    hsum, _, _, hnextYear, hnextCentury, hnextEra⟩
  rw [hfirst]
  clear hfirst
  generalize (marchDay z).2 = day at *
  by_cases hlastYear : year ≤ 2
  · have hnext := @marchStart_split era century leapCycle (year + 1) hcentury hcycle (by omega)
    rw [← Int.add_assoc] at hnext
    omega
  · by_cases hlastCycle : leapCycle ≤ 23
    · have hnext := @marchStart_split era century (leapCycle + 1) 0 hcentury (by omega) (by decide)
      have hyears : 400 * era + 100 * century + 4 * leapCycle + year + 1 =
          400 * era + 100 * century + 4 * (leapCycle + 1) + 0 := by omega
      rw [hyears]
      omega
    · by_cases hlastCentury : century ≤ 2
      · have hnext := @marchStart_split era (century + 1) 0 0 (by omega) (by decide) (by decide)
        have hyears : 400 * era + 100 * century + 4 * leapCycle + year + 1 =
            400 * era + 100 * (century + 1) + 4 * 0 + 0 := by omega
        rw [hyears]
        omega
      · have hnext := @marchStart_split (era + 1) 0 0 0 (by decide) (by decide) (by decide)
        have hyears : 400 * era + 100 * century + 4 * leapCycle + year + 1 =
            400 * (era + 1) + 100 * 0 + 4 * 0 + 0 := by omega
        rw [hyears]
        omega

theorem marchStart_mono {y y' : Int} (h : y ≤ y') : marchStart y ≤ marchStart y' := by
  unfold marchStart
  omega

theorem marchDay_eq {y z : Int} (hstart : marchStart y ≤ z) (hend : z < marchStart (y + 1)) :
    marchDay z = (y, z - marchStart y) := by
  rcases marchDay_spec z with ⟨hday, hnonneg, _⟩
  have hlt := marchDay_lt z
  have hyear : (marchDay z).1 = y := by
    by_cases hless : (marchDay z).1 + 1 ≤ y
    · have hmono := marchStart_mono hless
      omega
    · by_cases hmore : y + 1 ≤ (marchDay z).1
      · have hmono := marchStart_mono hmore
        omega
      · omega
  rw [hyear] at hday
  exact Prod.ext hyear (by dsimp only; omega)

/-!
# The months of a year that begins in March
-/

/-- The first day of such a month, counted from 0 for March. -/
def marchMonth (y mp : Int) : Int := marchStart y + daysBeforeMonth mp

def marchMonthEnd (y mp : Int) : Int :=
  if mp = 11 then marchStart (y + 1) else marchMonth y (mp + 1)

theorem monthStart_late {year month : Int} (h : 3 ≤ month ∧ month ≤ 12) :
    monthStart year month = marchMonth year (month - 3) := by
  have hmonth : (month + 9) % 12 = month - 3 := by omega
  have hlate : Not (month ≤ 2) := by omega
  unfold monthStart daysFromCivil marchMonth
  dsimp only
  rw [if_neg hlate, hmonth]
  omega

theorem monthStart_early {year month : Int} (h : 1 ≤ month ∧ month ≤ 2) :
    monthStart year month = marchMonth (year - 1) (month + 9) := by
  have hmonth : (month + 9) % 12 = month + 9 := by omega
  unfold monthStart daysFromCivil marchMonth
  dsimp only
  rw [if_pos h.2, hmonth]
  omega

theorem nextMonthStart_late {year month : Int} (h : 3 ≤ month ∧ month ≤ 12) :
    nextMonthStart year month = marchMonthEnd year (month - 3) := by
  have hinner : Not (month - 3 = 11) := by omega
  unfold nextMonthStart marchMonthEnd
  rw [if_neg hinner]
  by_cases hlast : month = 12
  · rw [if_pos hlast, hlast]
    have hjanuary := @monthStart_early (year + 1) 1 (by decide)
    rw [Int.add_sub_cancel] at hjanuary
    exact hjanuary
  · rw [if_neg hlast, monthStart_late (by omega)]
    congr 1
    omega

theorem nextMonthStart_early {year month : Int} (h : 1 ≤ month ∧ month ≤ 2) :
    nextMonthStart year month = marchMonthEnd (year - 1) (month + 9) := by
  have hnotLast : Not (month = 12) := by omega
  unfold nextMonthStart marchMonthEnd
  rw [if_neg hnotLast]
  by_cases hfebruary : month = 2
  · rw [hfebruary, if_pos (by decide), monthStart_late (by decide), Int.sub_add_cancel]
    unfold marchMonth daysBeforeMonth
    omega
  · rw [if_neg (by omega), monthStart_early (by omega)]
    congr 1
    omega

theorem mem_marchMonth {y mp z : Int} (hmp : 0 ≤ mp ∧ mp ≤ 11) :
    marchMonth y mp ≤ z ∧ z < marchMonthEnd y mp <->
      (marchDay z).1 = y ∧ (5 * (marchDay z).2 + 2) / 153 = mp := by
  constructor
  · intro h
    have hstart : marchStart y ≤ z := by
      unfold marchMonth daysBeforeMonth at h
      omega
    have hend : z < marchStart (y + 1) := by
      have hsucc := marchStart_succ y
      unfold marchMonthEnd marchMonth daysBeforeMonth at h
      split at h
      · exact h.2
      · omega
    rw [marchDay_eq hstart hend]
    refine ⟨rfl, ?_⟩
    have hsucc := marchStart_succ y
    unfold marchMonthEnd marchMonth daysBeforeMonth at h
    dsimp only
    split at h
    · omega
    · omega
  · intro h
    rcases h with ⟨hy, hmonth⟩
    rcases marchDay_spec z with ⟨hday, hnonneg, _⟩
    have hlt := marchDay_lt z
    rw [hy] at hday hlt
    unfold marchMonthEnd marchMonth daysBeforeMonth
    constructor
    · omega
    · split
      · exact hlt
      · omega

/-!
# The months of a civil year
-/

theorem civilFromDays_month (z : Int) :
    1 ≤ (civilFromDays z).month ∧ (civilFromDays z).month ≤ 12 := by
  rcases marchDay_spec z with ⟨_, hnonneg, hle⟩
  unfold civilFromDays
  dsimp only
  split
  · omega
  · omega

theorem civilFromDays_eq_iff {z year month : Int} (h : 1 ≤ month ∧ month ≤ 12) :
    (civilFromDays z).year = year ∧ (civilFromDays z).month = month <->
      if month ≤ 2 then
        (marchDay z).1 = year - 1 ∧ (5 * (marchDay z).2 + 2) / 153 = month + 9
      else (marchDay z).1 = year ∧ (5 * (marchDay z).2 + 2) / 153 = month - 3 := by
  rcases marchDay_spec z with ⟨_, hnonneg, hle⟩
  unfold civilFromDays
  dsimp only
  have hrange : 0 ≤ (5 * (marchDay z).2 + 2) / 153 ∧ (5 * (marchDay z).2 + 2) / 153 ≤ 11 := by
    omega
  generalize (5 * (marchDay z).2 + 2) / 153 = mp at *
  by_cases hsummer : mp < 10
  · have hlate : Not (mp + 3 ≤ 2) := by omega
    rw [if_pos hsummer, if_neg hlate]
    split
    · omega
    · omega
  · rw [if_neg hsummer]
    split
    · split
      · omega
      · omega
    · split
      · omega
      · omega

theorem mem_month_iff {z year month : Int} (h : 1 ≤ month ∧ month ≤ 12) :
    monthStart year month ≤ z ∧ z < nextMonthStart year month <->
      (civilFromDays z).year = year ∧ (civilFromDays z).month = month := by
  rw [civilFromDays_eq_iff h]
  by_cases hearly : month ≤ 2
  · rw [if_pos hearly, monthStart_early ⟨h.1, hearly⟩, nextMonthStart_early ⟨h.1, hearly⟩]
    exact mem_marchMonth (by omega)
  · rw [if_neg hearly, monthStart_late (by omega), nextMonthStart_late (by omega)]
    exact mem_marchMonth (by omega)

theorem monthStart_lt_next (year : Int) {month : Int} (h : 1 ≤ month ∧ month ≤ 12) :
    monthStart year month < nextMonthStart year month := by
  have hmarch : forall y mp : Int, 0 ≤ mp ∧ mp ≤ 11 -> marchMonth y mp < marchMonthEnd y mp := by
    intro y mp hmp
    have hsucc := marchStart_succ y
    unfold marchMonthEnd marchMonth daysBeforeMonth
    split
    · omega
    · omega
  by_cases hearly : month ≤ 2
  · rw [monthStart_early ⟨h.1, hearly⟩, nextMonthStart_early ⟨h.1, hearly⟩]
    exact hmarch _ _ (by omega)
  · rw [monthStart_late (by omega), nextMonthStart_late (by omega)]
    exact hmarch _ _ (by omega)

/-- 1900 had no leap day, and 2000 had one. -/
example : nextMonthStart 1900 2 - monthStart 1900 2 = 28 ∧
    nextMonthStart 2000 2 - monthStart 2000 2 = 29 := by decide

end Calendar
end ServerComponents
