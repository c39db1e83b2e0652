import Mathlib.Logic.ExistsUnique
import ServerComponents.Calendar.Months
import ServerComponents.Util.DateTimeUtil

/-!
# The months of a timeline

The moments at which the months of UTC begin and end, in microseconds.  A year is held in
16 bits, so that the month behind the last one begins far in the past.
-/

namespace ServerComponents
namespace Util
namespace DateTimeUtil

open Calendar

def startOfMonthUs (year month : Int) : Int :=
  daysFromCivil ⟨toInt16 year, month, 1⟩ * 86400000000

def endOfMonthUs (year month : Int) : Int :=
  if month = 12 then startOfMonthUs (year + 1) 1 else startOfMonthUs year (month + 1)

def startOfContainingMonthUs (timestampUs : Int) : Int :=
  let ymd := yearMonthDay (timestampUs / 86400000000)
  startOfMonthUs ymd.year ymd.month

def endOfContainingMonthUs (timestampUs : Int) : Int :=
  let ymd := yearMonthDay (timestampUs / 86400000000)
  endOfMonthUs ymd.year ymd.month

/-- A month of a year that is held in 16 bits. -/
def IsMonth (year month : Int) : Prop :=
  (-32768 ≤ year ∧ year ≤ 32767) ∧ 1 ≤ month ∧ month ≤ 12

/-- A timestamp lies in one month, which ends where another one begins. -/
structure Tiled (timestampUs : Int) : Prop where
  inside : startOfContainingMonthUs timestampUs ≤ timestampUs ∧
    timestampUs < endOfContainingMonthUs timestampUs
  next : startOfContainingMonthUs (endOfContainingMonthUs timestampUs) =
    endOfContainingMonthUs timestampUs
  unique : ExistsUnique (fun yearMonth : Int × Int => IsMonth yearMonth.1 yearMonth.2 ∧
    startOfMonthUs yearMonth.1 yearMonth.2 ≤ timestampUs ∧
      timestampUs < endOfMonthUs yearMonth.1 yearMonth.2)

/-- The last month of the years that are held. -/
def LastMonth (year month : Int) : Prop := year = 32767 ∧ month = 12

theorem toInt16_of_fits {year : Int} (h : -32768 ≤ year ∧ year ≤ 32767) : toInt16 year = year := by
  unfold toInt16 Int.bmod
  dsimp only
  split
  · omega
  · omega

variable {year month : Int}

theorem startOfMonthUs_eq (h : IsMonth year month) :
    startOfMonthUs year month = monthStart year month * 86400000000 := by
  unfold startOfMonthUs
  rw [toInt16_of_fits h.1]
  rfl

theorem endOfMonthUs_eq (h : IsMonth year month) (hlast : Not (LastMonth year month)) :
    endOfMonthUs year month = nextMonthStart year month * 86400000000 := by
  unfold IsMonth at h
  unfold LastMonth at hlast
  unfold endOfMonthUs nextMonthStart
  split
  · rw [startOfMonthUs_eq (by unfold IsMonth; omega)]
    rfl
  · rw [startOfMonthUs_eq (by unfold IsMonth; omega)]

theorem endOfMonthUs_last (h : LastMonth year month) :
    endOfMonthUs year month = -1096225401600000000 := by
  rcases h with ⟨hyear, hmonth⟩
  subst hyear hmonth
  decide

theorem between_days {t first next : Int} :
    first * 86400000000 ≤ t ∧ t < next * 86400000000 <->
      first ≤ t / 86400000000 ∧ t / 86400000000 < next := by
  omega

theorem isMonth_of_hasYear {z : Int} (h : HasYear z) :
    IsMonth (civilFromDays z).year (civilFromDays z).month :=
  ⟨h, civilFromDays_month z⟩

theorem startOfContainingMonthUs_eq {t : Int} (h : HasYear (t / 86400000000)) :
    startOfContainingMonthUs t =
      startOfMonthUs (civilFromDays (t / 86400000000)).year
        (civilFromDays (t / 86400000000)).month := by
  unfold startOfContainingMonthUs
  rw [yearMonthDay_of_hasYear h]

theorem endOfContainingMonthUs_eq {t : Int} (h : HasYear (t / 86400000000)) :
    endOfContainingMonthUs t =
      endOfMonthUs (civilFromDays (t / 86400000000)).year
        (civilFromDays (t / 86400000000)).month := by
  unfold endOfContainingMonthUs
  rw [yearMonthDay_of_hasYear h]

theorem startOfContainingMonthUs_start (h : IsMonth year month) :
    startOfContainingMonthUs (startOfMonthUs year month) = startOfMonthUs year month := by
  have hday : startOfMonthUs year month / 86400000000 = monthStart year month := by
    rw [startOfMonthUs_eq h]
    omega
  have hnext := monthStart_lt_next year h.2
  rcases (mem_month_iff h.2).mp ⟨Int.le_refl _, hnext⟩ with ⟨hyear, hmonth⟩
  have hhas : HasYear (startOfMonthUs year month / 86400000000) := by
    unfold HasYear
    rw [hday, hyear]
    exact h.1
  rw [startOfContainingMonthUs_eq hhas, hday, hyear, hmonth]

theorem endOfMonthUs_start (h : IsMonth year month) (hlast : Not (LastMonth year month)) :
    exists year' month', IsMonth year' month' ∧
      endOfMonthUs year month = startOfMonthUs year' month' := by
  unfold IsMonth at h
  unfold LastMonth at hlast
  unfold endOfMonthUs
  split
  · exact ⟨year + 1, 1, by unfold IsMonth; omega, rfl⟩
  · exact ⟨year, month + 1, by unfold IsMonth; omega, rfl⟩

theorem mem_monthUs {t year month : Int} (h : IsMonth year month)
    (hlast : Not (LastMonth year month)) :
    startOfMonthUs year month ≤ t ∧ t < endOfMonthUs year month <->
      (civilFromDays (t / 86400000000)).year = year ∧
        (civilFromDays (t / 86400000000)).month = month := by
  rw [startOfMonthUs_eq h, endOfMonthUs_eq h hlast, between_days, mem_month_iff h.2]

theorem not_mem_lastMonth {t year month : Int} (hlast : LastMonth year month) :
    Not (startOfMonthUs year month ≤ t ∧ t < endOfMonthUs year month) := by
  rw [endOfMonthUs_last hlast]
  rcases hlast with ⟨hyear, hmonth⟩
  subst hyear hmonth
  have hstart : startOfMonthUs 32767 12 = 971888284800000000 := by decide
  omega

theorem tiled_iff {t : Int} (hyear : HasYear (t / 86400000000)) :
    Tiled t <-> Not (LastMonth (civilFromDays (t / 86400000000)).year
      (civilFromDays (t / 86400000000)).month) := by
  have hmonth := isMonth_of_hasYear hyear
  constructor
  · intro h hlast
    have hinside := h.inside
    rw [startOfContainingMonthUs_eq hyear, endOfContainingMonthUs_eq hyear] at hinside
    exact not_mem_lastMonth hlast hinside
  · intro hlast
    have hmem := (@mem_monthUs t _ _ hmonth hlast).mpr ⟨rfl, rfl⟩
    refine ⟨?_, ?_, ?_⟩
    · rw [startOfContainingMonthUs_eq hyear, endOfContainingMonthUs_eq hyear]
      exact hmem
    · rcases endOfMonthUs_start hmonth hlast with ⟨year', month', hmonth', hend⟩
      rw [endOfContainingMonthUs_eq hyear, hend, startOfContainingMonthUs_start hmonth']
    · refine ⟨(_, _), ⟨hmonth, hmem⟩, ?_⟩
      intro yearMonth h
      rcases h with ⟨hother, hin⟩
      have hnot : Not (LastMonth yearMonth.1 yearMonth.2) :=
        fun hlast' => not_mem_lastMonth hlast' hin
      rcases (mem_monthUs hother hnot).mp hin with ⟨hy, hm⟩
      exact Prod.ext hy.symm hm.symm

/-- The last microsecond before 1970. -/
theorem tiled_beforeEpoch : Tiled (-1) :=
  (@tiled_iff (-1) (by decide)).mpr (by unfold LastMonth; decide)

/-- The first moment of December 32767 comes behind the end of its month. -/
theorem december32767_notTiled :
    HasYear (971888284800000000 / 86400000000) ∧ Not (Tiled 971888284800000000) := by
  refine ⟨by decide, ?_⟩
  intro h
  have hend : Not ((971888284800000000 : Int) < endOfContainingMonthUs 971888284800000000) := by
    decide
  exact hend h.inside.2

end DateTimeUtil
end Util
end ServerComponents
