import ServerComponents.Text.JsonGrammar
import ServerComponents.Util.DateTimeUtil

/-!
# Formatted dates and times

The formatters of UTC round a moment down to a day.  The formatters of a zone first cut it
to whole seconds, towards 1970.
-/

namespace ServerComponents
namespace Util
namespace DateTimeUtil

open Calendar

def kMonthNames : List String :=
  ["January", "February", "March", "April", "May", "June", "July", "August", "September",
    "October", "November", "December"]

def dateText (year month day : Int) : String :=
  kMonthNames.getD (month - 1).toNat "" ++ " " ++ toString day ++ ", " ++ toString year

def minutesText (minutes : Int) : String :=
  (if minutes < 10 then "0" else "") ++ toString minutes

/-- The text of a time of day, in two halves of twelve hours. -/
def timeText (hours minutes : Int) : String :=
  let ampm := if 12 ≤ hours then " PM" else " AM"
  let shown := if 12 < hours then hours - 12 else hours
  let shown := if shown = 0 then 12 else shown
  toString shown ++ ":" ++ minutesText minutes ++ ampm

def formatDateFromMicroseconds (microseconds : Int) : String :=
  let ymd := yearMonthDay (microseconds / 86400000000)
  dateText ymd.year ymd.month ymd.day

def formatTimeFromMicroseconds (microseconds : Int) : String :=
  let timeOfDay := microseconds % 86400000000
  timeText (timeOfDay / 3600000000) (timeOfDay % 3600000000 / 60000000)

section Zones

variable (libc : LibC)

/-- `FormatDateFromMicroseconds` with a zone. -/
def formatDateInZone (microseconds : Int) (timezone : String) : TzM String := do
  if timezone = "" then pure (formatDateFromMicroseconds microseconds)
  else
    let localTm ← toLocalTm libc microseconds timezone
    pure (dateText (localTm.tm_year + 1900) (localTm.tm_mon + 1) localTm.tm_mday)

/-- `FormatTimeFromMicroseconds` with a zone. -/
def formatTimeInZone (microseconds : Int) (timezone : String) : TzM String := do
  if timezone = "" then pure (formatTimeFromMicroseconds microseconds)
  else
    let localTm ← toLocalTm libc microseconds timezone
    pure (timeText localTm.tm_hour localTm.tm_min)

/-- With the zone UTC, both formatters give what they give without a zone. -/
def FormatsAgree (microseconds : Int) : Prop :=
  forall tz, (formatDateInZone libc microseconds "UTC").run tz =
      (formatDateFromMicroseconds microseconds, tz) ∧
    (formatTimeInZone libc microseconds "UTC").run tz =
      (formatTimeFromMicroseconds microseconds, tz)

end Zones

/-- A moment before 1970 with less than a second to go to the next minute. -/
def LateInMinute (microseconds : Int) : Prop :=
  microseconds < 0 ∧ 59000000 < microseconds % 60000000

instance (microseconds : Int) : Decidable (LateInMinute microseconds) :=
  inferInstanceAs (Decidable (_ ∧ _))

/-!
# Different texts
-/

theorem minutesText_spec : forall m, m ∈ List.range 60 ->
    decimal (minutesText (m : Nat)).toList = m ∧ (minutesText (m : Nat)).length = 2 := by
  decide

theorem minutes_eq_of_timeText {h h' : Int} {m m' : Nat} (hm : m < 60) (hm' : m' < 60)
    (heq : timeText h m = timeText h' m') : m = m' := by
  have hspec := minutesText_spec m (List.mem_range.mpr hm)
  have hspec' := minutesText_spec m' (List.mem_range.mpr hm')
  have hampm : forall hours : Int, (if 12 ≤ hours then " PM" else " AM").length = 3 := by
    intro hours
    split <;> rfl
  have htext := congrArg String.toList heq
  unfold timeText at htext
  dsimp only at htext
  simp only [String.toList_append] at htext
  have hfront := (List.append_inj' htext (by
    rw [String.length_toList, String.length_toList, hampm, hampm])).1
  have hminutes := (List.append_inj' hfront (by
    rw [String.length_toList, String.length_toList, hspec.2, hspec'.2])).2
  rw [← hspec.1, ← hspec'.1, hminutes]

theorem year_eq_of_dateText {year year' month day : Int}
    (heq : dateText year month day = dateText year' month day) : year = year' := by
  have htext := congrArg String.toList heq
  unfold dateText at htext
  simp only [String.toList_append] at htext
  have hyear := List.append_cancel_left htext
  exact Text.JsonGrammar.toString_int_injective (String.toList_injective hyear)

/-!
# The zone UTC
-/

/-- The clock of UTC shows the seconds since 1970. -/
def utcZone : Zone where
  standard := 0
  summer := none

theorem parse_utc : parsePosixTz (ianaToPosixTz "UTC") = some utcZone := by
  decide

theorem tdiv_second (microseconds : Int) :
    (0 ≤ microseconds ∧ microseconds.tdiv 1000000 = microseconds / 1000000) ∨
      (microseconds < 0 ∧ microseconds.tdiv 1000000 = -(-microseconds / 1000000)) := by
  by_cases hepoch : 0 ≤ microseconds
  · exact Or.inl ⟨hepoch, Int.tdiv_eq_ediv_of_nonneg hepoch⟩
  · have hback : 0 ≤ -microseconds := by omega
    refine Or.inr ⟨by omega, ?_⟩
    rw [← Int.tdiv_eq_ediv_of_nonneg hback, Int.neg_tdiv, Int.neg_neg]

section Utc

variable (libc : LibC)

theorem run_toLocalTm_utc (microseconds : Int) (tz : Option String) :
    (toLocalTm libc microseconds "UTC").run tz =
      (localtime utcZone (microseconds.tdiv 1000000), tz) := by
  unfold toLocalTm
  exact run_withTz libc _ tz parse_utc

theorem run_formatDateInZone_utc (microseconds : Int) (tz : Option String) :
    (formatDateInZone libc microseconds "UTC").run tz =
      (dateText (civilFromDays (microseconds.tdiv 1000000 / 86400)).year
        (civilFromDays (microseconds.tdiv 1000000 / 86400)).month
        (civilFromDays (microseconds.tdiv 1000000 / 86400)).day, tz) := by
  have hrun := run_toLocalTm_utc libc microseconds tz
  unfold formatDateInZone
  rw [if_neg (by decide)]
  generalize toLocalTm libc microseconds "UTC" = call at hrun
  change (dateText ((call.run tz).1.tm_year + 1900) ((call.run tz).1.tm_mon + 1)
    (call.run tz).1.tm_mday, (call.run tz).2) = _
  rw [hrun]
  simp [localtime, Zone.clockAt, Zone.offsetAt, utcZone]

theorem run_formatTimeInZone_utc (microseconds : Int) (tz : Option String) :
    (formatTimeInZone libc microseconds "UTC").run tz =
      (timeText (microseconds.tdiv 1000000 % 86400 / 3600)
        (microseconds.tdiv 1000000 % 3600 / 60), tz) := by
  have hrun := run_toLocalTm_utc libc microseconds tz
  unfold formatTimeInZone
  rw [if_neg (by decide)]
  generalize toLocalTm libc microseconds "UTC" = call at hrun
  change (timeText (call.run tz).1.tm_hour (call.run tz).1.tm_min, (call.run tz).2) = _
  rw [hrun]
  simp [localtime, Zone.clockAt, Zone.offsetAt, utcZone]

/-- The formatters agree exactly on the moments of the held years that are not cut into
another minute. -/
theorem formatsAgree_iff (microseconds : Int) :
    FormatsAgree libc microseconds <->
      HasYear (microseconds / 86400000000) ∧ Not (LateInMinute microseconds) := by
  have hminutes : formatTimeFromMicroseconds microseconds =
      timeText (microseconds % 86400000000 / 3600000000)
        ((microseconds / 60000000 % 60).toNat : Int) := by
    have hsame : microseconds % 86400000000 % 3600000000 / 60000000 =
        ((microseconds / 60000000 % 60).toNat : Int) := by omega
    unfold formatTimeFromMicroseconds
    dsimp only
    rw [hsame]
  have hseconds := tdiv_second microseconds
  constructor
  · intro h
    rcases h none with ⟨hdate, htime⟩
    rw [run_formatDateInZone_utc] at hdate
    rw [run_formatTimeInZone_utc, hminutes] at htime
    generalize microseconds.tdiv 1000000 = seconds at hseconds hdate htime
    have hcut : Not (LateInMinute microseconds) := by
      intro hlate
      have hminute : seconds % 3600 / 60 = ((seconds / 60 % 60).toNat : Int) := by omega
      rw [hminute] at htime
      have heq := minutes_eq_of_timeText (by omega) (by omega) (Prod.mk.inj htime).1
      unfold LateInMinute at hlate
      omega
    refine ⟨?_, hcut⟩
    have hday : seconds / 86400 = microseconds / 86400000000 := by
      unfold LateInMinute at hcut
      omega
    rw [hday] at hdate
    have hyear := year_eq_of_dateText (Prod.mk.inj hdate).1
    unfold HasYear
    have hheld : toInt16 (civilFromDays (microseconds / 86400000000)).year =
        (civilFromDays (microseconds / 86400000000)).year := hyear.symm
    unfold toInt16 Int.bmod at hheld
    dsimp only at hheld
    split at hheld
    · omega
    · omega
  · intro h tz
    rcases h with ⟨hyear, hcut⟩
    unfold LateInMinute at hcut
    have hday : microseconds.tdiv 1000000 / 86400 = microseconds / 86400000000 := by omega
    have hhour : microseconds.tdiv 1000000 % 86400 / 3600 =
        microseconds % 86400000000 / 3600000000 := by omega
    have hminute : microseconds.tdiv 1000000 % 3600 / 60 =
        ((microseconds / 60000000 % 60).toNat : Int) := by omega
    constructor
    · rw [run_formatDateInZone_utc, hday]
      unfold formatDateFromMicroseconds
      rw [yearMonthDay_of_hasYear hyear]
    · rw [run_formatTimeInZone_utc, hminutes, hhour, hminute]

end Utc

/-- One microsecond before 1970 is shown as the first minute of 1970. -/
theorem beforeEpoch_notFormatsAgree : Not (FormatsAgree summerLibC (-1)) := by
  intro h
  have htime := (h none).2
  rw [run_formatTimeInZone_utc] at htime
  have heq : timeText 0 (0 : Nat) = timeText 23 (59 : Nat) := (Prod.mk.inj htime).1
  have hminutes := minutes_eq_of_timeText (by decide) (by decide) heq
  contradiction

end DateTimeUtil
end Util
end ServerComponents
