import ServerComponents.Basics
import ServerComponents.Calendar.PosixZone

/-!
# Calendar date tokens

A token is UTC midnight of a date and stands for the date itself.  The conversions set the `TZ`
variable of the process, ask libc, and put the variable back.
-/

namespace ServerComponents
namespace Util
namespace DateTimeUtil

open Calendar

abbrev TzM (a : Type) := StateM (Option String) a

structure Tm where
  tm_year : Int
  tm_mon : Int
  tm_mday : Int
  tm_hour : Int
  tm_min : Int
  tm_sec : Int
  tm_isdst : Int
  deriving Repr, DecidableEq

/-- The reading of the clock that the fields stand for, also when they are out of range. -/
def Tm.clock (tm : Tm) : Int :=
  86400 * daysFromCivil ⟨tm.tm_year + 1900, tm.tm_mon + 1, tm.tm_mday⟩ +
    3600 * tm.tm_hour + 60 * tm.tm_min + tm.tm_sec

/-- What libc decides: the zone when the variable does not describe one, and the moment that
it finds for a reading. -/
structure LibC where
  otherZone : Option String -> Zone
  mktime : Zone -> Tm -> Int

namespace LibC

def zone (libc : LibC) (tz : Option String) : Zone :=
  (tz.bind parsePosixTz).getD (libc.otherZone tz)

/-- Left to find out about daylight saving time, `mktime` follows the rules of the zone. -/
def FollowsRules (libc : LibC) : Prop :=
  forall (zone : Zone) (tm : Tm), tm.tm_isdst = -1 -> zone.Resolves tm.clock (libc.mktime zone tm)

end LibC

def localtime (zone : Zone) (t : Int) : Tm :=
  let clock := zone.clockAt t
  let date := civilFromDays (clock / 86400)
  { tm_year := date.year - 1900
    tm_mon := date.month - 1
    tm_mday := date.day
    tm_hour := clock % 86400 / 3600
    tm_min := clock % 3600 / 60
    tm_sec := clock % 60
    tm_isdst := if zone.offsetAt t = zone.standard then 0 else 1 }

/-- `date::year` holds 16 bits. -/
def toInt16 (v : Int) : Int := Int.bmod v 65536

def yearMonthDay (z : Int) : CivilDate :=
  { civilFromDays z with year := toInt16 (civilFromDays z).year }

def ianaToPosixTz (iana : String) : String :=
  if iana = "America/Los_Angeles" then "PST8PDT,M3.2.0,M11.1.0"
  else if iana = "America/Denver" then "MST7MDT,M3.2.0,M11.1.0"
  else if iana = "America/Chicago" then "CST6CDT,M3.2.0,M11.1.0"
  else if iana = "America/New_York" then "EST5EDT,M3.2.0,M11.1.0"
  else if iana = "America/Phoenix" then "MST7"
  else if iana = "America/Anchorage" then "AKST9AKDT,M3.2.0,M11.1.0"
  else if iana = "Pacific/Honolulu" then "HST10"
  else if iana = "US/Pacific" then "PST8PDT,M3.2.0,M11.1.0"
  else if iana = "US/Mountain" then "MST7MDT,M3.2.0,M11.1.0"
  else if iana = "US/Central" then "CST6CDT,M3.2.0,M11.1.0"
  else if iana = "US/Eastern" then "EST5EDT,M3.2.0,M11.1.0"
  else if iana = "UTC" ∨ iana = "Etc/UTC" then "UTC0"
  else iana

def mappedZones : List String :=
  ["America/Los_Angeles", "America/Denver", "America/Chicago", "America/New_York",
    "America/Phoenix", "America/Anchorage", "Pacific/Honolulu", "US/Pacific", "US/Mountain",
    "US/Central", "US/Eastern", "UTC", "Etc/UTC"]

section Conversions

variable (libc : LibC)

/-- A call with the variable set, which is then restored or unset. -/
def withTz {a : Type} (posixTz : String) (call : Zone -> a) : TzM a := do
  let prevTz ← get
  set (some posixTz)
  let tz ← get
  set prevTz
  pure (call (libc.zone tz))

def toLocalTm (microseconds : Int) (timezone : String) : TzM Tm :=
  withTz libc (ianaToPosixTz timezone) (fun zone =>
    localtime zone (microseconds.tdiv 1000000))

def localTmToUs (localTm : Tm) (timezone : String) : TzM Int := do
  let epoch ← withTz libc (ianaToPosixTz timezone) (fun zone => libc.mktime zone localTm)
  pure (epoch * 1000000)

def calendarDateWallClockToUs (dateTokenUs minutesAfterMidnight : Int) (timezone : String) :
    TzM Int :=
  let ymd := yearMonthDay (dateTokenUs / 86400000000)
  localTmToUs libc
    { tm_year := ymd.year - 1900
      tm_mon := ymd.month - 1
      tm_mday := ymd.day
      tm_hour := minutesAfterMidnight.tdiv 60
      tm_min := minutesAfterMidnight.tmod 60
      tm_sec := 0
      tm_isdst := -1 }
    timezone

def localDateTokenUs (timestampUs : Int) (timezone : String) : TzM Int := do
  let localTm ← toLocalTm libc timestampUs timezone
  pure (daysFromCivil
    ⟨toInt16 (localTm.tm_year + 1900), localTm.tm_mon + 1, localTm.tm_mday⟩ * 86400000000)

def dateToken (z : Int) : Int := z * 86400000000

/-- There and back, each way from what the variable is at that time, and it stays so. -/
def RoundTrips (z minutesAfterMidnight : Int) (timezone : String) : Prop :=
  forall tz tz', exists us,
    (calendarDateWallClockToUs libc (dateToken z) minutesAfterMidnight timezone).run tz =
        (us, tz) ∧
      (localDateTokenUs libc us timezone).run tz' = (dateToken z, tz')

end Conversions

/-!
# The mapped zones
-/

/-- From the second Sunday in March to the first Sunday in November. -/
def americanSummer (hours : Int) : Summer where
  offset := 3600 - 3600 * hours
  begins := { month := 3, week := 2, day := 0, time := 7200 }
  ends := { month := 11, week := 1, day := 0, time := 7200 }

def americanZone (hours : Int) (summer : Bool) : Zone where
  standard := - (3600 * hours)
  summer := if summer then some (americanSummer hours) else none

theorem keepsDays_american {hours : Int} (h : 0 ≤ hours ∧ hours ≤ 10) {summer : Bool}
    {s : Summer} (hs : (americanZone hours summer).summer = some s) :
    (americanZone hours summer).KeepsDays s := by
  have heq : s = americanSummer hours := by
    cases summer with
    | false => cases hs
    | true =>
        cases hs
        rfl
  have hbegins : forall year, 86400 * (newYear year + 66) ≤
        (americanZone hours summer).beginsAt (americanSummer hours) year ∧
      (americanZone hours summer).beginsAt (americanSummer hours) year ≤
        86400 * (newYear year + 75) := by
    intro year
    have hmarch := monthStart_march year
    have hweek := @weekdayOfMonth_bounds year 3 0 2 (by decide)
    change _ ≤ 86400 * weekdayOfMonth year 3 2 0 + 7200 - - (3600 * hours) ∧
      86400 * weekdayOfMonth year 3 2 0 + 7200 - - (3600 * hours) ≤ _
    omega
  have hends : forall year, 86400 * (newYear year + 304) ≤
        Zone.endsAt (americanSummer hours) year ∧
      Zone.endsAt (americanSummer hours) year ≤ 86400 * (newYear year + 320) := by
    intro year
    have hmarch := monthStart_march year
    have hnovember := monthStart_november year
    have hweek := @weekdayOfMonth_bounds year 11 0 1 (by decide)
    change _ ≤ 86400 * weekdayOfMonth year 11 1 0 + 7200 - (3600 - 3600 * hours) ∧
      86400 * weekdayOfMonth year 11 1 0 + 7200 - (3600 - 3600 * hours) ≤ _
    omega
  have hsaving : (americanSummer hours).offset - (americanZone hours summer).standard =
      3600 := by
    change 3600 - 3600 * hours - - (3600 * hours) = 3600
    omega
  have htime : (americanSummer hours).begins.time = 7200 := rfl
  rw [heq]
  constructor
  · omega
  · rw [hsaving, htime]
    decide
  · rw [hsaving, htime]
    decide
  · intro year
    have hyear := newYear_succ year
    have hb := hbegins year
    have he := hends year
    omega
  · intro year
    have hb := hbegins year
    have he := hends year
    omega

theorem parse_mapped {timezone : String} (h : timezone ∈ mappedZones) :
    exists hours summer, (0 ≤ hours ∧ hours ≤ 10) ∧
      parsePosixTz (ianaToPosixTz timezone) = some (americanZone hours summer) := by
  have hall : forall name, name ∈ mappedZones ->
      exists hours, hours ∈ ([0, 5, 6, 7, 8, 9, 10] : List Int) ∧
        exists summer : Bool,
          parsePosixTz (ianaToPosixTz name) = some (americanZone hours summer) := by
    decide
  rcases hall timezone h with ⟨hours, hmem, summer, hparse⟩
  refine ⟨hours, summer, ?_, hparse⟩
  simp only [List.mem_cons, List.not_mem_nil, or_false] at hmem
  omega

/-!
# There and back
-/

section Tokens

variable {libc : LibC} {timezone : String}

theorem zone_mapped {zone : Zone} (h : parsePosixTz (ianaToPosixTz timezone) = some zone) :
    libc.zone (some (ianaToPosixTz timezone)) = zone := by
  unfold LibC.zone
  rw [Option.bind_some, h, Option.getD_some]

variable (libc) in
theorem run_withTz {a : Type} {zone : Zone} (call : Zone -> a) (tz : Option String)
    (h : parsePosixTz (ianaToPosixTz timezone) = some zone) :
    (withTz libc (ianaToPosixTz timezone) call).run tz = (call zone, tz) := by
  change (call (libc.zone (some (ianaToPosixTz timezone))), tz) = _
  rw [zone_mapped h]

/-- The year of the day fits into `date::year`. -/
def HasYear (z : Int) : Prop :=
  -32768 ≤ (civilFromDays z).year ∧ (civilFromDays z).year ≤ 32767

instance (z : Int) : Decidable (HasYear z) := inferInstanceAs (Decidable (_ ∧ _))

theorem toInt16_of_hasYear {z : Int} (h : HasYear z) :
    toInt16 (civilFromDays z).year = (civilFromDays z).year := by
  rcases h with ⟨hmin, hmax⟩
  unfold toInt16 Int.bmod
  dsimp only
  split
  · omega
  · omega

theorem dateToken_div (z : Int) : dateToken z / 86400000000 = z := by
  unfold dateToken
  omega

theorem yearMonthDay_of_hasYear {z : Int} (h : HasYear z) : yearMonthDay z = civilFromDays z := by
  unfold yearMonthDay
  rw [toInt16_of_hasYear h]

theorem run_calendarDateWallClockToUs {zone : Zone}
    (hzone : parsePosixTz (ianaToPosixTz timezone) = some zone) (hlibc : libc.FollowsRules)
    {z minutes : Int} (hyear : HasYear z) (tz : Option String) :
    exists t, (calendarDateWallClockToUs libc (dateToken z) minutes timezone).run tz =
        (t * 1000000, tz) ∧
      zone.Resolves (86400 * z + 60 * minutes) t := by
  unfold calendarDateWallClockToUs
  rw [dateToken_div, yearMonthDay_of_hasYear hyear]
  dsimp only
  generalize htm : Tm.mk ((civilFromDays z).year - 1900) ((civilFromDays z).month - 1)
    (civilFromDays z).day (minutes.tdiv 60) (minutes.tmod 60) 0 (-1) = tm
  have hclock : tm.clock = 86400 * z + 60 * minutes := by
    rw [← htm]
    unfold Tm.clock
    dsimp only
    have hsame := Int.mul_tdiv_add_tmod minutes 60
    rw [Int.sub_add_cancel, Int.sub_add_cancel]
    change 86400 * daysFromCivil (civilFromDays z) + _ + _ + _ = _
    rw [daysFromCivil_civilFromDays]
    omega
  refine ⟨libc.mktime zone tm, ?_, ?_⟩
  · have hrun := run_withTz libc (fun zone => libc.mktime zone tm) tz hzone
    generalize hcall : withTz libc (ianaToPosixTz timezone)
      (fun zone => libc.mktime zone tm) = call at hrun
    unfold localTmToUs
    rw [hcall]
    change ((call.run tz).1 * 1000000, (call.run tz).2) = _
    rw [hrun]
  · rw [← hclock]
    apply hlibc
    rw [← htm]

theorem run_localDateTokenUs {zone : Zone}
    (hzone : parsePosixTz (ianaToPosixTz timezone) = some zone) {z t : Int}
    (hyear : HasYear z) (hday : zone.clockAt t / 86400 = z) (tz : Option String) :
    (localDateTokenUs libc (t * 1000000) timezone).run tz = (dateToken z, tz) := by
  have hrun : (toLocalTm libc (t * 1000000) timezone).run tz = (localtime zone t, tz) := by
    unfold toLocalTm
    rw [run_withTz libc _ tz hzone, Int.mul_tdiv_cancel _ (by decide)]
  have hdate : daysFromCivil ⟨toInt16 ((localtime zone t).tm_year + 1900),
      (localtime zone t).tm_mon + 1, (localtime zone t).tm_mday⟩ = z := by
    unfold localtime
    dsimp only
    rw [hday, Int.sub_add_cancel, Int.sub_add_cancel, toInt16_of_hasYear hyear]
    exact daysFromCivil_civilFromDays z
  unfold localDateTokenUs
  generalize toLocalTm libc (t * 1000000) timezone = call at hrun
  change (daysFromCivil ⟨toInt16 ((call.run tz).1.tm_year + 1900), (call.run tz).1.tm_mon + 1,
    (call.run tz).1.tm_mday⟩ * 86400000000, (call.run tz).2) = _
  rw [hrun, hdate]
  rfl

theorem roundTrips_token (hlibc : libc.FollowsRules) (htimezone : timezone ∈ mappedZones)
    {z minutes : Int} (hyear : HasYear z) (hminutes : 0 ≤ minutes ∧ minutes ≤ 1439) :
    RoundTrips libc z minutes timezone := by
  intro tz tz'
  rcases parse_mapped htimezone with ⟨hours, summer, hhours, hzone⟩
  rcases run_calendarDateWallClockToUs hzone hlibc hyear tz with ⟨t, hrun, ht⟩
  refine ⟨t * 1000000, hrun, run_localDateTokenUs hzone hyear ?_ tz'⟩
  rw [ht.sameDay (fun s hs => keepsDays_american hhours hs)]
  omega

end Tokens

/-- Where there are two moments, the one in summer. -/
def summerLibC : LibC where
  otherZone := fun _ => { standard := 0, summer := none }
  mktime := fun zone tm => zone.resolve tm.clock

theorem summerLibC_followsRules : summerLibC.FollowsRules :=
  fun zone tm _ => zone.resolves_resolve tm.clock

/-- Half past two in the night in which the clock skips it. -/
theorem roundTrips_skippedHour :
    RoundTrips summerLibC (daysFromCivil ⟨2026, 3, 8⟩) 150 "America/Los_Angeles" :=
  roundTrips_token summerLibC_followsRules (by decide) (by decide) (by decide)

/-- A year of more than 16 bits comes back as another one. -/
theorem farYear_otherToken :
    summerLibC.FollowsRules ∧
      Not (RoundTrips summerLibC (daysFromCivil ⟨40000, 1, 1⟩) 0 "UTC") := by
  refine ⟨summerLibC_followsRules, ?_⟩
  intro h
  rcases h none none with ⟨us, hus, hback⟩
  have hvalue : @Eq Int us ((calendarDateWallClockToUs summerLibC
      (dateToken (daysFromCivil ⟨40000, 1, 1⟩)) 0 "UTC").run none).1 :=
    (congrArg Prod.fst hus).symm
  have hdate : @Eq Int ((localDateTokenUs summerLibC us "UTC").run none).1
      (dateToken (daysFromCivil ⟨40000, 1, 1⟩)) := congrArg Prod.fst hback
  rw [hvalue] at hdate
  revert hdate
  decide

end DateTimeUtil
end Util
end ServerComponents
