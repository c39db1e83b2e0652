import ServerComponents.Calendar.CivilDate

/-!
# Time zones with rules

A zone in the form of the `TZ` variable: an offset, and perhaps a second one with the rules that
say when it begins and ends each year.  Seconds are counted from 1 January 1970 in UTC, and on
the clock of a zone from the same date there.
-/

namespace ServerComponents
namespace Calendar

/-- `Mm.w.d/time`: a weekday of a month, and the seconds after its midnight. -/
structure ChangeRule where
  month : Int
  week : Int
  day : Int
  time : Int
  deriving Repr, DecidableEq

/-- The moment on the clock that is in force before it. -/
def ChangeRule.clock (rule : ChangeRule) (year : Int) : Int :=
  86400 * weekdayOfMonth year rule.month rule.week rule.day + rule.time

/-- Daylight saving time; offsets are what the clock is ahead of UTC. -/
structure Summer where
  offset : Int
  begins : ChangeRule
  ends : ChangeRule
  deriving Repr, DecidableEq

structure Zone where
  standard : Int
  summer : Option Summer
  deriving Repr, DecidableEq

namespace Zone

def beginsAt (zone : Zone) (s : Summer) (year : Int) : Int :=
  s.begins.clock year - zone.standard

def endsAt (s : Summer) (year : Int) : Int := s.ends.clock year - s.offset

/-- In the southern half of the world the year begins in summer. -/
def isSummer (zone : Zone) (s : Summer) (t : Int) : Bool :=
  let year := (civilFromDays (t / 86400)).year
  if zone.beginsAt s year < endsAt s year then
    decide (zone.beginsAt s year ≤ t ∧ t < endsAt s year)
  else ! decide (endsAt s year ≤ t ∧ t < zone.beginsAt s year)

def offsetAt (zone : Zone) (t : Int) : Int :=
  match zone.summer with
  | none => zone.standard
  | some s => if zone.isSummer s t then s.offset else zone.standard

def clockAt (zone : Zone) (t : Int) : Int := t + zone.offsetAt t

/-- A moment for a reading of the clock.  A reading that comes twice has two, and one that is
skipped is taken at either of the two offsets. -/
def Resolves (zone : Zone) (clock t : Int) : Prop :=
  zone.clockAt t = clock ∨
    ((forall t', zone.clockAt t' ≠ clock) ∧
      (t = clock - zone.standard ∨ exists s, zone.summer = some s ∧ t = clock - s.offset))

def resolve (zone : Zone) (clock : Int) : Int :=
  match zone.summer with
  | none => clock - zone.standard
  | some s =>
      if zone.isSummer s (clock - s.offset) then clock - s.offset else clock - zone.standard

/-- The clock is set forward by less than it is past midnight, and again back from less than it
is to midnight; both changes happen in this order within a year. -/
structure KeepsDays (zone : Zone) (s : Summer) : Prop where
  forward : zone.standard < s.offset
  afterMidnight : s.offset - zone.standard ≤ s.begins.time
  beforeMidnight : s.begins.time + 2 * (s.offset - zone.standard) ≤ 86400
  inYear : forall year,
    86400 * newYear year + (s.offset - zone.standard) ≤ zone.beginsAt s year ∧
      endsAt s year ≤ 86400 * newYear (year + 1)
  ordered : forall year, zone.beginsAt s year < endsAt s year

section Clock

variable {zone : Zone} {s : Summer}

theorem isSummer_iff (h : zone.KeepsDays s) {t : Int} :
    zone.isSummer s t = true <->
      zone.beginsAt s (civilFromDays (t / 86400)).year ≤ t ∧
        t < endsAt s (civilFromDays (t / 86400)).year := by
  unfold isSummer
  dsimp only
  rw [if_pos (h.ordered _), decide_eq_true_eq]

theorem begins_between (h : zone.KeepsDays s) {t : Int} (hsummer : zone.isSummer s t = true)
    (hbefore : zone.isSummer s (t - (s.offset - zone.standard)) = false) :
    exists year, t - (s.offset - zone.standard) < zone.beginsAt s year ∧
      zone.beginsAt s year ≤ t := by
  rcases (isSummer_iff h).mp hsummer with ⟨hbegins, hends⟩
  refine ⟨(civilFromDays (t / 86400)).year, ?_, hbegins⟩
  have hforward := h.forward
  rcases h.inYear (civilFromDays (t / 86400)).year with ⟨hstart, hend⟩
  have hyear : (civilFromDays ((t - (s.offset - zone.standard)) / 86400)).year =
      (civilFromDays (t / 86400)).year := by
    apply year_eq
    · omega
    · omega
  have hnot : Not (zone.isSummer s (t - (s.offset - zone.standard)) = true) := by
    rw [hbefore]
    exact Bool.false_ne_true
  rw [isSummer_iff h, hyear] at hnot
  omega

theorem skipped (h : zone.KeepsDays s) (hzone : zone.summer = some s) {clock : Int}
    (hskipped : forall t, zone.clockAt t ≠ clock) :
    zone.isSummer s (clock - zone.standard) = true ∧
      zone.isSummer s (clock - s.offset) = false ∧
        exists year, s.begins.clock year ≤ clock ∧
          clock < s.begins.clock year + (s.offset - zone.standard) := by
  have hlate : zone.isSummer s (clock - zone.standard) = true := by
    cases hsummer : zone.isSummer s (clock - zone.standard) with
    | true => rfl
    | false =>
        apply absurd _ (hskipped (clock - zone.standard))
        simp [clockAt, offsetAt, hzone, hsummer]
  have hearly : zone.isSummer s (clock - s.offset) = false := by
    cases hsummer : zone.isSummer s (clock - s.offset) with
    | false => rfl
    | true =>
        apply absurd _ (hskipped (clock - s.offset))
        simp [clockAt, offsetAt, hzone, hsummer]
  refine ⟨hlate, hearly, ?_⟩
  have hback : clock - zone.standard - (s.offset - zone.standard) = clock - s.offset := by omega
  rcases begins_between h hlate (by rw [hback]; exact hearly) with ⟨year, hbefore, hafter⟩
  refine ⟨year, ?_, ?_⟩
  · unfold beginsAt at hafter
    omega
  · unfold beginsAt at hbefore
    omega

theorem Resolves.sameDay (hkeeps : forall s, zone.summer = some s -> zone.KeepsDays s)
    {clock t : Int} (h : zone.Resolves clock t) : zone.clockAt t / 86400 = clock / 86400 := by
  rcases h with hexact | ⟨hskipped, htaken⟩
  · rw [hexact]
  · cases hzone : zone.summer with
    | none =>
        apply absurd _ (hskipped (clock - zone.standard))
        simp [clockAt, offsetAt, hzone]
    | some s =>
        have hs := hkeeps s hzone
        have hforward := hs.forward
        have hafter := hs.afterMidnight
        have hbefore := hs.beforeMidnight
        rcases skipped hs hzone hskipped with ⟨hlate, hearly, year, hbegins, hends⟩
        unfold ChangeRule.clock at hbegins hends
        rcases htaken with hstandard | ⟨s', hs', hsummer⟩
        · have hclock : zone.clockAt t = clock + (s.offset - zone.standard) := by
            rw [hstandard]
            simp only [clockAt, offsetAt, hzone, hlate, if_true]
            omega
          rw [hclock]
          omega
        · rw [hzone] at hs'
          cases hs'
          have hclock : zone.clockAt t = clock - (s.offset - zone.standard) := by
            rw [hsummer]
            simp only [clockAt, offsetAt, hzone, hearly]
            simp only [Bool.false_eq_true, if_false]
            omega
          rw [hclock]
          omega

theorem offsetAt_of_summer (hzone : zone.summer = some s) (t : Int) :
    zone.offsetAt t = if zone.isSummer s t then s.offset else zone.standard := by
  unfold offsetAt
  rw [hzone]

theorem resolves_resolve (zone : Zone) (clock : Int) :
    zone.Resolves clock (zone.resolve clock) := by
  unfold resolve
  cases hzone : zone.summer with
  | none =>
      left
      simp [clockAt, offsetAt, hzone]
  | some s =>
      dsimp only
      cases hearly : zone.isSummer s (clock - s.offset) with
      | true =>
          left
          simp [clockAt, offsetAt_of_summer hzone, hearly]
      | false =>
          simp only [Bool.false_eq_true, if_false]
          cases hlate : zone.isSummer s (clock - zone.standard) with
          | false =>
              left
              simp [clockAt, offsetAt_of_summer hzone, hlate]
          | true =>
              refine Or.inr ⟨?_, Or.inl rfl⟩
              intro t ht
              unfold clockAt at ht
              rw [offsetAt_of_summer hzone] at ht
              cases hsummer : zone.isSummer s t with
              | true =>
                  rw [hsummer, if_pos rfl] at ht
                  have heq : t = clock - s.offset := by omega
                  rw [heq, hearly] at hsummer
                  cases hsummer
              | false =>
                  rw [hsummer, if_neg Bool.false_ne_true] at ht
                  have heq : t = clock - zone.standard := by omega
                  rw [heq, hlate] at hsummer
                  cases hsummer

end Clock

end Zone

/-!
# The text of the variable

Names of letters, and rules by month, week and weekday.
-/

namespace TzText

def name (text : List Char) : Option (List Char) :=
  if 3 ≤ (text.takeWhile Char.isAlpha).length then some (text.dropWhile Char.isAlpha) else none

def number (text : List Char) : Option (Int × List Char) :=
  match text.takeWhile Char.isDigit with
  | [] => none
  | digits => some (digits.foldl (fun n c => 10 * n + ((c.toNat - '0'.toNat : Nat) : Int)) 0,
      text.dropWhile Char.isDigit)

def behind (c : Char) : List Char -> Option (List Char)
  | [] => none
  | first :: rest => if first = c then some rest else none

/-- `:number`, which may be missing. -/
def colonNumber (text : List Char) : Int × List Char :=
  match (behind ':' text).bind number with
  | some found => found
  | none => (0, text)

/-- `hh[:mm[:ss]]`, in seconds. -/
def time (text : List Char) : Option (Int × List Char) := do
  let (hours, text) ← number text
  let (minutes, text) := colonNumber text
  let (seconds, text) := colonNumber text
  pure (3600 * hours + 60 * minutes + seconds, text)

/-- A time with a sign; it counts to the west. -/
def offset : List Char -> Option (Int × List Char)
  | '-' :: text => (time text).map (fun found => (found.1, found.2))
  | '+' :: text => (time text).map (fun found => (- found.1, found.2))
  | text => (time text).map (fun found => (- found.1, found.2))

def rule (text : List Char) : Option (ChangeRule × List Char) := do
  let (month, text) ← number (← behind 'M' text)
  let (week, text) ← number (← behind '.' text)
  let (day, text) ← number (← behind '.' text)
  match behind '/' text with
  | none => pure ({ month := month, week := week, day := day, time := 7200 }, text)
  | some text => do
      let (seconds, text) ← time text
      pure ({ month := month, week := week, day := day, time := seconds }, text)

/-- Daylight saving time is one hour, unless its own offset is given. -/
def summer (standard : Int) (text : List Char) : Option Summer := do
  let text ← name text
  let (ahead, text) := (offset text).getD (standard + 3600, text)
  let (begins, text) ← rule (← behind ',' text)
  let (ends, text) ← rule (← behind ',' text)
  if text = [] then pure { offset := ahead, begins := begins, ends := ends } else none

end TzText

/-- The zone that the variable describes, if it is in this form. -/
def parsePosixTz (text : String) : Option Zone := do
  let (standard, rest) ← TzText.offset (← TzText.name text.toList)
  if rest = [] then pure { standard := standard, summer := none }
  else do
    let s ← TzText.summer standard rest
    pure { standard := standard, summer := some s }

/-- The zone of the east coast of North America. -/
example : parsePosixTz "EST5EDT,M3.2.0,M11.1.0/2" = some
    { standard := -18000
      summer := some
        { offset := -14400
          begins := { month := 3, week := 2, day := 0, time := 7200 }
          ends := { month := 11, week := 1, day := 0, time := 7200 } } } := by
  decide

end Calendar
end ServerComponents
