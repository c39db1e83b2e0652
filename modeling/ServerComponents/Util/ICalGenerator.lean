import ServerComponents.Text.Calendars

/-!
# Calendar documents

The generator of iCalendar documents for mails and feeds, and what a reader
gets back from them.
-/

namespace ServerComponents
namespace Util
namespace ICalGenerator

open Text.ContentLines

structure ICalConfig where
  prodId : Bytes
  uidDomain : Bytes
  calendarName : Bytes := []
  refreshInterval : Bytes := []

structure ICalEvent where
  title : Bytes := []
  startTimeUs : Int := 0
  endTimeUs : Int := 0
  location : Bytes := []
  description : Bytes := []
  uid : Bytes := []
  status : Bytes := []
  rrule : Bytes := []
  organizerEmail : Bytes := []
  organizerName : Bytes := []
  attendeeEmail : Bytes := []
  attendeeName : Bytes := []
  sequence : Bytes := ascii "0"
  floatingLocal : Bool := false

/-- The clock and the counter as one event reads them. -/
structure Moment where
  uidClock : Int
  uidCounter : Nat
  stampClock : Int

section Generator

-- The year, month and day of a day counted from the epoch, by the date library.
variable (civil : Int -> Int × Nat × Nat)

def padded (width : Nat) (number : Int) : Bytes :=
  List.replicate (width - (ascii (toString number)).length) 48 ++ ascii (toString number)

def formatUtcDateTime (microseconds : Int) : Bytes :=
  let days := microseconds / 86400000000
  let timeOfDay := microseconds % 86400000000
  let ymd := civil days
  padded 4 ymd.1 ++ padded 2 ymd.2.1 ++ padded 2 ymd.2.2 ++ ascii "T" ++
    padded 2 (timeOfDay / 3600000000) ++ padded 2 (timeOfDay / 60000000 % 60) ++
    padded 2 (timeOfDay / 1000000 % 60) ++ ascii "Z"

def formatFloatingDateTime (microseconds : Int) : Bytes :=
  let utc := formatUtcDateTime civil microseconds
  if utc.getLast? = some 90 then utc.dropLast else utc

def escapeICalText : Bytes -> Bytes
  | [] => []
  | c :: text =>
      (if c = 92 then [92, 92]
        else if c = 44 then [92, 44]
        else if c = 59 then [92, 59]
        else if c = 10 then [92, 110]
        else if c = 13 then []
        else [c]) ++ escapeICalText text

def syntheticUid (uidDomain : Bytes) (moment : Moment) : Bytes :=
  ascii "synthetic-" ++ ascii (toString moment.uidClock) ++ ascii "-" ++
    ascii (toString moment.uidCounter) ++ ascii "@" ++ uidDomain

def resolveUid (uid uidDomain : Bytes) (moment : Moment) : Bytes :=
  if uid ≠ [] then uid else syntheticUid uidDomain moment

def formatDateTime (event : ICalEvent) (microseconds : Int) : Bytes :=
  if event.floatingLocal then formatFloatingDateTime civil microseconds
  else formatUtcDateTime civil microseconds

/-- A line that is written when its field is not empty. -/
def unlessEmpty {α : Type} (field : Bytes) (items : List α) : List α :=
  if field ≠ [] then items else []

/-- The lines of an event, without their line breaks. -/
def eventLines (event : ICalEvent) (uidDomain : Bytes) (moment : Moment) : List Bytes :=
  [ascii "BEGIN:VEVENT",
    ascii "UID:" ++ resolveUid event.uid uidDomain moment,
    ascii "DTSTAMP:" ++ formatUtcDateTime civil moment.stampClock,
    ascii "SEQUENCE:" ++ (if event.sequence = [] then ascii "0" else event.sequence)] ++
  unlessEmpty event.status [ascii "STATUS:" ++ event.status] ++
  [ascii "DTSTART:" ++ formatDateTime civil event event.startTimeUs,
    ascii "DTEND:" ++ formatDateTime civil event event.endTimeUs,
    ascii "SUMMARY:" ++ escapeICalText event.title] ++
  unlessEmpty event.location [ascii "LOCATION:" ++ escapeICalText event.location] ++
  unlessEmpty event.description [ascii "DESCRIPTION:" ++ escapeICalText event.description] ++
  unlessEmpty event.rrule [ascii "RRULE:" ++ event.rrule] ++
  unlessEmpty event.organizerEmail
    [ascii "ORGANIZER;CN=" ++ escapeICalText event.organizerName ++ ascii ":mailto:" ++
      event.organizerEmail] ++
  unlessEmpty event.attendeeEmail
    [ascii "ATTENDEE;CN=" ++ escapeICalText event.attendeeName ++ ascii ";RSVP=FALSE:mailto:" ++
      event.attendeeEmail] ++
  [ascii "END:VEVENT"]

def emitVEvent (event : ICalEvent) (uidDomain : Bytes) (moment : Moment) : Bytes :=
  (eventLines civil event uidDomain moment).flatMap (· ++ crlf)

def headLines (config : ICalConfig) : List Bytes :=
  [ascii "BEGIN:VCALENDAR",
    ascii "VERSION:2.0",
    ascii "PRODID:" ++ config.prodId,
    ascii "CALSCALE:GREGORIAN",
    ascii "METHOD:PUBLISH"] ++
  unlessEmpty config.calendarName [ascii "X-WR-CALNAME:" ++ escapeICalText config.calendarName] ++
  unlessEmpty config.refreshInterval
    [ascii "REFRESH-INTERVAL;VALUE=DURATION:" ++ config.refreshInterval,
      ascii "X-PUBLISHED-TTL:" ++ config.refreshInterval]

/-!
## Folding
-/

def isContinuation (c : UInt8) : Bool :=
  c &&& 0xC0 == 0x80

def backOff (line : Bytes) : Nat -> Nat
  | 0 => 0
  | take + 1 => if isContinuation (line.getD (take + 1) 0) then backOff line take else take + 1

/-- How much of the rest of a line goes to the next segment. -/
def segmentLength (budget : Nat) (line : Bytes) : Nat :=
  let take := min budget line.length
  if take < line.length then
    if backOff line take = 0 then take else backOff line take
  else take

/-- The loop over the segments: the fuel is the number of bytes left. -/
def foldSegments : Nat -> Bool -> Bytes -> Bytes
  | 0, _, _ => []
  | fuel + 1, firstSegment, line =>
      if line = [] then []
      else
        let take := segmentLength (if firstSegment then 75 else 74) line
        (if firstSegment then [] else crlf ++ [32]) ++ line.take take ++
          foldSegments fuel false (line.drop take)

def foldLine (line : Bytes) : Bytes :=
  if line.length ≤ 75 then line else foldSegments line.length true line

/-- The lines that the loop over a document finds. What follows the last line break is one. -/
def splitCrlf : Bytes -> List Bytes
  | [] => []
  | 13 :: 10 :: rest => [] :: splitCrlf rest
  | c :: rest =>
      match splitCrlf rest with
      | [] => [[c]]
      | line :: lines => (c :: line) :: lines

def foldAll (raw : Bytes) : Bytes :=
  (splitCrlf raw).flatMap fun line => foldLine line ++ crlf

def generateImpl (events : List (ICalEvent × Moment)) (config : ICalConfig) : Bytes :=
  foldAll ((headLines config).flatMap (· ++ crlf) ++
    (events.flatMap fun event => emitVEvent civil event.1 config.uidDomain event.2) ++
    ascii "END:VCALENDAR" ++ crlf)

def generateICalendar (event : ICalEvent) (moment : Moment) (config : ICalConfig) : Bytes :=
  generateImpl civil [(event, moment)] config

end Generator

/-!
## Folding is undone by the reader
-/

theorem segmentLength_pos {budget : Nat} {line : Bytes} (hbudget : 0 < budget)
    (hline : line ≠ []) : 0 < segmentLength budget line := by
  have hlength := List.length_pos_iff.mpr hline
  unfold segmentLength
  dsimp only
  split
  · split
    · omega
    · omega
  · omega

theorem foldSegments_head (fuel : Nat) {line : Bytes} (hline : line ≠ []) :
    (foldSegments (fuel + 1) true line).head? = line.head? := by
  have hpos : 0 < segmentLength 75 line := segmentLength_pos (by decide) hline
  cases line with
  | nil => exact absurd rfl hline
  | cons c line =>
      obtain ⟨n, hn⟩ : exists n, segmentLength 75 (c :: line) = n + 1 :=
        ⟨_, (Nat.succ_pred_eq_of_pos hpos).symm⟩
      simp [foldSegments, hn]

theorem contentLines_foldSegments {fuel : Nat} {firstSegment : Bool} {line rest : Bytes}
    (hfuel : line.length ≤ fuel) (hline : hasCrlf line = false) (hrest : rest.head? ≠ some 10) :
    contentLines (foldSegments fuel firstSegment line ++ rest) =
      onFirst line (contentLines rest) := by
  induction fuel generalizing firstSegment line with
  | zero =>
      have hnil : line = [] := List.eq_nil_of_length_eq_zero (by omega)
      rw [hnil, onFirst_nil (contentLines_ne_nil rest)]
      rfl
  | succ fuel ih =>
      by_cases hnil : line = []
      · rw [hnil, onFirst_nil (contentLines_ne_nil rest)]
        rfl
      simp only [foldSegments, hnil, if_false]
      have hpos : 0 < segmentLength (if firstSegment then 75 else 74) line :=
        segmentLength_pos (by split <;> decide) hnil
      generalize segmentLength (if firstSegment then 75 else 74) line = take at hpos ⊢
      have hlength := List.length_pos_iff.mpr hnil
      have hsplit : line.take take ++ line.drop take = line := List.take_append_drop take line
      have hparts := hasCrlf_append (hsplit.symm ▸ hline)
      have hhead : (foldSegments fuel false (line.drop take) ++ rest).head? ≠ some 10 := by
        cases fuel with
        | zero => exact hrest
        | succ fuel =>
            by_cases hdrop : line.drop take = []
            · rw [hdrop]
              exact hrest
            · simp [foldSegments, hdrop, crlf]
      have htail := @ih false (line.drop take)
        (by rw [List.length_drop]; omega) hparts.2
      have hsegment : contentLines (line.take take ++
          (foldSegments fuel false (line.drop take) ++ rest)) =
            onFirst line (contentLines rest) := by
        rw [contentLines_append hparts.1 fun _ => hhead, htail, ← onFirst_append, hsplit]
      cases firstSegment with
      | true => simpa using hsegment
      | false => simpa [crlf, contentLines] using hsegment

theorem contentLines_foldLine {line rest : Bytes} (hline : hasCrlf line = false)
    (hrest : rest.head? ≠ some 10) :
    contentLines (foldLine line ++ rest) = onFirst line (contentLines rest) := by
  unfold foldLine
  split
  · exact contentLines_append hline fun _ => hrest
  · exact contentLines_foldSegments (Nat.le_refl _) hline hrest

theorem foldLine_head (line rest : Bytes) :
    (foldLine line ++ rest).head? = (line ++ rest).head? := by
  unfold foldLine
  split
  · rfl
  · rename_i hlong
    cases line with
    | nil => exact absurd (Nat.zero_le 75) hlong
    | cons c line =>
        have hhead := foldSegments_head line.length (List.cons_ne_nil c line)
        rw [List.head?_append, List.length_cons, hhead]
        rfl

theorem splitCrlf_head {raw line : Bytes} {lines : List Bytes} {c : UInt8}
    (h : splitCrlf raw = line :: lines) (hline : line.head? = some c) : raw.head? = some c := by
  fun_cases splitCrlf raw with
  | case1 => simp [splitCrlf] at h
  | case2 rest =>
      simp only [splitCrlf, List.cons.injEq] at h
      rw [← h.1] at hline
      exact absurd hline (by simp)
  | case3 d rest hbreak heq =>
      rw [splitCrlf, heq] at h
      · rw [← (List.cons.inj h).1] at hline
        exact hline
      · exact hbreak
  | case4 d rest hbreak first others heq =>
      rw [splitCrlf, heq] at h
      · rw [← (List.cons.inj h).1] at hline
        exact hline
      · exact hbreak

theorem hasCrlf_of_mem_splitCrlf (raw : Bytes) :
    forall line, line ∈ splitCrlf raw -> hasCrlf line = false := by
  fun_induction splitCrlf raw with
  | case1 =>
      intro line hline
      exact absurd hline List.not_mem_nil
  | case2 rest ih =>
      intro line hline
      rcases List.mem_cons.mp hline with rfl | hline
      · rfl
      · exact ih line hline
  | case3 c rest hbreak heq ih =>
      intro line hline
      rw [List.mem_singleton.mp hline]
      exact hasCrlf_cons.mpr ⟨by simp, rfl⟩
  | case4 c rest hbreak first others heq ih =>
      intro line hline
      rw [heq] at ih
      rcases List.mem_cons.mp hline with rfl | hline
      · refine hasCrlf_cons.mpr ⟨?_, ih first List.mem_cons_self⟩
        rintro ⟨rfl, hhead⟩
        have hrest := splitCrlf_head heq hhead
        cases rest with
        | nil => exact absurd hrest (by simp)
        | cons d rest =>
            simp only [List.head?_cons, Option.some.injEq] at hrest
            exact hbreak rest rfl (by rw [hrest])
      · exact ih line (List.mem_cons_of_mem first hline)

def EndsWithCrlf (raw : Bytes) : Prop :=
  raw = [] ∨ exists text, raw = text ++ crlf

theorem flatMap_splitCrlf {raw : Bytes} (h : EndsWithCrlf raw) :
    (splitCrlf raw).flatMap (· ++ crlf) = raw := by
  fun_induction splitCrlf raw with
  | case1 => rfl
  | case2 rest ih =>
      have hrest : EndsWithCrlf rest := by
        rcases h with h | ⟨text, htext⟩
        · cases h
        · match text, htext with
          | [], htext => exact Or.inl (by simpa [crlf] using htext)
          | [c], htext => simp [crlf] at htext
          | c :: d :: text, htext =>
              simp only [List.cons_append, List.cons.injEq] at htext
              exact Or.inr ⟨text, htext.2.2⟩
      rw [List.flatMap_cons, ih hrest]
      rfl
  | case3 c rest hbreak heq ih =>
      exfalso
      have hrest : exists text, rest = text ++ crlf := by
        rcases h with h | ⟨text, htext⟩
        · cases h
        · cases text with
          | nil =>
              simp only [crlf, List.nil_append, List.cons.injEq] at htext
              exact absurd htext.2 (hbreak [] htext.1)
          | cons d text => exact ⟨text, (List.cons.inj htext).2⟩
      have hback := ih (Or.inr hrest)
      rcases hrest with ⟨text, rfl⟩
      rw [heq] at hback
      exact absurd hback.symm (by simp [crlf])
  | case4 c rest hbreak first others heq ih =>
      have hrest : EndsWithCrlf rest := by
        rcases h with h | ⟨text, htext⟩
        · cases h
        · cases text with
          | nil =>
              simp only [crlf, List.nil_append, List.cons.injEq] at htext
              exact absurd htext.2 (hbreak [] htext.1)
          | cons d text => exact Or.inr ⟨text, (List.cons.inj htext).2⟩
      have hback := ih hrest
      rw [heq] at hback
      rw [← hback]
      rfl

theorem contentLines_foldAll {raw : Bytes} (h : EndsWithCrlf raw) :
    contentLines (foldAll raw) = contentLines raw := by
  have hlines := hasCrlf_of_mem_splitCrlf raw
  have hfolded : forall lines : List Bytes, (forall line, line ∈ lines -> hasCrlf line = false) ->
      contentLines (lines.flatMap fun line => foldLine line ++ crlf) =
          contentLines (lines.flatMap (· ++ crlf)) ∧
        (lines.flatMap fun line => foldLine line ++ crlf).head? =
          (lines.flatMap (· ++ crlf)).head? := by
    intro lines hall
    induction lines with
    | nil => exact ⟨rfl, rfl⟩
    | cons line lines ih =>
        rcases ih fun other hother => hall other (List.mem_cons_of_mem line hother) with
          ⟨hsame, hhead⟩
        have hline := hall line List.mem_cons_self
        have hstart : forall r : Bytes, (crlf ++ r).head? ≠ some 10 := fun r => by simp [crlf]
        simp only [List.flatMap_cons, List.append_assoc]
        refine ⟨?_, ?_⟩
        · rw [contentLines_foldLine hline (hstart _), contentLines_append hline fun _ => hstart _,
            contentLines_crlf hsame hhead]
        · rw [foldLine_head]
          cases line <;> rfl
  have hback := (hfolded (splitCrlf raw) hlines).1
  rw [flatMap_splitCrlf h] at hback
  exact hback

end ICalGenerator
end Util
end ServerComponents
