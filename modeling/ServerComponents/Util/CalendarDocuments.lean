import ServerComponents.Text.JsonGrammar
import ServerComponents.Util.ICalGenerator

/-!
# Calendar documents that read back

A document reads back as the calendar it was made of exactly when every field
suits the way it is written: escaped texts lose carriage returns, raw fields
must not break a line, and the name of a person stands bare in a parameter.
-/

namespace ServerComponents
namespace Util
namespace ICalGenerator

open Text.ContentLines

/-!
## Escaped texts
-/

theorem mem_escapeICalText {c : UInt8} {text : Bytes} (h : c ∈ escapeICalText text) :
    c ∈ text ∧ c ≠ 13 ∧ c ≠ 10 ∨ c = 92 ∨ c = 110 := by
  induction text with
  | nil => exact absurd h List.not_mem_nil
  | cons d text ih =>
      rw [escapeICalText, List.mem_append] at h
      rcases h with h | h
      · split_ifs at h with _ hcomma hsemicolon hline hreturn
        · simp only [List.mem_cons, List.not_mem_nil, or_false, or_self] at h
          exact Or.inr (Or.inl h)
        · simp only [List.mem_cons, List.not_mem_nil, or_false] at h
          rcases h with rfl | rfl
          · exact Or.inr (Or.inl rfl)
          · exact Or.inl ⟨hcomma ▸ List.mem_cons_self, by decide, by decide⟩
        · simp only [List.mem_cons, List.not_mem_nil, or_false] at h
          rcases h with rfl | rfl
          · exact Or.inr (Or.inl rfl)
          · exact Or.inl ⟨hsemicolon ▸ List.mem_cons_self, by decide, by decide⟩
        · simp only [List.mem_cons, List.not_mem_nil, or_false] at h
          exact Or.inr h
        · exact absurd h List.not_mem_nil
        · rw [List.mem_singleton] at h
          subst h
          exact Or.inl ⟨List.mem_cons_self, hreturn, hline⟩
      · rcases ih h with ⟨hmem, hne⟩ | h
        · exact Or.inl ⟨List.mem_cons_of_mem d hmem, hne⟩
        · exact Or.inr h

theorem return_not_mem_escapeICalText (text : Bytes) : 13 ∉ escapeICalText text := by
  intro h
  rcases mem_escapeICalText h with ⟨-, hne, -⟩ | h | h
  · exact hne rfl
  · exact absurd h (by decide)
  · exact absurd h (by decide)

theorem unescape_escapeICalText (text : Bytes) :
    unescape (escapeICalText text) = some (text.filter (· != 13)) := by
  induction text with
  | nil => rfl
  | cons c text ih =>
      rw [escapeICalText]
      split_ifs with hbackslash hcomma hsemicolon hline hreturn
      · simp [unescape, ih, hbackslash]
      · simp [unescape, ih, hcomma]
      · simp [unescape, ih, hsemicolon]
      · simp [unescape, ih, hline]
      · simp [ih, hreturn]
      · rw [List.singleton_append, unescape_cons _ hbackslash, ih]
        simp [hreturn]

theorem backslash_mem_escapeICalText {c : UInt8} {text : Bytes} (hmem : c ∈ text)
    (hc : c = 92 ∨ c = 44 ∨ c = 59 ∨ c = 10) : 92 ∈ escapeICalText text := by
  induction text with
  | nil => exact absurd hmem List.not_mem_nil
  | cons d text ih =>
      rw [escapeICalText, List.mem_append]
      rcases List.mem_cons.mp hmem with rfl | hmem
      · left
        rcases hc with rfl | rfl | rfl | rfl <;> decide
      · exact Or.inr (ih hmem)

theorem escapeICalText_eq_self_iff (text : Bytes) :
    escapeICalText text = text ↔
      forall c, c ∈ text -> c ≠ 92 ∧ c ≠ 44 ∧ c ≠ 59 ∧ c ≠ 10 ∧ c ≠ 13 := by
  constructor
  · intro h c hc
    have hreturn : 13 ∉ text := h ▸ return_not_mem_escapeICalText text
    have hback : unescape text = some text := by
      have hread := unescape_escapeICalText text
      rw [h, List.filter_eq_self.mpr fun d hd => ?_] at hread
      · exact hread
      · rw [bne_iff_ne]
        rintro rfl
        exact hreturn hd
    have hbackslash : 92 ∉ text := by
      rcases unescape_eq_some hback with ⟨-, hno⟩ | hlt
      · exact hno
      · exact absurd hlt (Nat.lt_irrefl _)
    have hescaped : Not (c = 92 ∨ c = 44 ∨ c = 59 ∨ c = 10) := fun hspecial =>
      hbackslash (h ▸ backslash_mem_escapeICalText hc hspecial)
    simp only [not_or] at hescaped
    exact ⟨hescaped.1, hescaped.2.1, hescaped.2.2.1, hescaped.2.2.2, fun h13 => hreturn (h13 ▸ hc)⟩
  · intro h
    induction text with
    | nil => rfl
    | cons c text ih =>
        rcases h c List.mem_cons_self with ⟨h92, h44, h59, h10, h13⟩
        rw [escapeICalText, if_neg h92, if_neg h44, if_neg h59, if_neg h10, if_neg h13,
          ih fun d hd => h d (List.mem_cons_of_mem c hd)]
        rfl

theorem readsAs_escaped {head name text : Bytes} {parameters : List (Bytes × List Bytes)}
    (h : IsHead head name parameters) (hname : name ∈ textNames) :
    ReadsAs (head ++ escapeICalText text) ⟨name, parameters, text⟩ ↔ 13 ∉ text := by
  have hlines := contentLines_of_noCrlf (hasCrlf_of_not_mem (return_not_mem_escapeICalText text))
  rw [readsAs_append h.noReturn]
  simp only [hlines, List.cons.injEq, and_true, exists_eq_left']
  rw [readProperty_head h, decodeValue, if_pos hname, unescape_escapeICalText, Option.map_some,
    Option.some.injEq, Property.mk.injEq]
  simp only [true_and, List.filter_eq_self, bne_iff_ne, ne_eq]
  constructor
  · intro hall hmem
    exact hall 13 hmem rfl
  · rintro hno c hc rfl
    exact hno hc

/-!
## Persons
-/

/-- A name that a parameter can hold without quotation marks. -/
def IsBareName (text : Bytes) : Prop :=
  forall c, c ∈ text -> Reading.isBare c = true ∧ c ≠ 92 ∧ c ≠ 10 ∧ c ≠ 13

theorem escapeICalText_of_isBareName {text : Bytes} (h : IsBareName text) :
    escapeICalText text = text := by
  rw [escapeICalText_eq_self_iff]
  intro c hc
  rcases h c hc with ⟨hbare, h92, h10, h13⟩
  simp only [Reading.isBare, Bool.and_eq_true, bne_iff_ne, ne_eq] at hbare
  exact ⟨h92, hbare.1.1.2, hbare.1.2, h10, h13⟩

theorem isBareName_of_run {name parameter text rest : Bytes} {c : UInt8} {r : Reading}
    {others : List Bytes} (hc : c = 59 ∨ c = 58)
    (hrun : Reading.run (.parameterValue name [] parameter [] [])
      (escapeICalText text ++ c :: rest) = some r)
    (hvalues : r.values = text :: others) : IsBareName text := by
  have hquote : 34 ∉ text := by
    have hstart : Reading.NoQuote (.parameterValue name [] parameter [] []) :=
      ⟨List.not_mem_nil, fun v hv => absurd hv List.not_mem_nil⟩
    exact (hstart.run hrun).2 text (hvalues ▸ List.mem_cons_self)
  have hfirst : forall pre tail : Bytes, forall d : UInt8,
      (forall b, b ∈ pre -> Reading.isBare b = true) -> (d = 44 ∨ d = 59 ∨ d = 58) ->
      escapeICalText text ++ c :: rest = pre ++ d :: tail -> pre = text := by
    intro pre tail d hpre hd heq
    rw [heq] at hrun
    have hprefix := Reading.values_of_bare hpre hd hrun
    rw [hvalues] at hprefix
    exact (List.cons_prefix_cons.mp hprefix).1
  by_cases hall : forall b, b ∈ escapeICalText text -> Reading.isBare b = true
  · have hself : escapeICalText text = text := hfirst _ rest c hall (Or.inr hc) rfl
    have hplain := (escapeICalText_eq_self_iff text).mp hself
    intro b hb
    rcases hplain b hb with ⟨h92, -, -, h10, h13⟩
    exact ⟨hall b (hself.symm ▸ hb : b ∈ escapeICalText text), h92, h10, h13⟩
  · exfalso
    simp only [not_forall] at hall
    rcases hall with ⟨b, hb, hnot⟩
    have hfound : ((escapeICalText text).find? fun d => !Reading.isBare d).isSome = true :=
      List.find?_isSome.mpr ⟨b, hb, by simpa using hnot⟩
    rcases Option.isSome_iff_exists.mp hfound with ⟨d, hd⟩
    rcases List.find?_eq_some_iff_append.mp hd with ⟨hdbare, pre, tail, hsplit, hpre⟩
    have hpre' : forall e, e ∈ pre -> Reading.isBare e = true := fun e he => by
      simpa using hpre e he
    have hmem : d ∈ text := by
      have hescaped : d ∈ escapeICalText text := by
        rw [hsplit]
        exact List.mem_append_right pre List.mem_cons_self
      rcases mem_escapeICalText hescaped with ⟨hd, -, -⟩ | rfl | rfl
      · exact hd
      · exact absurd hdbare (by decide)
      · exact absurd hdbare (by decide)
    have hdelimiter : d = 44 ∨ d = 59 ∨ d = 58 := by
      have hd34 : d ≠ 34 := fun h34 => hquote (h34 ▸ hmem)
      have hcases : d = 34 ∨ d = 44 ∨ d = 59 ∨ d = 58 := by
        simp only [Reading.isBare, Bool.not_eq_true', Bool.and_eq_false_iff, bne_eq_false_iff_eq]
          at hdbare
        tauto
      exact hcases.resolve_left hd34
    have hself : pre = text := hfirst pre (tail ++ c :: rest) d hpre' hdelimiter
      (by rw [hsplit, List.append_assoc, List.cons_append])
    have hbare := hpre' d (hself.symm ▸ hmem)
    rw [hbare] at hdbare
    exact absurd hdbare (by decide)

theorem decodeValue_of_not_text {p q : Property} (hname : q.name ∉ textNames)
    (h : decodeValue p = some q) : p = q := by
  unfold decodeValue at h
  split at h
  · rename_i hp
    rw [Option.map_eq_some_iff] at h
    rcases h with ⟨v, -, rfl⟩
    exact absurd hp hname
  · exact Option.some.inj h

/-- The text around a person's name: what stands in front of it, and what follows up to the
address. -/
structure IsPerson (start after name parameter : Bytes) (others : List (Bytes × List Bytes))
    (scheme : Bytes) : Prop where
  starts : Reading.run (.propertyName []) start =
    some (.parameterValue name [] parameter [] [])
  follows : forall read, Reading.run (.parameterValue name [] parameter [] read) after =
    some (.propertyValue name ((parameter, [read]) :: others) scheme)
  separates : exists c rest, after = c :: rest ∧ (c = 59 ∨ c = 58)
  noReturn : 13 ∉ start ∧ 13 ∉ after
  notText : name ∉ textNames

theorem readsAs_person {start after name parameter scheme text address : Bytes}
    {others : List (Bytes × List Bytes)}
    (h : IsPerson start after name parameter others scheme) :
    ReadsAs (start ++ escapeICalText text ++ after ++ address)
        ⟨name, (parameter, [text]) :: others, scheme ++ address⟩ ↔
      IsBareName text ∧ hasCrlf address = false := by
  have hstart : 13 ∉ start ++ escapeICalText text ++ after := by
    simp only [List.mem_append, not_or]
    exact ⟨⟨h.noReturn.1, return_not_mem_escapeICalText text⟩, h.noReturn.2⟩
  rw [readsAs_append hstart]
  constructor
  · rintro ⟨rest, hlines, hread⟩
    rw [readProperty, Option.bind_eq_some_iff] at hread
    rcases hread with ⟨p, hline, hdecode⟩
    have hp := decodeValue_of_not_text h.notText hdecode
    subst hp
    rw [readLine_eq_some_iff] at hline
    simp only [List.append_assoc] at hline
    rw [Reading.run_append, h.starts, Option.bind_some] at hline
    rcases h.separates with ⟨c, tail, hafter, hc⟩
    have hbare : IsBareName text := by
      rw [hafter, List.cons_append] at hline
      exact isBareName_of_run hc hline rfl
    refine ⟨hbare, ?_⟩
    rw [escapeICalText_of_isBareName hbare, Reading.run_append,
      Reading.run_bare fun b hb => (hbare b hb).1, Option.bind_some, List.nil_append,
      Reading.run_append, h.follows, Option.bind_some, Reading.run_value] at hline
    simp only [Option.some.injEq, Reading.propertyValue.injEq, List.append_cancel_left_eq,
      true_and] at hline
    subst hline
    rcases single_contentLine hlines with ⟨-, hno⟩ | hlt
    · exact hno
    · exact absurd hlt (Nat.lt_irrefl _)
  · rintro ⟨hbare, hno⟩
    refine ⟨address, contentLines_of_noCrlf hno, ?_⟩
    have hline : readLine (start ++ escapeICalText text ++ after ++ address) =
        some ⟨name, (parameter, [text]) :: others, scheme ++ address⟩ := by
      rw [readLine_eq_some_iff]
      simp only [List.append_assoc]
      rw [Reading.run_append, h.starts, Option.bind_some, escapeICalText_of_isBareName hbare,
        Reading.run_append, Reading.run_bare fun b hb => (hbare b hb).1, Option.bind_some,
        List.nil_append, Reading.run_append, h.follows, Option.bind_some, Reading.run_value]
    rw [readProperty, hline, Option.bind_some, decodeValue, if_neg h.notText]

/-!
## What a document should say
-/

def plain (name : String) (value : Bytes) : Property :=
  ⟨ascii name, [], value⟩

def headProperties (config : ICalConfig) : List Property :=
  [plain "VERSION" (ascii "2.0"),
    plain "PRODID" config.prodId,
    plain "CALSCALE" (ascii "GREGORIAN"),
    plain "METHOD" (ascii "PUBLISH")] ++
  unlessEmpty config.calendarName [plain "X-WR-CALNAME" config.calendarName] ++
  unlessEmpty config.refreshInterval
    [⟨ascii "REFRESH-INTERVAL", [(ascii "VALUE", [ascii "DURATION"])], config.refreshInterval⟩,
      plain "X-PUBLISHED-TTL" config.refreshInterval]

section Supplied

variable (civil : Int -> Int × Nat × Nat)

def suppliedProperties (event : ICalEvent) (uidDomain : Bytes) (moment : Moment) :
    List Property :=
  [plain "UID" (resolveUid event.uid uidDomain moment),
    plain "DTSTAMP" (formatUtcDateTime civil moment.stampClock),
    plain "SEQUENCE" (if event.sequence = [] then ascii "0" else event.sequence)] ++
  unlessEmpty event.status [plain "STATUS" event.status] ++
  [plain "DTSTART" (formatDateTime civil event event.startTimeUs),
    plain "DTEND" (formatDateTime civil event event.endTimeUs),
    plain "SUMMARY" event.title] ++
  unlessEmpty event.location [plain "LOCATION" event.location] ++
  unlessEmpty event.description [plain "DESCRIPTION" event.description] ++
  unlessEmpty event.rrule [plain "RRULE" event.rrule] ++
  unlessEmpty event.organizerEmail
    [⟨ascii "ORGANIZER", [(ascii "CN", [event.organizerName])],
      ascii "mailto:" ++ event.organizerEmail⟩] ++
  unlessEmpty event.attendeeEmail
    [⟨ascii "ATTENDEE", [(ascii "CN", [event.attendeeName]), (ascii "RSVP", [ascii "FALSE"])],
      ascii "mailto:" ++ event.attendeeEmail⟩]

def suppliedCalendar (events : List (ICalEvent × Moment)) (config : ICalConfig) : Calendar where
  properties := headProperties config
  events := events.map fun event => suppliedProperties civil event.1 config.uidDomain event.2

end Supplied

/-- A raw field of type TEXT: it breaks no line and holds no backslash. -/
def IsRawText (text : Bytes) : Prop :=
  hasCrlf text = false ∧ 92 ∉ text

structure ConfigFits (config : ICalConfig) : Prop where
  prodId : IsRawText config.prodId
  calendarName : 13 ∉ config.calendarName
  refreshInterval : IsRawText config.refreshInterval

/-- The condition on the fields of an event, each by the way it is written. -/
structure EventFits (event : ICalEvent) (uidDomain : Bytes) : Prop where
  uid : IsRawText (if event.uid ≠ [] then event.uid else uidDomain)
  sequence : hasCrlf event.sequence = false
  status : IsRawText event.status
  title : 13 ∉ event.title
  location : 13 ∉ event.location
  description : 13 ∉ event.description
  rrule : hasCrlf event.rrule = false
  organizer : event.organizerEmail ≠ [] ->
    IsBareName event.organizerName ∧ hasCrlf event.organizerEmail = false
  attendee : event.attendeeEmail ≠ [] ->
    IsBareName event.attendeeName ∧ hasCrlf event.attendeeEmail = false

/-!
## Numbers and dates
-/

theorem mem_ascii_number {number : Int} {c : UInt8} (h : c ∈ ascii (toString number)) :
    45 ≤ c.toNat ∧ c.toNat ≤ 57 := by
  have hdigits : forall (n : Nat) (d : Char), d ∈ Nat.toDigits 10 n ->
      45 ≤ (UInt8.ofNat d.toNat).toNat ∧ (UInt8.ofNat d.toNat).toNat ≤ 57 := by
    intro n d hd
    have hdigit := Nat.isDigit_of_mem_toDigits (by decide) (by decide) hd
    simp only [Char.isDigit, ge_iff_le, Bool.and_eq_true, decide_eq_true_eq] at hdigit
    have hlow : 48 ≤ d.toNat := hdigit.1
    have hhigh : d.toNat ≤ 57 := hdigit.2
    rw [UInt8.toNat_ofNat']
    omega
  simp only [ascii, List.mem_map] at h
  rcases h with ⟨d, hd, rfl⟩
  cases number with
  | ofNat n =>
      have htext : (toString (Int.ofNat n)).toList = Nat.toDigits 10 n := Nat.toList_repr
      rw [htext] at hd
      exact hdigits n d hd
  | negSucc n =>
      rw [Text.JsonGrammar.toList_negSucc, List.mem_cons] at hd
      rcases hd with rfl | hd
      · decide
      · exact hdigits (n + 1) d hd

theorem mem_padded {width : Nat} {number : Int} {c : UInt8} (h : c ∈ padded width number) :
    45 ≤ c.toNat ∧ c.toNat ≤ 57 := by
  rw [padded, List.mem_append] at h
  rcases h with h | h
  · rw [(List.mem_replicate.mp h).2]
    decide
  · exact mem_ascii_number h

theorem return_not_mem_formatUtcDateTime (civil : Int -> Int × Nat × Nat) (microseconds : Int) :
    13 ∉ formatUtcDateTime civil microseconds := by
  have hpadded : forall width number, (13 : UInt8) ∉ padded width number := by
    intro width number h
    exact absurd (mem_padded h).1 (by decide)
  simp only [formatUtcDateTime, List.mem_append, not_or, hpadded, not_false_eq_true, true_and,
    and_true]
  decide

theorem return_not_mem_formatDateTime (civil : Int -> Int × Nat × Nat) (event : ICalEvent)
    (microseconds : Int) : 13 ∉ formatDateTime civil event microseconds := by
  have hutc := return_not_mem_formatUtcDateTime civil microseconds
  unfold formatDateTime formatFloatingDateTime
  split
  · dsimp only
    split
    · exact fun h => hutc (List.dropLast_subset _ h)
    · exact hutc
  · exact hutc

theorem isRawText_append {text rest : Bytes} (htext : 13 ∉ text ∧ 92 ∉ text) :
    IsRawText (text ++ rest) ↔ IsRawText rest := by
  unfold IsRawText
  rw [List.mem_append, not_or, and_iff_right htext.2]
  refine and_congr_left fun _ => ?_
  constructor
  · intro h
    exact (hasCrlf_append h).2
  · intro h
    have hlines := @contentLines_append text rest (hasCrlf_of_not_mem htext.1) fun hlast =>
        absurd (List.mem_of_getLast? hlast) htext.1
    rw [contentLines_of_noCrlf h] at hlines
    rcases single_contentLine hlines with ⟨-, hno⟩ | hlt
    · exact hno
    · exact absurd hlt (Nat.lt_irrefl _)

theorem isRawText_resolveUid (uid uidDomain : Bytes) (moment : Moment) :
    IsRawText (resolveUid uid uidDomain moment) ↔
      IsRawText (if uid ≠ [] then uid else uidDomain) := by
  unfold resolveUid
  split
  · exact Iff.rfl
  · have hnumber : forall (n : Int), 13 ∉ ascii (toString n) ∧ 92 ∉ ascii (toString n) :=
      fun n => ⟨fun h => absurd (mem_ascii_number h).1 (by decide),
        fun h => absurd (mem_ascii_number h).2 (by decide)⟩
    have hcounter := hnumber moment.uidCounter
    have hclock := hnumber moment.uidClock
    unfold syntheticUid
    refine isRawText_append ?_
    simp only [List.mem_append, not_or]
    exact ⟨⟨⟨⟨⟨by decide, hclock.1⟩, by decide⟩, hcounter.1⟩, by decide⟩,
      ⟨⟨⟨by decide, hclock.2⟩, by decide⟩, hcounter.2⟩, by decide⟩

/-!
## Line by line
-/

theorem forall₂_append_iff {α β : Type} {R : α -> β -> Prop} {xs xs' : List α} {ys ys' : List β}
    (hlength : xs.length = ys.length) :
    List.Forall₂ R (xs ++ xs') (ys ++ ys') ↔ List.Forall₂ R xs ys ∧ List.Forall₂ R xs' ys' := by
  induction xs generalizing ys with
  | nil =>
      cases ys with
      | nil => simp
      | cons y ys => exact absurd hlength (by simp)
  | cons x xs ih =>
      cases ys with
      | nil => exact absurd hlength (by simp)
      | cons y ys =>
          simp only [List.cons_append, List.forall₂_cons, ih (Nat.succ.inj hlength), and_assoc]

@[simp] theorem length_unlessEmpty {α : Type} (field : Bytes) (items : List α) :
    (unlessEmpty field items).length = if field ≠ [] then items.length else 0 := by
  unfold unlessEmpty
  split <;> rfl

theorem forall₂_unlessEmpty {α β : Type} {R : α -> β -> Prop} {field : Bytes} {xs : List α}
    {ys : List β} :
    List.Forall₂ R (unlessEmpty field xs) (unlessEmpty field ys) ↔
      (field ≠ [] -> List.Forall₂ R xs ys) := by
  unfold unlessEmpty
  split
  · rename_i h
    exact ⟨fun hall _ => hall, fun hall => hall h⟩
  · rename_i h
    exact ⟨fun _ hne => absurd hne h, fun _ => List.Forall₂.nil⟩

theorem imp_of_empty {P : Bytes -> Prop} {field : Bytes} (hempty : P []) :
    (field ≠ [] -> P field) ↔ P field := by
  constructor
  · intro h
    by_cases hfield : field = []
    · rw [hfield]
      exact hempty
    · exact h hfield
  · exact fun h _ => h

theorem readsAs_sequence (sequence : Bytes) :
    ReadsAs (ascii "SEQUENCE:" ++ (if sequence = [] then ascii "0" else sequence))
        (plain "SEQUENCE" (if sequence = [] then ascii "0" else sequence)) ↔
      hasCrlf sequence = false := by
  have hhead : IsHead (ascii "SEQUENCE:") (ascii "SEQUENCE") [] := ⟨rfl, by decide⟩
  rw [plain, readsAs_raw hhead (by decide)]
  split
  · rename_i hempty
    rw [hempty]
    exact iff_of_true (by decide) rfl
  · exact Iff.rfl

theorem forall₂_eventLines (civil : Int -> Int × Nat × Nat) (event : ICalEvent)
    (uidDomain : Bytes) (moment : Moment) :
    List.Forall₂ ReadsAs (eventLines civil event uidDomain moment)
        (Place.ofEvent (suppliedProperties civil event uidDomain moment)) ↔
      EventFits event uidDomain := by
  have hbegin : ReadsAs (ascii "BEGIN:VEVENT") (beginOf "VEVENT") := ⟨_, rfl, rfl⟩
  have hend : ReadsAs (ascii "END:VEVENT") (endOf "VEVENT") := ⟨_, rfl, rfl⟩
  have huid : IsHead (ascii "UID:") (ascii "UID") [] := ⟨rfl, by decide⟩
  have hstamp : IsHead (ascii "DTSTAMP:") (ascii "DTSTAMP") [] := ⟨rfl, by decide⟩
  have hstatus : IsHead (ascii "STATUS:") (ascii "STATUS") [] := ⟨rfl, by decide⟩
  have hstart : IsHead (ascii "DTSTART:") (ascii "DTSTART") [] := ⟨rfl, by decide⟩
  have hdtend : IsHead (ascii "DTEND:") (ascii "DTEND") [] := ⟨rfl, by decide⟩
  have hsummary : IsHead (ascii "SUMMARY:") (ascii "SUMMARY") [] := ⟨rfl, by decide⟩
  have hlocation : IsHead (ascii "LOCATION:") (ascii "LOCATION") [] := ⟨rfl, by decide⟩
  have hdescription : IsHead (ascii "DESCRIPTION:") (ascii "DESCRIPTION") [] := ⟨rfl, by decide⟩
  have hrrule : IsHead (ascii "RRULE:") (ascii "RRULE") [] := ⟨rfl, by decide⟩
  have horganizer : IsPerson (ascii "ORGANIZER;CN=") (ascii ":mailto:") (ascii "ORGANIZER")
      (ascii "CN") [] (ascii "mailto:") :=
    ⟨rfl, fun _ => rfl, ⟨_, _, rfl, by decide⟩, by decide, by decide⟩
  have hattendee : IsPerson (ascii "ATTENDEE;CN=") (ascii ";RSVP=FALSE:mailto:")
      (ascii "ATTENDEE") (ascii "CN") [(ascii "RSVP", [ascii "FALSE"])] (ascii "mailto:") :=
    ⟨rfl, fun _ => rfl, ⟨_, _, rfl, by decide⟩, by decide, by decide⟩
  have hdate : forall microseconds,
      hasCrlf (formatDateTime civil event microseconds) = false := fun microseconds =>
    hasCrlf_of_not_mem (return_not_mem_formatDateTime civil event microseconds)
  have hnow : hasCrlf (formatUtcDateTime civil moment.stampClock) = false :=
    hasCrlf_of_not_mem (return_not_mem_formatUtcDateTime civil moment.stampClock)
  have hemptyText : IsRawText [] := ⟨rfl, List.not_mem_nil⟩
  rw [Place.ofEvent, suppliedProperties, eventLines]
  simp only [← List.cons_append]
  iterate 8 rw [forall₂_append_iff (by simp)]
  simp only [List.forall₂_cons, List.Forall₂.nil, forall₂_unlessEmpty, and_true, hbegin,
    hend, true_and, readsAs_sequence]
  simp only [plain, readsAs_rawText huid (by decide), readsAs_raw hstamp (by decide),
    readsAs_rawText hstatus (by decide), readsAs_raw hstart (by decide),
    readsAs_raw hdtend (by decide), readsAs_escaped hsummary (by decide),
    readsAs_escaped hlocation (by decide), readsAs_escaped hdescription (by decide),
    readsAs_raw hrrule (by decide), readsAs_person horganizer, readsAs_person hattendee, hdate,
    hnow, true_and]
  have huidText := isRawText_resolveUid event.uid uidDomain moment
  have hemptyLine : forall text : Bytes, text = [] -> 13 ∉ text := by
    rintro text rfl
    exact List.not_mem_nil
  constructor
  · rintro ⟨⟨⟨⟨⟨⟨⟨⟨huid, hsequence⟩, hstatus⟩, htitle⟩, hlocation⟩, hdescription⟩, hrrule⟩,
      horganizer⟩, hattendee⟩
    exact ⟨huidText.mp huid, hsequence,
      (imp_of_empty (P := IsRawText) hemptyText).mp hstatus, htitle,
      (imp_of_empty (P := fun text => 13 ∉ text) (hemptyLine [] rfl)).mp hlocation,
      (imp_of_empty (P := fun text => 13 ∉ text) (hemptyLine [] rfl)).mp hdescription,
      (imp_of_empty (P := fun text => hasCrlf text = false) rfl).mp hrrule, horganizer, hattendee⟩
  · intro h
    exact ⟨⟨⟨⟨⟨⟨⟨⟨huidText.mpr h.uid, h.sequence⟩, fun _ => h.status⟩, h.title⟩,
      fun _ => h.location⟩, fun _ => h.description⟩, fun _ => h.rrule⟩, h.organizer⟩, h.attendee⟩

theorem forall₂_headLines (config : ICalConfig) :
    List.Forall₂ ReadsAs (headLines config)
        (beginOf "VCALENDAR" :: headProperties config) ↔
      ConfigFits config := by
  have hbegin : ReadsAs (ascii "BEGIN:VCALENDAR") (beginOf "VCALENDAR") := ⟨_, rfl, rfl⟩
  have hversion : ReadsAs (ascii "VERSION:2.0") (plain "VERSION" (ascii "2.0")) := ⟨_, rfl, rfl⟩
  have hcalscale : ReadsAs (ascii "CALSCALE:GREGORIAN")
      (plain "CALSCALE" (ascii "GREGORIAN")) := ⟨_, rfl, rfl⟩
  have hmethod : ReadsAs (ascii "METHOD:PUBLISH") (plain "METHOD" (ascii "PUBLISH")) :=
    ⟨_, rfl, rfl⟩
  have hprodId : IsHead (ascii "PRODID:") (ascii "PRODID") [] := ⟨rfl, by decide⟩
  have hname : IsHead (ascii "X-WR-CALNAME:") (ascii "X-WR-CALNAME") [] := ⟨rfl, by decide⟩
  have hinterval : IsHead (ascii "REFRESH-INTERVAL;VALUE=DURATION:") (ascii "REFRESH-INTERVAL")
      [(ascii "VALUE", [ascii "DURATION"])] := ⟨rfl, by decide⟩
  have httl : IsHead (ascii "X-PUBLISHED-TTL:") (ascii "X-PUBLISHED-TTL") [] := ⟨rfl, by decide⟩
  rw [headProperties, headLines]
  simp only [← List.cons_append]
  iterate 2 rw [forall₂_append_iff (by simp)]
  simp only [List.forall₂_cons, List.Forall₂.nil, forall₂_unlessEmpty, and_true, hbegin,
    hversion, hcalscale, hmethod, true_and]
  simp only [plain, readsAs_rawText hprodId (by decide), readsAs_escaped hname (by decide),
    readsAs_raw hinterval (by decide), readsAs_rawText httl (by decide)]
  constructor
  · rintro ⟨⟨hprodId, hname⟩, hinterval⟩
    exact ⟨hprodId,
      (imp_of_empty (P := fun text => 13 ∉ text) List.not_mem_nil).mp hname,
      (imp_of_empty (P := IsRawText) ⟨rfl, List.not_mem_nil⟩).mp fun hne => (hinterval hne).2⟩
  · intro h
    exact ⟨⟨h.prodId, fun _ => h.calendarName⟩,
      fun _ => ⟨h.refreshInterval.1, h.refreshInterval⟩⟩

/-!
## Whole documents
-/

section Documents

variable (civil : Int -> Int × Nat × Nat)

/-- The lines of a document before they are folded. -/
def documentLines (events : List (ICalEvent × Moment)) (config : ICalConfig) : List Bytes :=
  headLines config ++
    (events.flatMap fun event => eventLines civil event.1 config.uidDomain event.2) ++
    [ascii "END:VCALENDAR"]

theorem generateImpl_eq (events : List (ICalEvent × Moment)) (config : ICalConfig) :
    generateImpl civil events config =
      foldAll ((documentLines civil events config).flatMap (· ++ crlf)) := by
  unfold generateImpl documentLines emitVEvent
  simp only [List.flatMap_append, List.flatMap_assoc, List.flatMap_cons, List.flatMap_nil,
    List.append_nil, List.append_assoc]

theorem forall_mem_unlessEmpty {α : Type} {P : α -> Prop} {field : Bytes} {items : List α}
    (h : forall x, x ∈ items -> P x) : forall x, x ∈ unlessEmpty field items -> P x := by
  unfold unlessEmpty
  split
  · exact h
  · exact fun x hx => absurd hx List.not_mem_nil

theorem opensLine_eventLines (event : ICalEvent) (uidDomain : Bytes) (moment : Moment) :
    forall piece, piece ∈ eventLines civil event uidDomain moment -> OpensLine piece := by
  have hopens : forall name value : Bytes, OpensLine name ->
      forall piece, piece ∈ [name ++ value] -> OpensLine piece := by
    intro name value hname piece hpiece
    rw [List.mem_singleton.mp hpiece]
    exact hname.append value
  have hname : OpensLine (ascii "ORGANIZER;CN=") ∧ OpensLine (ascii "ATTENDEE;CN=") := by decide
  simp only [eventLines, List.forall_mem_append]
  refine ⟨⟨⟨⟨⟨⟨⟨⟨?_, ?_⟩, ?_⟩, ?_⟩, ?_⟩, ?_⟩, ?_⟩, ?_⟩, ?_⟩
  · simp only [List.forall_mem_cons]
    exact ⟨by decide, OpensLine.append (by decide) _, OpensLine.append (by decide) _,
      OpensLine.append (by decide) _, fun _ hmem => absurd hmem List.not_mem_nil⟩
  · exact forall_mem_unlessEmpty (hopens _ _ (by decide))
  · simp only [List.forall_mem_cons]
    exact ⟨OpensLine.append (by decide) _, OpensLine.append (by decide) _,
      OpensLine.append (by decide) _, fun _ hmem => absurd hmem List.not_mem_nil⟩
  · exact forall_mem_unlessEmpty (hopens _ _ (by decide))
  · exact forall_mem_unlessEmpty (hopens _ _ (by decide))
  · exact forall_mem_unlessEmpty (hopens _ _ (by decide))
  · exact forall_mem_unlessEmpty (hopens _ _ ((hname.1.append _).append _))
  · exact forall_mem_unlessEmpty (hopens _ _ ((hname.2.append _).append _))
  · simp only [List.forall_mem_cons]
    exact ⟨by decide, fun _ hmem => absurd hmem List.not_mem_nil⟩

theorem opensLine_headLines (config : ICalConfig) :
    forall piece, piece ∈ headLines config -> OpensLine piece := by
  simp only [headLines, List.forall_mem_append]
  refine ⟨⟨?_, ?_⟩, ?_⟩
  · simp only [List.forall_mem_cons]
    exact ⟨by decide, by decide, OpensLine.append (by decide) _, by decide, by decide,
      fun _ hmem => absurd hmem List.not_mem_nil⟩
  · apply forall_mem_unlessEmpty
    simp only [List.forall_mem_cons]
    exact ⟨OpensLine.append (by decide) _, fun _ hmem => absurd hmem List.not_mem_nil⟩
  · apply forall_mem_unlessEmpty
    simp only [List.forall_mem_cons]
    exact ⟨OpensLine.append (by decide) _, OpensLine.append (by decide) _,
      fun _ hmem => absurd hmem List.not_mem_nil⟩

theorem opensLine_documentLines (events : List (ICalEvent × Moment)) (config : ICalConfig) :
    forall piece, piece ∈ documentLines civil events config -> OpensLine piece := by
  intro piece hpiece
  simp only [documentLines, List.mem_append, List.mem_flatMap, List.mem_singleton] at hpiece
  rcases hpiece with (hhead | ⟨event, -, hevent⟩) | rfl
  · exact opensLine_headLines config piece hhead
  · exact opensLine_eventLines civil event.1 config.uidDomain event.2 piece hevent
  · decide

theorem readProperties_generateImpl (events : List (ICalEvent × Moment)) (config : ICalConfig) :
    readProperties (generateImpl civil events config) =
      ((documentLines civil events config).flatMap contentLines).mapM readProperty := by
  have hends : EndsWithCrlf ((documentLines civil events config).flatMap (· ++ crlf)) := by
    right
    unfold documentLines
    rw [List.flatMap_append, List.flatMap_singleton]
    exact ⟨_, (List.append_assoc _ _ _).symm⟩
  rw [← readProperties_flatMap (opensLine_documentLines civil events config), generateImpl_eq]
  unfold readProperties readLines
  rw [contentLines_foldAll hends]

theorem not_opensOrCloses {name value : Bytes} {parameters : List (Bytes × List Bytes)}
    (h : name ≠ ascii "BEGIN" ∧ name ≠ ascii "END") :
    Not (opensOrCloses ⟨name, parameters, value⟩) := by
  rintro (hbegin | hend)
  · exact h.1 hbegin
  · exact h.2 hend

theorem wellMarked_suppliedCalendar (events : List (ICalEvent × Moment)) (config : ICalConfig) :
    (suppliedCalendar civil events config).WellMarked := by
  have hone : forall p : Property, Not (opensOrCloses p) ->
      forall q, q ∈ [p] -> Not (opensOrCloses q) := by
    intro p hp q hq
    rw [List.mem_singleton.mp hq]
    exact hp
  have hnil : forall p : Property, p ∈ [] -> Not (opensOrCloses p) :=
    fun p hp => absurd hp List.not_mem_nil
  constructor
  · simp only [suppliedCalendar, headProperties, List.forall_mem_append]
    refine ⟨⟨?_, ?_⟩, ?_⟩
    · simp only [List.forall_mem_cons]
      exact ⟨not_opensOrCloses (by decide), not_opensOrCloses (by decide),
        not_opensOrCloses (by decide), not_opensOrCloses (by decide), hnil⟩
    · exact forall_mem_unlessEmpty (hone _ (not_opensOrCloses (by decide)))
    · apply forall_mem_unlessEmpty
      simp only [List.forall_mem_cons]
      exact ⟨not_opensOrCloses (by decide), not_opensOrCloses (by decide), hnil⟩
  · intro properties hproperties
    rcases List.mem_map.mp hproperties with ⟨event, -, rfl⟩
    simp only [suppliedProperties, List.forall_mem_append]
    refine ⟨⟨⟨⟨⟨⟨⟨?_, ?_⟩, ?_⟩, ?_⟩, ?_⟩, ?_⟩, ?_⟩, ?_⟩
    · simp only [List.forall_mem_cons]
      exact ⟨not_opensOrCloses (by decide), not_opensOrCloses (by decide),
        not_opensOrCloses (by decide), hnil⟩
    · exact forall_mem_unlessEmpty (hone _ (not_opensOrCloses (by decide)))
    · simp only [List.forall_mem_cons]
      exact ⟨not_opensOrCloses (by decide), not_opensOrCloses (by decide),
        not_opensOrCloses (by decide), hnil⟩
    · exact forall_mem_unlessEmpty (hone _ (not_opensOrCloses (by decide)))
    · exact forall_mem_unlessEmpty (hone _ (not_opensOrCloses (by decide)))
    · exact forall_mem_unlessEmpty (hone _ (not_opensOrCloses (by decide)))
    · exact forall_mem_unlessEmpty (hone _ (not_opensOrCloses (by decide)))
    · exact forall_mem_unlessEmpty (hone _ (not_opensOrCloses (by decide)))

theorem length_eventLines (event : ICalEvent) (uidDomain : Bytes) (moment : Moment) :
    (eventLines civil event uidDomain moment).length =
      (Place.ofEvent (suppliedProperties civil event uidDomain moment)).length := by
  simp only [eventLines, Place.ofEvent, suppliedProperties, List.length_append, List.length_cons,
    List.length_nil, length_unlessEmpty]
  omega

theorem length_headLines (config : ICalConfig) :
    (headLines config).length = (beginOf "VCALENDAR" :: headProperties config).length := by
  simp only [headLines, headProperties, List.length_append, List.length_cons,
    List.length_nil, length_unlessEmpty]
  omega

theorem forall₂_events (events : List (ICalEvent × Moment)) (uidDomain : Bytes) :
    (events.flatMap fun event => eventLines civil event.1 uidDomain event.2).length =
        ((events.map fun event => suppliedProperties civil event.1 uidDomain event.2).flatMap
          Place.ofEvent).length ∧
      (List.Forall₂ ReadsAs
          (events.flatMap fun event => eventLines civil event.1 uidDomain event.2)
          ((events.map fun event => suppliedProperties civil event.1 uidDomain event.2).flatMap
            Place.ofEvent) ↔
        forall event, event ∈ events -> EventFits event.1 uidDomain) := by
  induction events with
  | nil =>
      refine ⟨rfl, ?_⟩
      exact iff_of_true List.Forall₂.nil fun event hevent => absurd hevent List.not_mem_nil
  | cons event events ih =>
      rcases ih with ⟨hlength, hiff⟩
      have hfirst := length_eventLines civil event.1 uidDomain event.2
      simp only [List.flatMap_cons, List.map_cons, List.length_append]
      refine ⟨by rw [hfirst, hlength], ?_⟩
      rw [forall₂_append_iff hfirst, forall₂_eventLines, hiff, List.forall_mem_cons]

theorem forall₂_documentLines (events : List (ICalEvent × Moment)) (config : ICalConfig) :
    (documentLines civil events config).length =
        (suppliedCalendar civil events config).flatten.length ∧
      (List.Forall₂ ReadsAs (documentLines civil events config)
          (suppliedCalendar civil events config).flatten ↔
        ConfigFits config ∧
          forall event, event ∈ events -> EventFits event.1 config.uidDomain) := by
  have hflatten : (suppliedCalendar civil events config).flatten =
      beginOf "VCALENDAR" :: headProperties config ++
        (events.map fun event =>
          suppliedProperties civil event.1 config.uidDomain event.2).flatMap Place.ofEvent ++
        [endOf "VCALENDAR"] := rfl
  have hend : ReadsAs (ascii "END:VCALENDAR") (endOf "VCALENDAR") := ⟨_, rfl, rfl⟩
  rcases forall₂_events civil events config.uidDomain with ⟨hlength, hiff⟩
  have hhead := length_headLines config
  rw [hflatten, documentLines]
  constructor
  · rw [List.length_append, List.length_append, hhead, hlength, List.length_append,
      List.length_append]
    rfl
  · rw [forall₂_append_iff (by rw [List.length_append, List.length_append, hhead, hlength]),
      forall₂_append_iff hhead, forall₂_headLines, hiff]
    simp only [List.forall₂_cons, List.Forall₂.nil, hend, and_true]

theorem readCalendar_generateImpl_iff (events : List (ICalEvent × Moment))
    (config : ICalConfig) :
    readCalendar (generateImpl civil events config) =
        some (suppliedCalendar civil events config) ↔
      ConfigFits config ∧ forall event, event ∈ events -> EventFits event.1 config.uidDomain := by
  rcases forall₂_documentLines civil events config with ⟨hlength, hiff⟩
  rw [readCalendar_eq_some_iff (wellMarked_suppliedCalendar civil events config),
    readProperties_generateImpl, ← hiff]
  constructor
  · intro hread
    exact readsAs_of_mapM_flatMap hread hlength.symm
  · intro hlines
    exact mapM_flatMap_of_readsAs hlines

/-- The document of an event reads back as one event with exactly the supplied properties if
and only if no carriage return stands in an escaped text, no raw field breaks a line, raw
values of type TEXT hold no backslash, and the names of persons are bare. -/
theorem readCalendar_generateICalendar_iff (event : ICalEvent) (moment : Moment)
    (config : ICalConfig) :
    readCalendar (generateICalendar civil event moment config) =
        some ⟨headProperties config,
          [suppliedProperties civil event config.uidDomain moment]⟩ ↔
      ConfigFits config ∧ EventFits event config.uidDomain := by
  have h := readCalendar_generateImpl_iff civil [(event, moment)] config
  rw [List.forall_mem_singleton] at h
  exact h

end Documents

/-!
An attendee's name is escaped like a text, but it stands in a parameter, where a
semicolon begins the next parameter.
-/

def exampleConfig : ICalConfig where
  prodId := ascii "-//Acme//Booking//EN"
  uidDomain := ascii "acme.example"

def exampleEvent : ICalEvent where
  title := ascii "Class"
  uid := ascii "booking-1@acme.example"
  attendeeEmail := ascii "jane@acme.example"
  attendeeName := ascii "Jane;ROLE=CHAIR"

def exampleMoment : Moment where
  uidClock := 0
  uidCounter := 0
  stampClock := 0

def exampleDocument : Bytes :=
  generateICalendar (fun _ => (1970, 1, 1)) exampleEvent exampleMoment exampleConfig

theorem exampleDocument_addsParameter :
    (readCalendar exampleDocument).map (fun calendar =>
        calendar.events.map fun event => event.getLast?.map Property.parameters) =
      some [some [(ascii "CN", [ascii "Jane\\"]), (ascii "ROLE", [ascii "CHAIR"]),
        (ascii "RSVP", [ascii "FALSE"])]] ∧
      readCalendar exampleDocument ≠
        some ⟨headProperties exampleConfig,
          [suppliedProperties (fun _ => (1970, 1, 1)) exampleEvent exampleConfig.uidDomain
            exampleMoment]⟩ := by
  have hread : (readCalendar exampleDocument).map (fun calendar =>
        calendar.events.map fun event => event.getLast?.map Property.parameters) =
      some [some [(ascii "CN", [ascii "Jane\\"]), (ascii "ROLE", [ascii "CHAIR"]),
        (ascii "RSVP", [ascii "FALSE"])]] := by decide
  refine ⟨hread, fun hsame => ?_⟩
  rw [hsame, Option.map_some, Option.some.injEq] at hread
  exact absurd hread (by decide)

end ICalGenerator
end Util
end ServerComponents
