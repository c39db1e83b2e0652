import ServerComponents.Text.ContentLines

/-!
# Reading a calendar

A reader of iCalendar texts takes every content line apart into a property with
its parameters and its value, decodes the values of type TEXT, and finds the
events between the begin and end lines. Bytes that the grammar does not use are
let through.
-/

namespace ServerComponents
namespace Text
namespace ContentLines

/-!
## Properties
-/

structure Property where
  name : Bytes
  parameters : List (Bytes × List Bytes)
  value : Bytes
deriving DecidableEq

/-- Where the reader stands in a content line. -/
inductive Reading where
  | propertyName (read : Bytes)
  | parameterName (name : Bytes) (parameters : List (Bytes × List Bytes)) (read : Bytes)
  | parameterValue (name : Bytes) (parameters : List (Bytes × List Bytes)) (parameter : Bytes)
      (values : List Bytes) (read : Bytes)
  | quoted (name : Bytes) (parameters : List (Bytes × List Bytes)) (parameter : Bytes)
      (values : List Bytes) (read : Bytes)
  | closed (name : Bytes) (parameters : List (Bytes × List Bytes)) (parameter : Bytes)
      (values : List Bytes) (read : Bytes)
  | propertyValue (name : Bytes) (parameters : List (Bytes × List Bytes)) (read : Bytes)

def isNameByte (c : UInt8) : Bool :=
  (65 ≤ c && c ≤ 90) || (97 ≤ c && c ≤ 122) || (48 ≤ c && c ≤ 57) || c == 45

variable {parameters : List (Bytes × List Bytes)}

namespace Reading

/-- What may follow a parameter's value: the next value, the next parameter or the value of
the property. -/
def afterValue (name : Bytes) (parameters : List (Bytes × List Bytes)) (parameter : Bytes)
    (values : List Bytes) (c : UInt8) : Option Reading :=
  if c = 44 then some (.parameterValue name parameters parameter values [])
  else if c = 59 then some (.parameterName name (parameters ++ [(parameter, values)]) [])
  else if c = 58 then some (.propertyValue name (parameters ++ [(parameter, values)]) [])
  else none

def step : Reading -> UInt8 -> Option Reading
  | .propertyName read, c =>
      if c = 59 then some (.parameterName read [] [])
      else if c = 58 then some (.propertyValue read [] [])
      else if isNameByte c then some (.propertyName (read ++ [c]))
      else none
  | .parameterName name parameters read, c =>
      if c = 61 then some (.parameterValue name parameters read [] [])
      else if isNameByte c then some (.parameterName name parameters (read ++ [c]))
      else none
  | .parameterValue name parameters parameter values read, c =>
      if c = 34 then
        if read = [] then some (.quoted name parameters parameter values []) else none
      else if c = 44 ∨ c = 59 ∨ c = 58 then
        afterValue name parameters parameter (values ++ [read]) c
      else some (.parameterValue name parameters parameter values (read ++ [c]))
  | .quoted name parameters parameter values read, c =>
      if c = 34 then some (.closed name parameters parameter values read)
      else some (.quoted name parameters parameter values (read ++ [c]))
  | .closed name parameters parameter values read, c =>
      afterValue name parameters parameter (values ++ [read]) c
  | .propertyValue name parameters read, c => some (.propertyValue name parameters (read ++ [c]))

def run (r : Reading) (text : Bytes) : Option Reading :=
  text.foldlM step r

@[simp] theorem run_nil (r : Reading) : r.run [] = some r :=
  rfl

theorem run_cons (r : Reading) (c : UInt8) (text : Bytes) :
    r.run (c :: text) = (r.step c).bind fun r' => r'.run text :=
  rfl

theorem run_append (r : Reading) (text text' : Bytes) :
    r.run (text ++ text') = (r.run text).bind fun r' => r'.run text' :=
  List.foldlM_append

theorem run_value (name : Bytes) (parameters : List (Bytes × List Bytes)) (read text : Bytes) :
    run (.propertyValue name parameters read) text =
      some (.propertyValue name parameters (read ++ text)) := by
  induction text generalizing read with
  | nil => simp
  | cons c text ih =>
      rw [run_cons]
      simp only [step, Option.bind_some, ih, List.append_assoc, List.singleton_append]

/-- The parameter values read so far, in their order. -/
def values : Reading -> List Bytes
  | .propertyName _ => []
  | .parameterName _ parameters _ => parameters.flatMap Prod.snd
  | .parameterValue _ parameters _ vs _ => parameters.flatMap Prod.snd ++ vs
  | .quoted _ parameters _ vs _ => parameters.flatMap Prod.snd ++ vs
  | .closed _ parameters _ vs read => parameters.flatMap Prod.snd ++ (vs ++ [read])
  | .propertyValue _ parameters _ => parameters.flatMap Prod.snd

def unfinished : Reading -> Bytes
  | .parameterValue _ _ _ _ read => read
  | .quoted _ _ _ _ read => read
  | _ => []

theorem afterValue_values {name : Bytes}
    {parameter : Bytes} {vs : List Bytes} {c : UInt8} {r : Reading}
    (h : afterValue name parameters parameter vs c = some r) :
    r.values = parameters.flatMap Prod.snd ++ vs ∧ r.unfinished = [] := by
  unfold afterValue at h
  split at h
  · cases h
    exact ⟨rfl, rfl⟩
  · split at h
    · cases h
      simp [values, unfinished]
    · split at h
      · cases h
        simp [values, unfinished]
      · cases h

theorem step_values {r r' : Reading} {c : UInt8} (h : r.step c = some r') :
    (r'.values = r.values ∧
        (r'.unfinished = [] ∨ c ≠ 34 ∧ r'.unfinished = r.unfinished ++ [c])) ∨
      (r'.values = r.values ++ [r.unfinished] ∧ r'.unfinished = []) := by
  cases r with
  | propertyName read =>
      simp only [step] at h
      split at h
      · cases h
        exact Or.inl ⟨rfl, Or.inl rfl⟩
      · split at h
        · cases h
          exact Or.inl ⟨rfl, Or.inl rfl⟩
        · split at h
          · cases h
            exact Or.inl ⟨rfl, Or.inl rfl⟩
          · cases h
  | parameterName name parameters read =>
      simp only [step] at h
      split at h
      · cases h
        exact Or.inl ⟨by simp [values], Or.inl rfl⟩
      · split at h
        · cases h
          exact Or.inl ⟨rfl, Or.inl rfl⟩
        · cases h
  | parameterValue name parameters parameter vs read =>
      simp only [step] at h
      split at h
      · split at h
        · cases h
          exact Or.inl ⟨rfl, Or.inl rfl⟩
        · cases h
      · rename_i hquote
        split at h
        · rcases afterValue_values h with ⟨hvalues, hrest⟩
          exact Or.inr ⟨by rw [hvalues, ← List.append_assoc]; rfl, hrest⟩
        · cases h
          exact Or.inl ⟨rfl, Or.inr ⟨hquote, rfl⟩⟩
  | quoted name parameters parameter vs read =>
      simp only [step] at h
      split at h
      · cases h
        exact Or.inr ⟨(List.append_assoc _ _ _).symm, rfl⟩
      · rename_i hquote
        cases h
        exact Or.inl ⟨rfl, Or.inr ⟨hquote, rfl⟩⟩
  | closed name parameters parameter vs read =>
      rcases afterValue_values h with ⟨hvalues, hrest⟩
      exact Or.inl ⟨hvalues, Or.inl hrest⟩
  | propertyValue name parameters read =>
      simp only [step, Option.some.injEq] at h
      cases h
      exact Or.inl ⟨rfl, Or.inl rfl⟩

theorem run_values {r r' : Reading} {text : Bytes} (h : r.run text = some r') :
    r.values <+: r'.values := by
  induction text generalizing r with
  | nil =>
      cases h
      exact List.prefix_refl _
  | cons c text ih =>
      rw [run_cons, Option.bind_eq_some_iff] at h
      rcases h with ⟨r₁, hstep, hrun⟩
      have hfirst : r.values <+: r₁.values := by
        rcases step_values hstep with ⟨hvalues, -⟩ | ⟨hvalues, -⟩
        · exact hvalues ▸ List.prefix_refl r.values
        · exact hvalues ▸ List.prefix_append r.values _
      exact hfirst.trans (ih hrun)

def NoQuote (r : Reading) : Prop :=
  34 ∉ r.unfinished ∧ forall v, v ∈ r.values -> 34 ∉ v

theorem NoQuote.step {r r' : Reading} {c : UInt8} (hr : r.NoQuote) (h : r.step c = some r') :
    r'.NoQuote := by
  rcases hr with ⟨hunfinished, hvalues⟩
  rcases step_values h with ⟨hsame, hrest⟩ | ⟨hmore, hrest⟩
  · refine ⟨?_, fun v hv => hvalues v (hsame ▸ hv)⟩
    rcases hrest with hempty | ⟨hc, hlonger⟩
    · rw [hempty]
      exact List.not_mem_nil
    · rw [hlonger, List.mem_append, not_or]
      exact ⟨hunfinished, fun hmem => hc (List.mem_singleton.mp hmem).symm⟩
  · refine ⟨by rw [hrest]; exact List.not_mem_nil, fun v hv => ?_⟩
    rw [hmore, List.mem_append, List.mem_singleton] at hv
    rcases hv with hv | rfl
    · exact hvalues v hv
    · exact hunfinished

theorem NoQuote.run {r r' : Reading} {text : Bytes} (hr : r.NoQuote)
    (h : r.run text = some r') : r'.NoQuote := by
  induction text generalizing r with
  | nil =>
      cases h
      exact hr
  | cons c text ih =>
      rw [run_cons, Option.bind_eq_some_iff] at h
      rcases h with ⟨r₁, hstep, hrun⟩
      exact ih (hr.step hstep) hrun

/-- A byte that a bare parameter value may hold. -/
def isBare (c : UInt8) : Bool :=
  c != 34 && c != 44 && c != 59 && c != 58

theorem step_bare {name : Bytes} {parameter : Bytes}
    {vs : List Bytes} {read : Bytes} {c : UInt8} (hc : isBare c = true) :
    step (.parameterValue name parameters parameter vs read) c =
      some (.parameterValue name parameters parameter vs (read ++ [c])) := by
  simp only [isBare, Bool.and_eq_true, bne_iff_ne, ne_eq] at hc
  rcases hc with ⟨⟨⟨hquote, hcomma⟩, hsemicolon⟩, hcolon⟩
  simp [step, hquote, hcomma, hsemicolon, hcolon]

theorem run_bare {name : Bytes} {parameter : Bytes}
    {vs : List Bytes} {read text : Bytes} (htext : forall c, c ∈ text -> isBare c = true) :
    run (.parameterValue name parameters parameter vs read) text =
      some (.parameterValue name parameters parameter vs (read ++ text)) := by
  induction text generalizing read with
  | nil => simp
  | cons c text ih =>
      rw [run_cons, step_bare (htext c List.mem_cons_self), Option.bind_some,
        ih fun d hd => htext d (List.mem_cons_of_mem c hd), List.append_assoc,
        List.singleton_append]

theorem values_of_bare {name : Bytes}
    {parameter : Bytes} {vs : List Bytes} {text rest : Bytes} {c : UInt8} {r : Reading}
    (htext : forall d, d ∈ text -> isBare d = true) (hc : c = 44 ∨ c = 59 ∨ c = 58)
    (h : run (.parameterValue name parameters parameter vs []) (text ++ c :: rest) = some r) :
    parameters.flatMap Prod.snd ++ (vs ++ [text]) <+: r.values := by
  rw [run_append, run_bare htext, Option.bind_some, run_cons, Option.bind_eq_some_iff] at h
  rcases h with ⟨r₁, hstep, hrun⟩
  have hquote : Not (c = 34) := by
    rintro rfl
    exact absurd hc (by decide)
  simp only [step, hquote, if_false, hc, if_true, List.nil_append] at hstep
  rw [← (afterValue_values hstep).1]
  exact run_values hrun

end Reading

def readLine (line : Bytes) : Option Property :=
  match Reading.run (.propertyName []) line with
  | some (.propertyValue name parameters read) => some ⟨name, parameters, read⟩
  | _ => none

theorem readLine_eq_some_iff {line : Bytes} {p : Property} :
    readLine line = some p ↔
      Reading.run (.propertyName []) line = some (.propertyValue p.name p.parameters p.value) := by
  unfold readLine
  split
  · rename_i name parameters read h
    rw [h]
    constructor
    · rintro ⟨⟩
      rfl
    · intro heq
      cases p
      cases heq
      rfl
  · rename_i h
    constructor
    · rintro ⟨⟩
    · intro heq
      exact absurd heq (h _ _ _)

/-!
## Values of type TEXT
-/

def unescape : Bytes -> Option Bytes
  | [] => some []
  | [92] => none
  | 92 :: c :: rest =>
      if c = 92 ∨ c = 44 ∨ c = 59 then (unescape rest).map (c :: ·)
      else if c = 110 ∨ c = 78 then (unescape rest).map (10 :: ·)
      else none
  | c :: rest => (unescape rest).map (c :: ·)

theorem unescape_cons {c : UInt8} (rest : Bytes) (hc : c ≠ 92) :
    unescape (c :: rest) = (unescape rest).map (c :: ·) := by
  rw [unescape]
  · rintro rfl
    exact absurd rfl hc
  · rintro d r rfl
    exact absurd rfl hc

theorem unescape_of_not_mem {text : Bytes} (h : 92 ∉ text) : unescape text = some text := by
  induction text with
  | nil => rfl
  | cons c text ih =>
      rw [List.mem_cons, not_or] at h
      rw [unescape_cons text fun hc => h.1 hc.symm, ih h.2]
      rfl

theorem length_le_of_same {text decoded : Bytes}
    (h : decoded = text ∧ 92 ∉ text ∨ decoded.length < text.length) :
    decoded.length ≤ text.length := by
  rcases h with ⟨rfl, -⟩ | hlt
  · exact Nat.le_refl _
  · exact Nat.le_of_lt hlt

theorem unescape_eq_some {text decoded : Bytes} (h : unescape text = some decoded) :
    decoded = text ∧ 92 ∉ text ∨ decoded.length < text.length := by
  fun_induction unescape text generalizing decoded with
  | case1 =>
      cases h
      exact Or.inl ⟨rfl, List.not_mem_nil⟩
  | case2 => cases h
  | case3 c rest hc ih =>
      rw [Option.map_eq_some_iff] at h
      rcases h with ⟨r, hr, rfl⟩
      have hle := length_le_of_same (ih hr)
      right
      simp only [List.length_cons]
      omega
  | case4 c rest hc hn ih =>
      rw [Option.map_eq_some_iff] at h
      rcases h with ⟨r, hr, rfl⟩
      have hle := length_le_of_same (ih hr)
      right
      simp only [List.length_cons]
      omega
  | case5 => cases h
  | case6 c rest hend hmid ih =>
      rw [Option.map_eq_some_iff] at h
      rcases h with ⟨r, hr, rfl⟩
      rcases ih hr with ⟨rfl, hno⟩ | hlt
      · left
        refine ⟨rfl, ?_⟩
        rw [List.mem_cons, not_or]
        refine ⟨?_, hno⟩
        rintro rfl
        cases r with
        | nil => exact hend rfl rfl
        | cons d r => exact hmid d r rfl rfl
      · right
        simp only [List.length_cons]
        omega

/-- The properties whose values are of type TEXT. -/
def textNames : List Bytes :=
  [ascii "VERSION", ascii "PRODID", ascii "CALSCALE", ascii "METHOD", ascii "X-WR-CALNAME",
    ascii "X-PUBLISHED-TTL", ascii "UID", ascii "STATUS", ascii "SUMMARY", ascii "LOCATION",
    ascii "DESCRIPTION"]

def decodeValue (p : Property) : Option Property :=
  if p.name ∈ textNames then (unescape p.value).map fun v => { p with value := v }
  else some p

def readProperty (line : Bytes) : Option Property :=
  (readLine line).bind decodeValue

/-!
## Components
-/

structure Calendar where
  properties : List Property
  events : List (List Property)
deriving DecidableEq

def beginOf (component : String) : Property :=
  ⟨ascii "BEGIN", [], ascii component⟩

def endOf (component : String) : Property :=
  ⟨ascii "END", [], ascii component⟩

/-- Where the reader stands among the components. -/
inductive Place where
  | outside
  | inCalendar (properties : List Property) (events : List (List Property))
  | inEvent (properties : List Property) (events : List (List Property)) (current : List Property)
  | ended (calendar : Calendar)

def opensOrCloses (p : Property) : Prop :=
  p.name = ascii "BEGIN" ∨ p.name = ascii "END"

instance (p : Property) : Decidable (opensOrCloses p) :=
  inferInstanceAs (Decidable (_ ∨ _))

variable {properties : List Property}

namespace Place

/-- The properties of the calendar stand in front of its components. -/
def step : Place -> Property -> Option Place
  | .outside, p => if p = beginOf "VCALENDAR" then some (.inCalendar [] []) else none
  | .inCalendar properties events, p =>
      if p = beginOf "VEVENT" then some (.inEvent properties events [])
      else if p = endOf "VCALENDAR" then some (.ended ⟨properties, events⟩)
      else if opensOrCloses p ∨ events ≠ [] then none
      else some (.inCalendar (properties ++ [p]) events)
  | .inEvent properties events current, p =>
      if p = endOf "VEVENT" then some (.inCalendar properties (events ++ [current]))
      else if opensOrCloses p then none
      else some (.inEvent properties events (current ++ [p]))
  | .ended _, _ => none

def run (place : Place) (properties : List Property) : Option Place :=
  properties.foldlM step place

theorem run_cons (place : Place) (p : Property) (properties : List Property) :
    place.run (p :: properties) = (place.step p).bind fun place' => place'.run properties :=
  rfl

theorem run_append (place : Place) (properties properties' : List Property) :
    place.run (properties ++ properties') =
      (place.run properties).bind fun place' => place'.run properties' :=
  List.foldlM_append

def ofEvent (event : List Property) : List Property :=
  beginOf "VEVENT" :: (event ++ [endOf "VEVENT"])

def passed : Place -> List Property
  | .outside => []
  | .inCalendar properties events =>
      beginOf "VCALENDAR" :: (properties ++ events.flatMap ofEvent)
  | .inEvent properties events current =>
      beginOf "VCALENDAR" ::
        (properties ++ events.flatMap ofEvent ++ beginOf "VEVENT" :: current)
  | .ended calendar =>
      beginOf "VCALENDAR" ::
        (calendar.properties ++ calendar.events.flatMap ofEvent ++ [endOf "VCALENDAR"])

theorem step_passed {place place' : Place} {p : Property} (h : place.step p = some place') :
    place'.passed = place.passed ++ [p] := by
  cases place with
  | outside =>
      simp only [step] at h
      split at h
      · rename_i hp
        cases h
        simp [passed, hp]
      · cases h
  | inCalendar properties events =>
      simp only [step] at h
      split at h
      · rename_i hp
        cases h
        simp [passed, hp]
      · split at h
        · rename_i hp
          cases h
          simp [passed, hp]
        · split at h
          · cases h
          · rename_i hnot
            rw [not_or, not_not] at hnot
            cases h
            simp [passed, hnot.2]
  | inEvent properties events current =>
      simp only [step] at h
      split at h
      · rename_i hp
        cases h
        simp [passed, hp, ofEvent]
      · split at h
        · cases h
        · cases h
          simp [passed]
  | ended calendar => cases h

theorem run_passed {place place' : Place} (h : place.run properties = some place') :
    place'.passed = place.passed ++ properties := by
  induction properties generalizing place with
  | nil =>
      cases h
      exact (List.append_nil _).symm
  | cons p properties ih =>
      rw [run_cons, Option.bind_eq_some_iff] at h
      rcases h with ⟨place₁, hstep, hrun⟩
      rw [ih hrun, step_passed hstep, List.append_assoc, List.singleton_append]

theorem run_properties {properties more : List Property}
    (h : forall p, p ∈ more -> Not (opensOrCloses p)) :
    run (.inCalendar properties []) more = some (.inCalendar (properties ++ more) []) := by
  induction more generalizing properties with
  | nil => simp [run]
  | cons p more ih =>
      have hp := h p List.mem_cons_self
      have hbegin : p ≠ beginOf "VEVENT" := by
        rintro rfl
        exact hp (Or.inl rfl)
      have hend : p ≠ endOf "VCALENDAR" := by
        rintro rfl
        exact hp (Or.inr rfl)
      rw [run_cons]
      simp only [step, if_neg hbegin, if_neg hend, hp, ne_eq, not_true_eq_false, or_self, if_false,
        Option.bind_some]
      rw [ih fun q hq => h q (List.mem_cons_of_mem p hq), List.append_assoc,
        List.singleton_append]

theorem run_current {events : List (List Property)}
    {current more : List Property} (h : forall p, p ∈ more -> Not (opensOrCloses p)) :
    run (.inEvent properties events current) more =
      some (.inEvent properties events (current ++ more)) := by
  induction more generalizing current with
  | nil => simp [run]
  | cons p more ih =>
      have hp := h p List.mem_cons_self
      have hend : p ≠ endOf "VEVENT" := by
        rintro rfl
        exact hp (Or.inr rfl)
      rw [run_cons]
      simp only [step, if_neg hend, hp, if_false, Option.bind_some]
      rw [ih fun q hq => h q (List.mem_cons_of_mem p hq), List.append_assoc,
        List.singleton_append]

theorem run_ofEvent {events : List (List Property)}
    {event : List Property} (h : forall p, p ∈ event -> Not (opensOrCloses p)) :
    run (.inCalendar properties events) (ofEvent event) =
      some (.inCalendar properties (events ++ [event])) := by
  have hbegin : step (.inCalendar properties events) (beginOf "VEVENT") =
      some (.inEvent properties events []) := by simp [step]
  rw [ofEvent, run_cons, hbegin, Option.bind_some, run_append, run_current h, Option.bind_some,
    List.nil_append]
  simp [run, step]

theorem run_events {events more : List (List Property)}
    (h : forall event, event ∈ more -> forall p, p ∈ event -> Not (opensOrCloses p)) :
    run (.inCalendar properties events) (more.flatMap ofEvent) =
      some (.inCalendar properties (events ++ more)) := by
  induction more generalizing events with
  | nil => simp [run]
  | cons event more ih =>
      rw [List.flatMap_cons, run_append, run_ofEvent (h event List.mem_cons_self),
        Option.bind_some, ih fun e he => h e (List.mem_cons_of_mem event he), List.append_assoc,
        List.singleton_append]

end Place

/-- The properties and marks of a calendar in their order. -/
def Calendar.flatten (calendar : Calendar) : List Property :=
  beginOf "VCALENDAR" ::
    (calendar.properties ++ calendar.events.flatMap Place.ofEvent ++ [endOf "VCALENDAR"])

def readComponents (properties : List Property) : Option Calendar :=
  match Place.outside.run properties with
  | some (.ended calendar) => some calendar
  | _ => none

theorem flatten_of_readComponents {calendar : Calendar}
    (h : readComponents properties = some calendar) : properties = calendar.flatten := by
  unfold readComponents at h
  split at h
  · rename_i ended hrun
    cases h
    exact (Place.run_passed hrun).symm
  · cases h

def Calendar.WellMarked (calendar : Calendar) : Prop :=
  (forall p, p ∈ calendar.properties -> Not (opensOrCloses p)) ∧
    forall event, event ∈ calendar.events -> forall p, p ∈ event -> Not (opensOrCloses p)

theorem readComponents_flatten {calendar : Calendar} (h : calendar.WellMarked) :
    readComponents calendar.flatten = some calendar := by
  have hbegin : Place.step .outside (beginOf "VCALENDAR") = some (.inCalendar [] []) := by
    simp [Place.step]
  have hend : Place.run (.inCalendar calendar.properties calendar.events) [endOf "VCALENDAR"] =
      some (.ended calendar) := by
    have hne : endOf "VCALENDAR" ≠ beginOf "VEVENT" := by decide
    simp [Place.run, Place.step, hne]
  have hrun : Place.outside.run calendar.flatten = some (.ended calendar) := by
    rw [Calendar.flatten, Place.run_cons, hbegin, Option.bind_some, Place.run_append,
      Place.run_append, Place.run_properties h.1, Option.bind_some, List.nil_append,
      Place.run_events h.2, Option.bind_some, List.nil_append, hend]
  rw [readComponents, hrun]

/-!
## Whole texts
-/

def readLines (text : Bytes) : Option (List Bytes) :=
  if (contentLines text).getLast? = some [] then some (contentLines text).dropLast else none

def readProperties (text : Bytes) : Option (List Property) :=
  (readLines text).bind fun lines => lines.mapM readProperty

def readCalendar (text : Bytes) : Option Calendar :=
  (readProperties text).bind readComponents

theorem readCalendar_eq_some_iff {text : Bytes} {calendar : Calendar} (h : calendar.WellMarked) :
    readCalendar text = some calendar ↔ readProperties text = some calendar.flatten := by
  unfold readCalendar
  rw [Option.bind_eq_some_iff]
  constructor
  · rintro ⟨properties, hread, hcomponents⟩
    rw [hread, flatten_of_readComponents hcomponents]
  · intro hread
    exact ⟨calendar.flatten, hread, readComponents_flatten h⟩

def continues (text : Bytes) : Prop :=
  text.head? = some 32 ∨ text.head? = some 9

/-- A line that does not continue the one before it. -/
def OpensLine (piece : Bytes) : Prop :=
  piece ≠ [] ∧ Not (continues piece)

instance (piece : Bytes) : Decidable (OpensLine piece) :=
  inferInstanceAs (Decidable (Not (piece = []) ∧ Not (_ ∨ _)))

theorem OpensLine.append {head : Bytes} (h : OpensLine head) (rest : Bytes) :
    OpensLine (head ++ rest) := by
  cases head with
  | nil => exact absurd rfl h.1
  | cons c head => exact ⟨List.cons_ne_nil _ _, h.2⟩

theorem contentLines_flatMap {pieces : List Bytes}
    (h : forall piece, piece ∈ pieces -> OpensLine piece) :
    contentLines (pieces.flatMap (· ++ crlf)) = pieces.flatMap contentLines ++ [[]] := by
  induction pieces with
  | nil => rfl
  | cons piece pieces ih =>
      have hrest := ih fun other hother => h other (List.mem_cons_of_mem piece hother)
      have hhead : Not (continues (pieces.flatMap (· ++ crlf))) := by
        cases pieces with
        | nil => simp [continues]
        | cons next pieces =>
            rcases h next (by simp) with ⟨hne, hnot⟩
            cases next with
            | nil => exact absurd rfl hne
            | cons c next => exact hnot
      simp only [continues, not_or] at hhead
      rw [List.flatMap_cons, contentLines_line hhead.1 hhead.2, hrest, List.flatMap_cons,
        List.append_assoc]

theorem readProperties_flatMap {pieces : List Bytes}
    (h : forall piece, piece ∈ pieces -> OpensLine piece) :
    readProperties (pieces.flatMap (· ++ crlf)) =
      (pieces.flatMap contentLines).mapM readProperty := by
  unfold readProperties readLines
  rw [contentLines_flatMap h]
  simp

def ReadsAs (piece : Bytes) (p : Property) : Prop :=
  exists line, contentLines piece = [line] ∧ readProperty line = some p

theorem length_of_mapM {α β : Type} {f : α -> Option β} {xs : List α} {ys : List β}
    (h : xs.mapM f = some ys) : ys.length = xs.length := by
  induction xs generalizing ys with
  | nil =>
      cases h
      rfl
  | cons x xs ih =>
      rw [List.mapM_cons] at h
      simp only [Option.bind_eq_bind, Option.bind_eq_some_iff, Option.pure_def,
        Option.some.injEq] at h
      rcases h with ⟨y, -, rest, hrest, rfl⟩
      rw [List.length_cons, List.length_cons, ih hrest]

theorem mapM_flatMap_of_readsAs {pieces : List Bytes} (h : List.Forall₂ ReadsAs pieces properties) :
    (pieces.flatMap contentLines).mapM readProperty = some properties := by
  induction h with
  | nil => rfl
  | cons hfirst _ ih =>
      rcases hfirst with ⟨line, hlines, hread⟩
      rw [List.flatMap_cons, hlines, List.singleton_append, List.mapM_cons, hread, ih]
      rfl

theorem length_le_flatMap (pieces : List Bytes) :
    pieces.length ≤ (pieces.flatMap contentLines).length := by
  induction pieces with
  | nil => exact Nat.le_refl _
  | cons piece pieces ih =>
      have hpos := List.length_pos_iff.mpr (contentLines_ne_nil piece)
      rw [List.flatMap_cons, List.length_append, List.length_cons]
      omega

theorem readsAs_of_mapM_flatMap {pieces : List Bytes}
    (h : (pieces.flatMap contentLines).mapM readProperty = some properties)
    (hlength : properties.length = pieces.length) :
    List.Forall₂ ReadsAs pieces properties := by
  induction pieces generalizing properties with
  | nil =>
      cases properties with
      | nil => exact List.Forall₂.nil
      | cons p properties => exact absurd hlength (by simp)
  | cons piece pieces ih =>
      cases hlines : contentLines piece with
      | nil => exact absurd hlines (contentLines_ne_nil piece)
      | cons line others =>
          rw [List.flatMap_cons, hlines, List.cons_append, List.mapM_cons] at h
          simp only [Option.bind_eq_bind, Option.bind_eq_some_iff, Option.pure_def,
            Option.some.injEq] at h
          rcases h with ⟨p, hread, rest, hrest, rfl⟩
          have hcount := length_of_mapM hrest
          have hle := length_le_flatMap pieces
          have hothers : others = [] := by
            rw [List.length_append] at hcount
            simp only [List.length_cons, Nat.add_right_cancel_iff] at hlength
            exact List.eq_nil_of_length_eq_zero (by omega)
          subst hothers
          rw [List.nil_append] at hrest
          exact List.Forall₂.cons ⟨line, hlines, hread⟩
            (ih hrest (Nat.succ.inj hlength))

/-!
## Lines with a fixed start
-/

/-- The text in front of a value, up to its colon. -/
structure IsHead (head name : Bytes) (parameters : List (Bytes × List Bytes)) : Prop where
  reads : Reading.run (.propertyName []) head = some (.propertyValue name parameters [])
  noReturn : 13 ∉ head

theorem readsAs_append {start value : Bytes} {p : Property} (hstart : 13 ∉ start) :
    ReadsAs (start ++ value) p ↔
      exists rest, contentLines value = [rest] ∧ readProperty (start ++ rest) = some p := by
  have hlast : start.getLast? = some 13 -> value.head? ≠ some 10 :=
    fun hl => absurd (List.mem_of_getLast? hl) hstart
  unfold ReadsAs
  rw [contentLines_append (hasCrlf_of_not_mem hstart) hlast]
  cases hlines : contentLines value with
  | nil => exact absurd hlines (contentLines_ne_nil value)
  | cons first others =>
      constructor
      · rintro ⟨line, hline, hread⟩
        simp only [onFirst, List.cons.injEq] at hline
        rcases hline with ⟨rfl, rfl⟩
        exact ⟨first, rfl, hread⟩
      · rintro ⟨rest, hrest, hread⟩
        rcases List.cons.inj hrest with ⟨rfl, rfl⟩
        exact ⟨start ++ first, rfl, hread⟩

theorem readProperty_head {head name value : Bytes} (h : IsHead head name parameters) :
    readProperty (head ++ value) = decodeValue ⟨name, parameters, value⟩ := by
  have hline : readLine (head ++ value) = some ⟨name, parameters, value⟩ := by
    rw [readLine_eq_some_iff, Reading.run_append, h.reads, Option.bind_some, Reading.run_value,
      List.nil_append]
  rw [readProperty, hline, Option.bind_some]

theorem readsAs_raw {head name value : Bytes}
    (h : IsHead head name parameters) (hname : name ∉ textNames) :
    ReadsAs (head ++ value) ⟨name, parameters, value⟩ ↔ hasCrlf value = false := by
  rw [readsAs_append h.noReturn]
  constructor
  · rintro ⟨rest, hlines, hread⟩
    rw [readProperty_head h, decodeValue, if_neg hname] at hread
    cases hread
    rcases single_contentLine hlines with ⟨-, hno⟩ | hlt
    · exact hno
    · exact absurd hlt (Nat.lt_irrefl _)
  · intro hno
    refine ⟨value, contentLines_of_noCrlf hno, ?_⟩
    rw [readProperty_head h, decodeValue, if_neg hname]

/-- A value of type TEXT that is written as it is comes back when it has no line break and no
backslash. -/
theorem readsAs_rawText {head name value : Bytes}
    (h : IsHead head name parameters) (hname : name ∈ textNames) :
    ReadsAs (head ++ value) ⟨name, parameters, value⟩ ↔
      hasCrlf value = false ∧ 92 ∉ value := by
  rw [readsAs_append h.noReturn]
  constructor
  · rintro ⟨rest, hlines, hread⟩
    rw [readProperty_head h, decodeValue, if_pos hname, Option.map_eq_some_iff] at hread
    rcases hread with ⟨decoded, hdecoded, heq⟩
    cases heq
    rcases single_contentLine hlines with ⟨rfl, hno⟩ | hlt
    · rcases unescape_eq_some hdecoded with ⟨-, hbackslash⟩ | hlt
      · exact ⟨hno, hbackslash⟩
      · exact absurd hlt (Nat.lt_irrefl _)
    · rcases unescape_eq_some hdecoded with ⟨rfl, -⟩ | hlt'
      · exact absurd hlt (Nat.lt_irrefl _)
      · exact absurd (Nat.lt_trans hlt' hlt) (Nat.lt_irrefl _)
  · rintro ⟨hno, hbackslash⟩
    refine ⟨value, contentLines_of_noCrlf hno, ?_⟩
    rw [readProperty_head h, decodeValue, if_pos hname, unescape_of_not_mem hbackslash]
    rfl

end ContentLines
end Text
end ServerComponents
