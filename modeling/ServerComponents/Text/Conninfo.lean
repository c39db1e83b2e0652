import Mathlib

/-!
# Connection strings

A connection string has settings `keyword=value`.  A value may stand in single quotes, and a
backslash takes away the meaning of the sign behind it, in quotes and outside of them.  Blanks
may stand around the equals sign.  The texts have no sign of code zero.
-/

namespace ServerComponents
namespace Conninfo

abbrev Setting := List Char × List Char

def isBlank (c : Char) : Bool :=
  c = ' ' || ('\t' ≤ c && c ≤ '\r')

instance (text : List Char) : Decidable (forall c, c ∈ text -> isBlank c = false) :=
  List.decidableBAll _ _

/-- Where the reader is: between settings, in or behind a keyword, or before or in a value.  A
setting without an equals sign ends the reading. -/
inductive State where
  | between
  | keyword (name : List Char)
  | behind (name : List Char)
  | before (name : List Char)
  | plain (name value : List Char)
  | escaped (name value : List Char)
  | quoted (name value : List Char)
  | quotedEscaped (name value : List Char)
  | failed

structure Reader where
  settings : List Setting
  state : State

namespace Reader

def start : Reader := ⟨[], .between⟩

def go (R : Reader) (state : State) : Reader :=
  { R with state := state }

def store (R : Reader) (name value : List Char) : Reader :=
  ⟨R.settings ++ [(name, value)], .between⟩

def read (R : Reader) (c : Char) : Reader :=
  match R.state with
  | .between =>
      if isBlank c then R
      else if c = '=' then R.go (.before [])
      else R.go (.keyword [c])
  | .keyword name =>
      if c = '=' then R.go (.before name)
      else if isBlank c then R.go (.behind name)
      else R.go (.keyword (name ++ [c]))
  | .behind name =>
      if isBlank c then R
      else if c = '=' then R.go (.before name)
      else R.go .failed
  | .before name =>
      if isBlank c then R
      else if c = '\'' then R.go (.quoted name [])
      else if c = '\\' then R.go (.escaped name [])
      else R.go (.plain name [c])
  | .plain name value =>
      if isBlank c then R.store name value
      else if c = '\\' then R.go (.escaped name value)
      else R.go (.plain name (value ++ [c]))
  | .escaped name value => R.go (.plain name (value ++ [c]))
  | .quoted name value =>
      if c = '\\' then R.go (.quotedEscaped name value)
      else if c = '\'' then R.store name value
      else R.go (.quoted name (value ++ [c]))
  | .quotedEscaped name value => R.go (.quoted name (value ++ [c]))
  | .failed => R

def readAll (R : Reader) (text : List Char) : Reader :=
  text.foldl read R

/-- The settings, if the text may end here.  A backslash at the end stands for nothing. -/
def finish (R : Reader) : Option (List Setting) :=
  match R.state with
  | .between => some R.settings
  | .before name => some (R.settings ++ [(name, [])])
  | .plain name value => some (R.settings ++ [(name, value)])
  | .escaped name value => some (R.settings ++ [(name, value)])
  | .keyword _ => none
  | .behind _ => none
  | .quoted _ _ => none
  | .quotedEscaped _ _ => none
  | .failed => none

end Reader

def parse (text : List Char) : Option (List Setting) :=
  (Reader.start.readAll text).finish

/-- A later setting of a keyword replaces an earlier one. -/
def valueOf (name : List Char) (settings : List Setting) : Option (List Char) :=
  (settings.reverse.find? (fun s => s.1 == name)).map Prod.snd

/-!
## Written settings
-/

def written (s : Setting) : List Char :=
  s.1 ++ '=' :: s.2

def writtenAll : List Setting -> List Char
  | [] => []
  | [s] => written s
  | s :: rest => written s ++ ' ' :: writtenAll rest

structure PlainValue (value : List Char) : Prop where
  blanks : forall c, c ∈ value -> isBlank c = false
  escapes : '\\' ∉ value
  quote : value.head? ≠ some '\''

instance (value : List Char) : Decidable (PlainValue value) :=
  decidable_of_iff ((forall c, c ∈ value -> isBlank c = false) ∧ '\\' ∉ value ∧
      value.head? ≠ some '\'')
    ⟨fun h => ⟨h.1, h.2.1, h.2.2⟩, fun h => ⟨h.blanks, h.escapes, h.quote⟩⟩

structure PlainName (name : List Char) : Prop where
  blanks : forall c, c ∈ name -> isBlank c = false
  equals : '=' ∉ name

instance (name : List Char) : Decidable (PlainName name) :=
  decidable_of_iff ((forall c, c ∈ name -> isBlank c = false) ∧ '=' ∉ name)
    ⟨fun h => ⟨h.1, h.2⟩, fun h => ⟨h.blanks, h.equals⟩⟩

theorem plainValue_concat {value : List Char} {c : Char} (h : PlainValue value)
    (hne : value ≠ []) (hblank : isBlank c = false) (hescape : c ≠ '\\') :
    PlainValue (value ++ [c]) where
  blanks := by
    intro d hd
    rcases List.mem_append.mp hd with hd | hd
    · exact h.blanks d hd
    · rwa [List.mem_singleton.mp hd]
  escapes := by
    intro hd
    rcases List.mem_append.mp hd with hd | hd
    · exact h.escapes hd
    · exact hescape (List.mem_singleton.mp hd).symm
  quote := by
    rw [List.head?_append_of_ne_nil _ hne]
    exact h.quote

/-!
## What a setting takes up

Each setting takes up its keyword, the equals sign, the value and the sign behind it, and
more if the value is not read as it stands.
-/

def cost (s : Setting) : Nat :=
  s.1.length + s.2.length + 2

def weight (settings : List Setting) : Nat :=
  (settings.map cost).sum

theorem weight_concat (settings : List Setting) (name value : List Char) :
    weight (settings ++ [(name, value)]) =
      weight settings + (name.length + value.length + 2) := by
  simp [weight, cost]

variable {settings : List Setting}

theorem weight_writtenAll (hne : settings ≠ []) :
    weight settings = (writtenAll settings).length + 1 := by
  induction settings with
  | nil => exact absurd rfl hne
  | cons s rest ih =>
      cases rest with
      | nil =>
          simp [weight, cost, writtenAll, written]
          omega
      | cons s' rest =>
          have htail := ih (List.cons_ne_nil _ _)
          have hcons : weight (s :: s' :: rest) = cost s + weight (s' :: rest) := by
            simp [weight]
          rw [hcons, htail]
          simp [cost, writtenAll, written]
          omega

namespace State

/-- The signs that the reader has taken up for the setting it is in. -/
def taken : State -> Nat
  | between => 0
  | keyword name => name.length
  | behind name => name.length + 1
  | before name => name.length + 1
  | plain name value => name.length + value.length + 1
  | escaped name value => name.length + value.length + 2
  | quoted name value => name.length + value.length + 2
  | quotedEscaped name value => name.length + value.length + 3
  | failed => 0

def Plain : State -> Prop
  | plain _ value => PlainValue value ∧ value ≠ []
  | _ => True

end State

/-- The settings take up no more than has been read, and only plain values take up all. -/
structure Within (R : Reader) (count : Nat) : Prop where
  weight_le : weight R.settings + R.state.taken ≤ count
  plain : weight R.settings + R.state.taken = count ->
    (forall s, s ∈ R.settings -> PlainValue s.2) ∧ R.state.Plain

theorem Within.of_lt {R : Reader} {count : Nat}
    (h : weight R.settings + R.state.taken < count) : Within R count where
  weight_le := Nat.le_of_lt h
  plain heq := absurd heq (Nat.ne_of_lt h)

theorem Within.go {R : Reader} {count : Nat} (h : Within R count) {state : State}
    (htaken : state.taken ≤ R.state.taken + 1)
    (hplain : state.taken = R.state.taken + 1 -> R.state.Plain -> state.Plain) :
    Within (R.go state) (count + 1) := by
  have hle := h.weight_le
  refine ⟨?_, fun heq => ?_⟩
  · show weight R.settings + state.taken ≤ count + 1
    omega
  · have heq' : weight R.settings + state.taken = count + 1 := heq
    rcases h.plain (by omega) with ⟨hsettings, hstate⟩
    exact ⟨hsettings, hplain (by omega) hstate⟩

theorem Within.store {R : Reader} {count : Nat} (h : Within R count) {name value : List Char}
    (htaken : name.length + value.length + 1 ≤ R.state.taken)
    (hplain : name.length + value.length + 1 = R.state.taken -> R.state.Plain ->
      PlainValue value) : Within (R.store name value) (count + 1) := by
  have hle := h.weight_le
  have hweight : weight (R.store name value).settings =
      weight R.settings + (name.length + value.length + 2) := weight_concat _ _ _
  refine ⟨?_, fun heq => ?_⟩
  · show weight (R.store name value).settings + 0 ≤ count + 1
    omega
  · have heq' : weight (R.store name value).settings + 0 = count + 1 := heq
    rcases h.plain (by omega) with ⟨hsettings, hstate⟩
    refine ⟨fun s hs => ?_, trivial⟩
    rcases List.mem_append.mp hs with hs | hs
    · exact hsettings s hs
    · rw [List.mem_singleton.mp hs]
      exact hplain (by omega) hstate

theorem Within.stay {R : Reader} {count : Nat} (h : Within R count) : Within R (count + 1) :=
  Within.of_lt (Nat.lt_succ_of_le h.weight_le)

theorem within_read {R : Reader} {count : Nat} (h : Within R count) (c : Char) :
    Within (R.read c) (count + 1) := by
  unfold Reader.read
  cases hstate : R.state with
  | between =>
      dsimp only
      split
      · exact h.stay
      · split
        · exact h.go (by simp [hstate, State.taken]) (fun _ _ => trivial)
        · exact h.go (by simp [hstate, State.taken]) (fun _ _ => trivial)
  | keyword name =>
      dsimp only
      split
      · exact h.go (by simp [hstate, State.taken]) (fun _ _ => trivial)
      · split
        · exact h.go (by simp [hstate, State.taken]) (fun _ _ => trivial)
        · exact h.go (by simp [hstate, State.taken]) (fun _ _ => trivial)
  | behind name =>
      dsimp only
      split
      · exact h.stay
      · split
        · exact h.go (by simp [hstate, State.taken]) (fun _ _ => trivial)
        · exact h.go (by simp [hstate, State.taken]) (fun _ _ => trivial)
  | before name =>
      dsimp only
      split
      · exact h.stay
      · rename_i hblank
        split
        · exact h.go (by simp [hstate, State.taken]) (fun _ _ => trivial)
        · rename_i hquote
          split
          · exact h.go (by simp [hstate, State.taken]) (fun _ _ => trivial)
          · rename_i hescape
            refine h.go (by simp [hstate, State.taken]) (fun _ _ => ⟨?_, by simp⟩)
            exact ⟨by simpa using hblank, by simpa using fun heq => hescape heq.symm,
              by simpa using hquote⟩
  | plain name value =>
      dsimp only
      split
      · refine h.store (by simp [hstate, State.taken]) (fun _ hplain => ?_)
        rw [hstate] at hplain
        exact hplain.1
      · rename_i hblank
        split
        · exact h.go (by simp [hstate, State.taken]) (fun _ _ => trivial)
        · rename_i hescape
          refine h.go (by simp [hstate, State.taken]; omega) (fun _ hplain => ?_)
          rw [hstate] at hplain
          exact ⟨plainValue_concat hplain.1 hplain.2 (by simpa using hblank) hescape, by simp⟩
  | escaped name value =>
      refine h.go (by simp [hstate, State.taken]; omega) (fun htaken _ => ?_)
      simp [hstate, State.taken] at htaken
      omega
  | quoted name value =>
      dsimp only
      split
      · exact h.go (by simp [hstate, State.taken]) (fun _ _ => trivial)
      · split
        · refine h.store (by simp [hstate, State.taken]) (fun htaken _ => ?_)
          simp [hstate, State.taken] at htaken
        · exact h.go (by simp [hstate, State.taken]; omega) (fun _ _ => trivial)
  | quotedEscaped name value =>
      exact h.go (by simp [hstate, State.taken]; omega) (fun _ _ => trivial)
  | failed => exact h.stay

theorem within_readAll {R : Reader} {count : Nat} (h : Within R count) (text : List Char) :
    Within (R.readAll text) (count + text.length) := by
  induction text generalizing R count with
  | nil => exact h
  | cons c text ih =>
      have hrest := ih (within_read h c)
      rw [List.length_cons, <- Nat.add_assoc, Nat.add_right_comm]
      exact hrest

theorem within_start : Within Reader.start 0 :=
  ⟨Nat.le_refl 0, fun _ => ⟨by simp [Reader.start], trivial⟩⟩

theorem weight_parse {text : List Char} (h : parse text = some settings) :
    weight settings ≤ text.length + 1 ∧
      (weight settings = text.length + 1 -> forall s, s ∈ settings -> PlainValue s.2) := by
  have hwithin := within_readAll within_start text
  rw [Nat.zero_add] at hwithin
  unfold parse at h
  generalize Reader.start.readAll text = R at h hwithin
  have hle := hwithin.weight_le
  unfold Reader.finish at h
  cases hstate : R.state with
  | between =>
      rw [hstate] at h hle
      cases h
      refine ⟨by omega, fun heq => ?_⟩
      simp [State.taken] at hle
      omega
  | before name =>
      rw [hstate] at h hle
      cases h
      rw [weight_concat]
      simp only [State.taken] at hle
      refine ⟨by simp; omega, fun heq => ?_⟩
      have htight : weight R.settings + R.state.taken = text.length := by
        simp [hstate, State.taken] at heq ⊢
        omega
      intro s hs
      rcases List.mem_append.mp hs with hs | hs
      · exact (hwithin.plain htight).1 s hs
      · rw [List.mem_singleton.mp hs]
        exact ⟨by simp, by simp, by simp⟩
  | plain name value =>
      rw [hstate] at h hle
      cases h
      rw [weight_concat]
      simp only [State.taken] at hle
      refine ⟨by omega, fun heq => ?_⟩
      have htight : weight R.settings + R.state.taken = text.length := by
        simp [hstate, State.taken]
        omega
      intro s hs
      rcases List.mem_append.mp hs with hs | hs
      · exact (hwithin.plain htight).1 s hs
      · have hplain := (hwithin.plain htight).2
        rw [hstate] at hplain
        rw [List.mem_singleton.mp hs]
        exact hplain.1
  | escaped name value =>
      rw [hstate] at h hle
      cases h
      rw [weight_concat]
      simp only [State.taken] at hle
      exact ⟨by omega, fun heq => by omega⟩
  | keyword name => simp [hstate] at h
  | behind name => simp [hstate] at h
  | quoted name value => simp [hstate] at h
  | quotedEscaped name value => simp [hstate] at h
  | failed => simp [hstate] at h

/-!
## Reading what is written
-/

namespace Reader

theorem readAll_append (R : Reader) (text text' : List Char) :
    R.readAll (text ++ text') = (R.readAll text).readAll text' :=
  List.foldl_append

theorem readAll_cons (R : Reader) (c : Char) (text : List Char) :
    R.readAll (c :: text) = (R.read c).readAll text := rfl

theorem readAll_keyword (settings : List Setting) {name rest : List Char}
    (h : PlainName rest) :
    readAll ⟨settings, .keyword name⟩ rest = ⟨settings, .keyword (name ++ rest)⟩ := by
  induction rest generalizing name with
  | nil => rw [List.append_nil]; rfl
  | cons c rest ih =>
      have hblank := h.blanks c List.mem_cons_self
      have hequals : c ≠ '=' := fun heq => h.equals (heq ▸ List.mem_cons_self)
      have hread : read ⟨settings, .keyword name⟩ c = ⟨settings, .keyword (name ++ [c])⟩ := by
        simp [read, go, hblank, hequals]
      have hrest : PlainName rest :=
        ⟨fun d hd => h.blanks d (List.mem_cons_of_mem _ hd),
          fun hd => h.equals (List.mem_cons_of_mem _ hd)⟩
      rw [readAll_cons, hread, ih hrest, List.append_assoc, List.singleton_append]

theorem readAll_name (settings : List Setting) {name : List Char} (h : PlainName name) :
    readAll ⟨settings, .between⟩ (name ++ ['=']) = ⟨settings, .before name⟩ := by
  cases name with
  | nil => rfl
  | cons c name =>
      have hblank := h.blanks c List.mem_cons_self
      have hequals : c ≠ '=' := fun heq => h.equals (heq ▸ List.mem_cons_self)
      have hread : read ⟨settings, .between⟩ c = ⟨settings, .keyword [c]⟩ := by
        simp [read, go, hblank, hequals]
      have hrest : PlainName name :=
        ⟨fun d hd => h.blanks d (List.mem_cons_of_mem _ hd),
          fun hd => h.equals (List.mem_cons_of_mem _ hd)⟩
      have hend : isBlank '=' = false := rfl
      rw [List.cons_append, readAll_cons, hread, readAll_append, readAll_keyword settings hrest]
      simp [readAll, read, go]

theorem readAll_plain (settings : List Setting) {name value rest : List Char}
    (hblanks : forall c, c ∈ rest -> isBlank c = false) (hescapes : '\\' ∉ rest) :
    readAll ⟨settings, .plain name value⟩ rest = ⟨settings, .plain name (value ++ rest)⟩ := by
  induction rest generalizing value with
  | nil => rw [List.append_nil]; rfl
  | cons c rest ih =>
      have hblank := hblanks c List.mem_cons_self
      have hescape : c ≠ '\\' := fun heq => hescapes (heq ▸ List.mem_cons_self)
      have hread : read ⟨settings, .plain name value⟩ c =
          ⟨settings, .plain name (value ++ [c])⟩ := by
        simp [read, go, hblank, hescape]
      rw [readAll_cons, hread, ih (fun d hd => hblanks d (List.mem_cons_of_mem _ hd))
        (fun hd => hescapes (List.mem_cons_of_mem _ hd)), List.append_assoc,
        List.singleton_append]

theorem readAll_value (settings : List Setting) {name value : List Char} (h : PlainValue value)
    (hne : value ≠ []) :
    readAll ⟨settings, .before name⟩ value = ⟨settings, .plain name value⟩ := by
  cases value with
  | nil => exact absurd rfl hne
  | cons c value =>
      have hblank := h.blanks c List.mem_cons_self
      have hescape : c ≠ '\\' := fun heq => h.escapes (heq ▸ List.mem_cons_self)
      have hquote : c ≠ '\'' := fun heq => h.quote (by rw [heq]; rfl)
      have hread : read ⟨settings, .before name⟩ c = ⟨settings, .plain name [c]⟩ := by
        simp [read, go, hblank, hescape, hquote]
      rw [readAll_cons, hread, readAll_plain settings
        (fun d hd => h.blanks d (List.mem_cons_of_mem _ hd))
        (fun hd => h.escapes (List.mem_cons_of_mem _ hd))]
      rfl

theorem readAll_written (settings : List Setting) {s : Setting} (hname : PlainName s.1)
    (hvalue : PlainValue s.2) (hne : s.2 ≠ []) :
    readAll ⟨settings, .between⟩ (written s) = ⟨settings, .plain s.1 s.2⟩ := by
  have hsplit : written s = (s.1 ++ ['=']) ++ s.2 := by simp [written]
  rw [hsplit, readAll_append, readAll_name settings hname, readAll_value settings hvalue hne]

end Reader

theorem parse_writtenAll (hne : settings ≠ [])
    (hnames : forall s, s ∈ settings -> PlainName s.1 ∧ s.2 ≠ [])
    (hplain : forall s, s ∈ settings -> PlainValue s.2) :
    parse (writtenAll settings) = some settings := by
  have hread : forall (settings done : List Setting), settings ≠ [] ->
      (forall s, s ∈ settings -> PlainName s.1 ∧ s.2 ≠ []) ->
      (forall s, s ∈ settings -> PlainValue s.2) ->
      (Reader.readAll ⟨done, .between⟩ (writtenAll settings)).finish =
        some (done ++ settings) := by
    intro settings
    induction settings with
    | nil => exact fun _ h => absurd rfl h
    | cons s rest ih =>
        intro done _ hnames hplain
        have hs := hnames s List.mem_cons_self
        have hvalue := hplain s List.mem_cons_self
        cases rest with
        | nil =>
            show (Reader.readAll _ (written s)).finish = _
            rw [Reader.readAll_written done hs.1 hvalue hs.2]
            rfl
        | cons s' rest =>
            have hrest := ih (done ++ [s]) (List.cons_ne_nil _ _)
              (fun t ht => hnames t (List.mem_cons_of_mem _ ht))
              (fun t ht => hplain t (List.mem_cons_of_mem _ ht))
            show (Reader.readAll _ (written s ++ ' ' :: writtenAll (s' :: rest))).finish = _
            rw [Reader.readAll_append, Reader.readAll_written done hs.1 hvalue hs.2,
              Reader.readAll_cons]
            show (Reader.readAll ⟨done ++ [s], .between⟩ (writtenAll (s' :: rest))).finish = _
            rw [hrest, List.append_assoc, List.singleton_append]
  have hstart := hread settings [] hne hnames hplain
  rwa [List.nil_append] at hstart

/-!
# Round trips
-/

theorem mem_of_valueOf {name value : List Char}
    (h : valueOf name settings = some value) : (name, value) ∈ settings := by
  rcases Option.map_eq_some_iff.mp h with ⟨⟨name', value'⟩, hfind, hvalue⟩
  have hname : name' = name := by simpa using List.find?_some hfind
  have hmem := List.mem_reverse.mp (List.mem_of_find?_eq_some hfind)
  rw [<- hname, <- hvalue]
  exact hmem

theorem valueOf_of_mem (hnodup : (settings.map Prod.fst).Nodup)
    {s : Setting} (hs : s ∈ settings) : valueOf s.1 settings = some s.2 := by
  have hname : (settings.reverse.map Prod.fst).Nodup := by
    rw [List.map_reverse]
    exact List.nodup_reverse.mpr hnodup
  unfold valueOf
  cases hfind : settings.reverse.find? (fun t => t.1 == s.1) with
  | none =>
      have hnone := List.find?_eq_none.mp hfind s (List.mem_reverse.mpr hs)
      simp at hnone
  | some t =>
      have hsame : t.1 = s.1 := by simpa using List.find?_some hfind
      have ht := List.mem_of_find?_eq_some hfind
      have heq := List.inj_on_of_nodup_map hname ht (List.mem_reverse.mpr hs) hsame
      rw [heq]
      rfl

/-- The settings can be read back: each keyword has its value, and no other one has any. -/
def RoundTrip (settings : List Setting) : Prop :=
  exists found, parse (writtenAll settings) = some found ∧
    forall name, valueOf name found = valueOf name settings

/-- The text is as long as the settings are when their values are read as they stand; so
nothing is left for a value that is read otherwise. -/
theorem roundTrip_iff (hne : settings ≠ []) (hnodup : (settings.map Prod.fst).Nodup)
    (hnames : forall s, s ∈ settings -> PlainName s.1 ∧ s.2 ≠ []) :
    RoundTrip settings <-> forall s, s ∈ settings -> PlainValue s.2 := by
  constructor
  · rintro ⟨found, hparse, hvalues⟩
    have hsubset : settings ⊆ found := by
      intro s hs
      refine mem_of_valueOf ?_
      rw [hvalues, valueOf_of_mem hnodup hs]
    have hperm : List.Subperm settings found := (List.Nodup.of_map _ hnodup).subperm hsubset
    have hle : weight settings ≤ weight found := by
      rcases hperm with ⟨part, hpart, hsub⟩
      unfold weight
      rw [<- (hpart.map cost).sum_nat]
      exact (hsub.map cost).sum_le_sum (fun n _ => Nat.zero_le n)
    rcases weight_parse hparse with ⟨hbound, hplain⟩
    rw [weight_writtenAll hne] at hle
    exact fun s hs => hplain (Nat.le_antisymm hbound hle) s (hsubset hs)
  · intro hplain
    exact ⟨settings, parse_writtenAll hne hnames hplain, fun _ => rfl⟩

end Conninfo
end ServerComponents
