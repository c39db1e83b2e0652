import ServerComponents.Text.Lines

/-!
# Uniform resource identifiers

The generic syntax: a text is broken into scheme, authority, path, query and fragment, each
of which has its own signs; other signs have to be percent-encoded.
-/

namespace ServerComponents
namespace Uri

open Text (before after cut)

def isDigit (c : Char) : Bool := '0' ≤ c && c ≤ '9'

def isAlpha (c : Char) : Bool := ('A' ≤ c && c ≤ 'Z') || ('a' ≤ c && c ≤ 'z')

def isHexDigit (c : Char) : Bool :=
  isDigit c || ('A' ≤ c && c ≤ 'F') || ('a' ≤ c && c ≤ 'f')

def isUnreserved (c : Char) : Bool :=
  isAlpha c || isDigit c || ['-', '.', '_', '~'].contains c

def isSubDelim (c : Char) : Bool :=
  ['!', '$', '&', '\'', '(', ')', '*', '+', ',', ';', '='].contains c

def isPathChar (c : Char) : Bool :=
  isUnreserved c || isSubDelim c || c = ':' || c = '@'

def isQueryChar (c : Char) : Bool :=
  isPathChar c || c = '/' || c = '?'

/-- Only these signs, and others as percent signs with two hexadecimal digits. -/
def encoded (allowed : Char -> Bool) : List Char -> Bool
  | [] => true
  | '%' :: a :: b :: rest => isHexDigit a && isHexDigit b && encoded allowed rest
  | c :: rest => allowed c && encoded allowed rest

/-!
## Hosts
-/

def isDecOctet (digits : List Char) : Bool :=
  digits.all isDigit && digits != [] && (digits.length == 1 || digits.head? != some '0') &&
    decide (digits.foldl (fun n c => 10 * n + (c.toNat - '0'.toNat)) 0 ≤ 255)

def isIPv4 (text : List Char) : Bool :=
  (text.splitOn '.').length == 4 && (text.splitOn '.').all isDecOctet

def isH16 (digits : List Char) : Bool :=
  digits.all isHexDigit && 1 ≤ digits.length && digits.length ≤ 4

/-- How many groups of sixteen bits these are, of which the last may be an address of four
octets. -/
def groups (dotted : Bool) : List (List Char) -> Option Nat
  | [] => some 0
  | [last] => if isH16 last then some 1 else if dotted && isIPv4 last then some 2 else none
  | first :: rest => if isH16 first then (groups dotted rest).map (· + 1) else none

def groupsOf (dotted : Bool) (text : List Char) : Option Nat :=
  if text = [] then some 0 else groups dotted (text.splitOn ':')

/-- What stands before and behind the first pair of colons. -/
def cutPair : List Char -> Option (List Char × List Char)
  | [] => none
  | ':' :: ':' :: rest => some ([], rest)
  | c :: rest => (cutPair rest).map (fun parts => (c :: parts.1, parts.2))

def isIPv6 (text : List Char) : Bool :=
  match cutPair text with
  | none => groupsOf true text == some 8
  | some (left, right) =>
      match groupsOf false left, groupsOf true right with
      | some m, some n => m + n ≤ 7
      | _, _ => false

def isIPvFuture : List Char -> Bool
  | c :: rest =>
      (c = 'v' || c = 'V') && '.' ∈ rest && before '.' rest != [] &&
        (before '.' rest).all isHexDigit && after '.' rest != [] &&
          (after '.' rest).all (fun c => isUnreserved c || isSubDelim c || c = ':')
  | [] => false

def isPort : List Char -> Bool
  | [] => true
  | ':' :: digits => digits.all isDigit
  | _ => false

def isHostPort : List Char -> Bool
  | '[' :: rest =>
      ']' ∈ rest && (isIPv6 (before ']' rest) || isIPvFuture (before ']' rest)) &&
        isPort (after ']' rest)
  | text =>
      encoded (fun c => isUnreserved c || isSubDelim c) (before ':' text) &&
        (after ':' text).all isDigit

def isAuthority (text : List Char) : Bool :=
  match cut '@' text with
  | none => isHostPort text
  | some (user, rest) =>
      encoded (fun c => isUnreserved c || isSubDelim c || c = ':') user && isHostPort rest

/-!
## Components
-/

structure Components where
  scheme : List Char
  authority : Option (List Char)
  path : List Char
  query : Option (List Char)
  fragment : Option (List Char)
  deriving DecidableEq

def isScheme : List Char -> Bool
  | [] => false
  | c :: rest =>
      isAlpha c && rest.all (fun c => isAlpha c || isDigit c || ['+', '-', '.'].contains c)

/-- The signs of each component are its own. -/
def Components.valid (parts : Components) : Bool :=
  isScheme parts.scheme && parts.authority.all isAuthority &&
    encoded (fun c => isPathChar c || c = '/') parts.path &&
    parts.query.all (encoded isQueryChar) && parts.fragment.all (encoded isQueryChar)

/-- What stands behind the separator is there only if the separator is. -/
def cutOptional (separator : Char) (text : List Char) : List Char × Option (List Char) :=
  if separator ∈ text then (before separator text, some (after separator text))
  else (text, none)

def withoutQuery (text : List Char) : Option Components :=
  match cut ':' text with
  | none => none
  | some (scheme, '/' :: '/' :: rest) =>
      some ⟨scheme, some (before '/' rest), rest.dropWhile (fun c => c != '/'), none, none⟩
  | some (scheme, path) => some ⟨scheme, none, path, none, none⟩

def split (text : List Char) : Option Components :=
  let body := cutOptional '#' text
  let hierarchy := cutOptional '?' body.1
  (withoutQuery hierarchy.1).map
    (fun parts => { parts with query := hierarchy.2, fragment := body.2 })

def parse (text : List Char) : Option Components :=
  (split text).filter Components.valid

def parameters : Option (List Char) -> List (List Char)
  | none => []
  | some query => query.splitOn '&'

/-!
## Queries behind a text
-/

variable {text : List Char}

theorem cutOptional_of_not_mem {separator : Char} (h : separator ∉ text) :
    cutOptional separator text = (text, none) :=
  if_neg h

theorem cutOptional_append {separator : Char} {first rest : List Char} (h : separator ∉ first) :
    cutOptional separator (first ++ separator :: rest) = (first, some rest) := by
  unfold cutOptional
  rw [if_pos (by simp), Text.before_append h, Text.after_append h]

theorem cutOptional_of_mem {separator : Char} (h : separator ∈ text) (rest : List Char) :
    cutOptional separator (text ++ rest) =
      (before separator text, some (after separator text ++ rest)) := by
  have hsplit := Text.before_after h
  have hnot := @Text.not_mem_before Char _ separator text
  have happend := @cutOptional_append separator (before separator text)
    (after separator text ++ rest) hnot
  rw [<- happend, <- List.cons_append, <- List.append_assoc, hsplit]

theorem cutOptional_eq_none_iff {separator : Char} :
    (cutOptional separator text).2 = none <-> separator ∉ text := by
  unfold cutOptional
  split
  · rename_i hmem
    simp [hmem]
  · rename_i hmem
    simp [hmem]

variable {parts : Components}

theorem split_eq_some_iff :
    split text = some parts <->
      exists hierarchy, withoutQuery (cutOptional '?' (cutOptional '#' text).1).1 =
          some hierarchy ∧
        parts = { hierarchy with
          query := (cutOptional '?' (cutOptional '#' text).1).2
          fragment := (cutOptional '#' text).2 } := by
  unfold split
  rw [Option.map_eq_some_iff]
  constructor
  · rintro ⟨hierarchy, h, rfl⟩
    exact ⟨hierarchy, h, rfl⟩
  · rintro ⟨hierarchy, h, rfl⟩
    exact ⟨hierarchy, h, rfl⟩

theorem split_query (h : split text = some parts) :
    parts.query = (cutOptional '?' (cutOptional '#' text).1).2 ∧
      parts.fragment = (cutOptional '#' text).2 := by
  rcases split_eq_some_iff.mp h with ⟨hierarchy, -, rfl⟩
  exact ⟨rfl, rfl⟩

theorem signs_of_split (h : split text = some parts) :
    parts.query = none ∧ parts.fragment = none <-> '?' ∉ text ∧ '#' ∉ text := by
  rcases split_query h with ⟨hquery, hfragment⟩
  rw [hquery, hfragment, cutOptional_eq_none_iff, cutOptional_eq_none_iff]
  constructor
  · rintro ⟨hnot, hhash⟩
    rw [cutOptional_of_not_mem hhash] at hnot
    exact ⟨hnot, hhash⟩
  · rintro ⟨hnot, hhash⟩
    rw [cutOptional_of_not_mem hhash]
    exact ⟨hnot, hhash⟩

theorem split_query_of_hash (h : '#' ∈ text) {rest : List Char}
    {parts parts' : Components} (hparts : split text = some parts)
    (hparts' : split (text ++ rest) = some parts') : parts'.query = parts.query := by
  rw [(split_query hparts).1, (split_query hparts').1, cutOptional_of_mem h rest]
  have htext := cutOptional_of_mem h []
  rw [List.append_nil] at htext
  rw [htext]

theorem split_query_of_query {text rest : List Char} (h : '?' ∈ text) (hhash : '#' ∉ text)
    (hrest : '#' ∉ rest) {parts parts' : Components} (hparts : split text = some parts)
    (hparts' : split (text ++ rest) = some parts') :
    exists query, parts.query = some query ∧ parts'.query = some (query ++ rest) := by
  have hnot : '#' ∉ text ++ rest := by
    simp [hhash, hrest]
  refine ⟨after '?' text, ?_, ?_⟩
  · have htext := cutOptional_of_mem h []
    rw [List.append_nil] at htext
    rw [(split_query hparts).1, cutOptional_of_not_mem hhash, htext, List.append_nil]
  · rw [(split_query hparts').1, cutOptional_of_not_mem hnot, cutOptional_of_mem h rest]

theorem split_append {text query : List Char} (hquery : '?' ∉ text) (hfragment : '#' ∉ text)
    (hrest : '#' ∉ query) :
    split (text ++ '?' :: query) =
      (split text).map (fun parts => { parts with query := some query }) := by
  have hnot : '#' ∉ text ++ '?' :: query := by
    simp [hfragment, hrest]
  unfold split
  rw [cutOptional_of_not_mem hnot, cutOptional_of_not_mem hfragment]
  dsimp only
  rw [cutOptional_append hquery, cutOptional_of_not_mem hquery, Option.map_map]
  rfl

theorem valid_withQuery (h : parts.query = none) (query : List Char) :
    { parts with query := some query }.valid = (parts.valid && encoded isQueryChar query) := by
  unfold Components.valid
  rw [h]
  simp only [Option.all_none, Option.all_some, Bool.and_true]
  cases encoded isQueryChar query <;> simp

theorem parse_eq_some_iff :
    parse text = some parts <-> split text = some parts ∧ parts.valid = true := by
  unfold parse
  exact Option.filter_eq_some_iff

/-!
# Signs and escapes
-/

/-- Every percent sign is followed by two hexadecimal digits. -/
def Escaped (text : List Char) : Prop :=
  forall before rest, text = before ++ '%' :: rest ->
    exists a b tail, rest = a :: b :: tail ∧ isHexDigit a = true ∧ isHexDigit b = true

theorem escaped_of_not_mem (h : '%' ∉ text) : Escaped text :=
  fun before rest htext => absurd (by rw [htext]; simp) h

theorem Escaped.of_append {first rest : List Char} (h : Escaped (first ++ rest)) :
    Escaped rest := by
  intro before tail htext
  exact h (first ++ before) tail (by rw [htext, List.append_assoc])

theorem Escaped.cons {c : Char} (h : Escaped text)
    (hc : c = '%' -> exists a b tail, text = a :: b :: tail ∧ isHexDigit a = true ∧
      isHexDigit b = true) : Escaped (c :: text) := by
  intro before rest htext
  cases before with
  | nil =>
      rcases List.cons.inj htext with ⟨hhead, rfl⟩
      exact hc hhead
  | cons d before =>
      rcases List.cons.inj htext with ⟨-, rfl⟩
      exact h before rest rfl

theorem ne_percent_of_isHexDigit {c : Char} (h : isHexDigit c = true) : c ≠ '%' := by
  rintro rfl
  exact absurd h (by decide)

theorem encoded_iff {allowed : Char -> Bool} (hpercent : allowed '%' = false)
    (hdigits : forall c, isHexDigit c = true -> allowed c = true) :
    encoded allowed text = true <->
      Escaped text ∧ forall c, c ∈ text -> c = '%' ∨ allowed c = true := by
  fun_induction encoded allowed text with
  | case1 => exact ⟨fun _ => ⟨escaped_of_not_mem (by simp), by simp⟩, fun _ => rfl⟩
  | case2 a b rest ih =>
      rw [Bool.and_eq_true, Bool.and_eq_true, ih]
      constructor
      · rintro ⟨⟨ha, hb⟩, hescaped, hsigns⟩
        refine ⟨?_, ?_⟩
        · refine Escaped.cons ?_ fun _ => ⟨a, b, rest, rfl, ha, hb⟩
          refine Escaped.cons ?_ fun heq => absurd heq (ne_percent_of_isHexDigit ha)
          exact hescaped.cons fun heq => absurd heq (ne_percent_of_isHexDigit hb)
        · intro c hc
          rcases List.mem_cons.mp hc with rfl | hc
          · exact Or.inl rfl
          rcases List.mem_cons.mp hc with rfl | hc
          · exact Or.inr (hdigits _ ha)
          rcases List.mem_cons.mp hc with rfl | hc
          · exact Or.inr (hdigits _ hb)
          · exact hsigns c hc
      · rintro ⟨hescaped, hsigns⟩
        rcases hescaped [] _ rfl with ⟨a', b', tail, heq, ha, hb⟩
        cases heq
        refine ⟨⟨ha, hb⟩, ?_, fun c hc => hsigns c (by simp [hc])⟩
        exact @Escaped.of_append ['%', a, b] rest hescaped
  | case3 c rest hnot ih =>
      rw [Bool.and_eq_true, ih]
      constructor
      · rintro ⟨hc, hescaped, hsigns⟩
        refine ⟨hescaped.cons fun heq => ?_, ?_⟩
        · rw [heq, hpercent] at hc
          cases hc
        · intro d hd
          rcases List.mem_cons.mp hd with rfl | hd
          · exact Or.inr hc
          · exact hsigns d hd
      · rintro ⟨hescaped, hsigns⟩
        have hc : c ≠ '%' := by
          rintro rfl
          rcases hescaped [] rest rfl with ⟨a, b, tail, heq, -, -⟩
          exact hnot a b tail rfl heq
        refine ⟨?_, @Escaped.of_append [c] rest hescaped,
          fun d hd => hsigns d (List.mem_cons_of_mem _ hd)⟩
        rcases hsigns c List.mem_cons_self with heq | hallowed
        · exact absurd heq hc
        · exact hallowed

theorem escaped_append {first rest : List Char} {c : Char} (hc : isHexDigit c = false)
    (hne : c ≠ '%') :
    Escaped (first ++ c :: rest) <-> Escaped first ∧ Escaped rest := by
  constructor
  · intro h
    refine ⟨?_, @Escaped.of_append [c] rest h.of_append⟩
    rintro before tail rfl
    rcases h before (tail ++ c :: rest) (by simp) with ⟨a, b, tail', heq, ha, hb⟩
    cases tail with
    | nil =>
        rcases List.cons.inj heq with ⟨rfl, -⟩
        rw [hc] at ha
        cases ha
    | cons a' tail =>
        rcases List.cons.inj heq with ⟨rfl, hbehind⟩
        cases tail with
        | nil =>
            rcases List.cons.inj hbehind with ⟨rfl, -⟩
            rw [hc] at hb
            cases hb
        | cons b' tail =>
            rcases List.cons.inj hbehind with ⟨rfl, -⟩
            exact ⟨_, _, _, rfl, ha, hb⟩
  · rintro ⟨hfirst, hrest⟩ before tail htext
    rcases List.append_eq_append_iff.mp htext with ⟨between, rfl, heq⟩ | ⟨between, rfl, heq⟩
    · cases between with
      | nil =>
          rcases List.cons.inj heq with ⟨rfl, -⟩
          exact absurd rfl hne
      | cons d between =>
          rcases List.cons.inj heq with ⟨-, rfl⟩
          exact hrest between tail rfl
    · cases between with
      | nil =>
          rcases List.cons.inj heq with ⟨rfl, -⟩
          exact absurd rfl hne
      | cons d between =>
          rcases List.cons.inj heq with ⟨rfl, rfl⟩
          rcases hfirst before between rfl with ⟨a, b, tail, rfl, ha, hb⟩
          exact ⟨a, b, tail ++ c :: rest, rfl, ha, hb⟩

theorem escaped_intercalate {pieces : List (List Char)} :
    Escaped (['&'].intercalate pieces) <-> forall piece, piece ∈ pieces -> Escaped piece := by
  induction pieces with
  | nil => simp [List.intercalate, escaped_of_not_mem]
  | cons piece rest ih =>
      cases rest with
      | nil => simp [List.intercalate]
      | cons piece' rest =>
          have hsplit : ['&'].intercalate (piece :: piece' :: rest) =
              piece ++ '&' :: ['&'].intercalate (piece' :: rest) := by
            simp [List.intercalate]
          rw [hsplit, escaped_append (by decide) (by decide), ih]
          exact (@List.forall_mem_cons _ Escaped piece (piece' :: rest)).symm

/-!
# Numbers of parameters
-/

theorem length_splitOn_append (separator : Char) (first rest : List Char) :
    ((first ++ rest).splitOn separator).length + 1 =
      (first.splitOn separator).length + (rest.splitOn separator).length := by
  induction first with
  | nil =>
      rw [List.nil_append, List.splitOn_nil, List.length_singleton]
      omega
  | cons c first ih =>
      rw [List.cons_append, List.splitOn_cons_eq_if_modifyHead,
        List.splitOn_cons_eq_if_modifyHead]
      split
      · rw [List.length_cons, List.length_cons]
        omega
      · rw [List.length_modifyHead, List.length_modifyHead]
        exact ih

end Uri
end ServerComponents
