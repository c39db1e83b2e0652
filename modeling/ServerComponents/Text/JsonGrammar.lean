import Mathlib.Data.Nat.Notation

/-!
# The JSON grammar

A reader of JSON texts, one function for each rule of RFC 8259.  Every function answers
what it has read and the rest of the text.  The fuel bounds the nesting and the lengths;
the length of the text is always enough.
-/

namespace ServerComponents
namespace Text
namespace JsonGrammar

/-- What a JSON text says.  A number with a fraction or an exponent is a mantissa and a
power of ten. -/
inductive Document (text : Type) where
  | null
  | bool (value : Bool)
  | int (value : Int)
  | real (mantissa exponent : Int)
  | str (value : text)
  | arr (values : List (Document text))
  | obj (members : List (text × Document text))

def isWs (c : Char) : Bool := c == ' ' || c == '\t' || c == '\n' || c == '\r'

def skipWs (input : List Char) : List Char := input.dropWhile isWs

/-!
# Strings
-/

def hexValue (c : Char) : Option Nat :=
  if '0' ≤ c ∧ c ≤ '9' then some (c.toNat - '0'.toNat)
  else if 'a' ≤ c ∧ c ≤ 'f' then some (c.toNat - 'a'.toNat + 10)
  else if 'A' ≤ c ∧ c ≤ 'F' then some (c.toNat - 'A'.toNat + 10)
  else none

def codeUnit : List Char -> Option (Nat × List Char)
  | a :: b :: c :: d :: rest => do
      let a ← hexValue a
      let b ← hexValue b
      let c ← hexValue c
      let d ← hexValue d
      some (((a * 16 + b) * 16 + c) * 16 + d, rest)
  | _ => none

def lowSurrogate (high : Nat) : List Char -> Option (Char × List Char)
  | '\\' :: 'u' :: rest => do
      let (low, rest) ← codeUnit rest
      if 0xDC00 ≤ low ∧ low < 0xE000 then
        some (Char.ofNat (0x10000 + (high - 0xD800) * 0x400 + (low - 0xDC00)), rest)
      else none
  | _ => none

def unicodeEscape (input : List Char) : Option (Char × List Char) := do
  let (unit, rest) ← codeUnit input
  if 0xD800 ≤ unit ∧ unit < 0xDC00 then lowSurrogate unit rest
  else if 0xDC00 ≤ unit ∧ unit < 0xE000 then none
  else some (Char.ofNat unit, rest)

def escaped : List Char -> Option (Char × List Char)
  | '"' :: rest => some ('"', rest)
  | '\\' :: rest => some ('\\', rest)
  | '/' :: rest => some ('/', rest)
  | 'b' :: rest => some (Char.ofNat 8, rest)
  | 'f' :: rest => some (Char.ofNat 12, rest)
  | 'n' :: rest => some ('\n', rest)
  | 'r' :: rest => some ('\r', rest)
  | 't' :: rest => some ('\t', rest)
  | 'u' :: rest => unicodeEscape rest
  | _ => none

def stringChar : List Char -> Option (Char × List Char)
  | [] => none
  | c :: rest =>
      if c = '\\' then escaped rest
      else if c.toNat < 0x20 then none
      else some (c, rest)

/-- A string from behind its opening quotation mark. -/
def stringBody : Nat -> List Char -> Option (List Char × List Char)
  | 0, _ => none
  | fuel + 1, input =>
      match input with
      | '"' :: rest => some ([], rest)
      | input => do
          let (c, rest) ← stringChar input
          let (cs, rest) ← stringBody fuel rest
          some (c :: cs, rest)

/-!
# Numbers
-/

def isDigit (c : Char) : Bool := c.isDigit

def digits (input : List Char) : Option (List Char × List Char) :=
  match input.takeWhile isDigit with
  | [] => none
  | c :: cs => some (c :: cs, input.dropWhile isDigit)

def fraction : List Char -> Option (List Char × List Char)
  | '.' :: rest => digits rest
  | input => some ([], input)

def signed : List Char -> Bool × List Char
  | '-' :: rest => (true, rest)
  | '+' :: rest => (false, rest)
  | input => (false, input)

def negateIf (negative : Bool) (n : Nat) : Int := if negative then -n else n

def exponent : List Char -> Option (Option Int × List Char)
  | c :: rest =>
      if c = 'e' ∨ c = 'E' then do
        let (power, rest') ← digits (signed rest).2
        some (some (negateIf (signed rest).1 (Nat.ofDigitChars 10 power 0)), rest')
      else some (none, c :: rest)
  | [] => some (none, [])

def scaled {text : Type} (negative : Bool) (whole : List Char) (input : List Char) :
    Option (Document text × List Char) := do
  let (places, rest) ← fraction input
  let (power, rest) ← exponent rest
  if places = [] ∧ power = none then
    some (.int (negateIf negative (Nat.ofDigitChars 10 whole 0)), rest)
  else
    some (.real (negateIf negative (Nat.ofDigitChars 10 (whole ++ places) 0))
      (power.getD 0 - places.length), rest)

def unsignedNumber {text : Type} (negative : Bool) :
    List Char -> Option (Document text × List Char)
  | '0' :: rest => scaled negative ['0'] rest
  | input => do
      let (whole, rest) ← digits input
      scaled negative whole rest

def number {text : Type} : List Char -> Option (Document text × List Char)
  | '-' :: rest => unsignedNumber true rest
  | input => unsignedNumber false input

/-!
# Values
-/

section Values

variable {text : Type} (ofChars : List Char -> text)

mutual

def value : Nat -> List Char -> Option (Document text × List Char)
  | 0, _ => none
  | fuel + 1, input =>
      match input with
      | 'n' :: 'u' :: 'l' :: 'l' :: rest => some (.null, rest)
      | 't' :: 'r' :: 'u' :: 'e' :: rest => some (.bool true, rest)
      | 'f' :: 'a' :: 'l' :: 's' :: 'e' :: rest => some (.bool false, rest)
      | '"' :: rest => do
          let (cs, rest) ← stringBody (rest.length + 1) rest
          some (.str (ofChars cs), rest)
      | '[' :: rest =>
          match skipWs rest with
          | ']' :: rest => some (.arr [], rest)
          | rest => do
              let (values, rest) ← elements fuel rest
              some (.arr values, rest)
      | '\x7b' :: rest =>
          match skipWs rest with
          | '\x7d' :: rest => some (.obj [], rest)
          | rest => do
              let (pairs, rest) ← members fuel rest
              some (.obj pairs, rest)
      | input => number input

def elements : Nat -> List Char -> Option (List (Document text) × List Char)
  | 0, _ => none
  | fuel + 1, input => do
      let (first, rest) ← value fuel input
      match skipWs rest with
      | ']' :: rest => some ([first], rest)
      | ',' :: rest => do
          let (values, rest) ← elements fuel (skipWs rest)
          some (first :: values, rest)
      | _ => none

def members : Nat -> List Char -> Option (List (text × Document text) × List Char)
  | 0, _ => none
  | fuel + 1, input =>
      match input with
      | '"' :: rest => do
          let (name, rest) ← stringBody (rest.length + 1) rest
          match skipWs rest with
          | ':' :: rest => do
              let (first, rest) ← value fuel (skipWs rest)
              match skipWs rest with
              | '\x7d' :: rest => some ([(ofChars name, first)], rest)
              | ',' :: rest => do
                  let (pairs, rest) ← members fuel (skipWs rest)
                  some ((ofChars name, first) :: pairs, rest)
              | _ => none
          | _ => none
      | _ => none

end

def parse (input : List Char) : Option (Document text) :=
  match value ofChars (input.length + 1) (skipWs input) with
  | none => none
  | some (document, rest) => if skipWs rest = [] then some document else none

end Values

/-!
# The strings of a document
-/

section Strings

variable {text : Type} (P : text -> Prop)

mutual

def Document.All : Document text -> Prop
  | .str value => P value
  | .arr values => allValues values
  | .obj members => allMembers members
  | _ => True

def allValues : List (Document text) -> Prop
  | [] => True
  | value :: rest => value.All ∧ allValues rest

def allMembers : List (text × Document text) -> Prop
  | [] => True
  | (name, value) :: rest => P name ∧ value.All ∧ allMembers rest

end

variable {document : Document text}

theorem scaled_all {negative : Bool} {whole input rest : List Char}
    (h : scaled negative whole input = some (document, rest)) : document.All P := by
  unfold scaled at h
  simp only [Option.bind_eq_bind, Option.bind_eq_some_iff] at h
  rcases h with ⟨⟨places, input'⟩, -, ⟨power, input''⟩, -, h⟩
  split at h
  · rw [← (Prod.mk.inj (Option.some.inj h)).1]
    exact trivial
  · rw [← (Prod.mk.inj (Option.some.inj h)).1]
    exact trivial

theorem unsignedNumber_all {negative : Bool} {input rest : List Char}
    (h : unsignedNumber negative input = some (document, rest)) :
    document.All P := by
  unfold unsignedNumber at h
  split at h
  case h_1 => exact scaled_all P h
  case h_2 =>
    simp only [Option.bind_eq_bind, Option.bind_eq_some_iff] at h
    rcases h with ⟨⟨whole, input'⟩, -, h⟩
    exact scaled_all P h

theorem number_all {input rest : List Char}
    (h : number input = some (document, rest)) : document.All P := by
  unfold number at h
  split at h
  case h_1 => exact unsignedNumber_all P h
  case h_2 => exact unsignedNumber_all P h

theorem value_all {ofChars : List Char -> text} (hP : forall cs, P (ofChars cs)) :
    forall fuel,
      (forall input document rest, value ofChars fuel input = some (document, rest) ->
        document.All P) ∧
      (forall input documents rest, elements ofChars fuel input = some (documents, rest) ->
        allValues P documents) ∧
      (forall input pairs rest, members ofChars fuel input = some (pairs, rest) ->
        allMembers P pairs) := by
  intro fuel
  induction fuel with
  | zero =>
      refine ⟨?_, ?_, ?_⟩
      all_goals
        intro input result rest h
        cases h
  | succ fuel ih =>
      rcases ih with ⟨ihValue, ihElements, ihMembers⟩
      refine ⟨?_, ?_, ?_⟩
      · intro input document rest h
        unfold value at h
        split at h
        case h_1 | h_2 | h_3 =>
          rw [← (Prod.mk.inj (Option.some.inj h)).1]
          exact trivial
        case h_4 =>
          simp only [Option.bind_eq_bind, Option.bind_eq_some_iff] at h
          rcases h with ⟨⟨cs, input'⟩, -, h⟩
          rw [← (Prod.mk.inj (Option.some.inj h)).1]
          exact hP cs
        case h_5 =>
          split at h
          · rw [← (Prod.mk.inj (Option.some.inj h)).1]
            exact trivial
          · simp only [Option.bind_eq_bind, Option.bind_eq_some_iff] at h
            rcases h with ⟨⟨values, input'⟩, hvalues, h⟩
            rw [← (Prod.mk.inj (Option.some.inj h)).1]
            exact ihElements _ values input' hvalues
        case h_6 =>
          split at h
          · rw [← (Prod.mk.inj (Option.some.inj h)).1]
            exact trivial
          · simp only [Option.bind_eq_bind, Option.bind_eq_some_iff] at h
            rcases h with ⟨⟨pairs, input'⟩, hpairs, h⟩
            rw [← (Prod.mk.inj (Option.some.inj h)).1]
            exact ihMembers _ pairs input' hpairs
        case h_7 => exact number_all P h
      · intro input documents rest h
        unfold elements at h
        simp only [Option.bind_eq_bind, Option.bind_eq_some_iff] at h
        rcases h with ⟨⟨first, input'⟩, hfirst, h⟩
        have hhead := ihValue _ first input' hfirst
        split at h
        · rw [← (Prod.mk.inj (Option.some.inj h)).1]
          exact ⟨hhead, trivial⟩
        · simp only [Option.bind_eq_some_iff] at h
          rcases h with ⟨⟨values, input''⟩, hvalues, h⟩
          rw [← (Prod.mk.inj (Option.some.inj h)).1]
          exact ⟨hhead, ihElements _ values input'' hvalues⟩
        · cases h
      · intro input pairs rest h
        unfold members at h
        split at h
        case h_2 => cases h
        case h_1 =>
          simp only [Option.bind_eq_bind, Option.bind_eq_some_iff] at h
          rcases h with ⟨⟨name, input'⟩, -, h⟩
          split at h
          case h_2 => cases h
          case h_1 =>
            simp only [Option.bind_eq_some_iff] at h
            rcases h with ⟨⟨first, input''⟩, hfirst, h⟩
            have hhead := ihValue _ first input'' hfirst
            split at h
            · rw [← (Prod.mk.inj (Option.some.inj h)).1]
              exact ⟨hP name, hhead, trivial⟩
            · simp only [Option.bind_eq_some_iff] at h
              rcases h with ⟨⟨tail, input3⟩, htail, h⟩
              rw [← (Prod.mk.inj (Option.some.inj h)).1]
              exact ⟨hP name, hhead, ihMembers _ tail input3 htail⟩
            · cases h

theorem parse_all {ofChars : List Char -> text} (hP : forall cs, P (ofChars cs))
    {input : List Char} (h : parse ofChars input = some document) :
    document.All P := by
  unfold parse at h
  split at h
  case h_1 => cases h
  case h_2 document' rest hread =>
    split at h
    case isTrue =>
      rw [← Option.some.inj h]
      exact (value_all P hP _).1 _ _ _ hread
    case isFalse => cases h

end Strings

/-!
# Reading what a writer of decimal numbers writes
-/

/-- The text goes on as it may behind a value without whitespace. -/
def Ends (rest : List Char) : Prop :=
  forall c, c ∈ rest.head? -> c = ',' ∨ c = ']' ∨ c = '\x7d'

theorem ends_nil : Ends [] := by
  intro c hc
  cases hc

theorem ends_cons {c : Char} (h : c = ',' ∨ c = ']' ∨ c = '\x7d') (rest : List Char) :
    Ends (c :: rest) := by
  intro d hd
  rw [← Option.some.inj hd]
  exact h

theorem Ends.cases {rest : List Char} (h : Ends rest) :
    rest = [] ∨ exists c tail, rest = c :: tail ∧ (c = ',' ∨ c = ']' ∨ c = '\x7d') := by
  cases rest with
  | nil => exact Or.inl rfl
  | cons c tail => exact Or.inr ⟨c, tail, rfl, h c rfl⟩

theorem toDigits_head (n : Nat) :
    exists c cs, Nat.toDigits 10 n = c :: cs ∧ isDigit c = true ∧ (0 < n -> Not (c = '0')) := by
  have hsmall : forall n, n < 10 -> 0 < n -> Not (Nat.digitChar n = '0') := by
    decide
  induction n using Nat.strongRecOn with
  | ind n ih =>
      by_cases hlt : n < 10
      case pos =>
        refine ⟨n.digitChar, [], Nat.toDigits_of_lt_base hlt, ?_, ?_⟩
        · refine Nat.isDigit_of_mem_toDigits (n := n) (by decide) (Nat.le_refl 10) ?_
          rw [Nat.toDigits_of_lt_base hlt]
          exact List.mem_singleton.mpr rfl
        · exact hsmall n hlt
      case neg =>
        rcases ih (n / 10) (by omega) with ⟨c, cs, hdigits, hdigit, hzero⟩
        refine ⟨c, cs ++ [(n % 10).digitChar], ?_, hdigit, fun _ => hzero (by omega)⟩
        rw [Nat.toDigits_of_base_le (by decide) (by omega), hdigits, List.cons_append]

theorem takeWhile_of_ends {cs rest : List Char} (hcs : forall c, c ∈ cs -> isDigit c = true)
    (h : Ends rest) :
    (cs ++ rest).takeWhile isDigit = cs ∧ (cs ++ rest).dropWhile isDigit = rest := by
  induction cs with
  | nil =>
      rcases h.cases with hrest | ⟨c, tail, hrest, hc⟩
      · rw [hrest]
        exact ⟨rfl, rfl⟩
      · have hdigit : Not (isDigit c = true) := by
          rcases hc with rfl | rfl | rfl <;> decide
        rw [hrest, List.nil_append, List.takeWhile_cons_of_neg hdigit,
          List.dropWhile_cons_of_neg hdigit]
        exact ⟨rfl, rfl⟩
  | cons c cs ih =>
      have hc : isDigit c = true := hcs c List.mem_cons_self
      rcases ih (fun d hd => hcs d (List.mem_cons_of_mem c hd)) with ⟨htake, hdrop⟩
      rw [List.cons_append, List.takeWhile_cons_of_pos hc, List.dropWhile_cons_of_pos hc, htake,
        hdrop]
      exact ⟨rfl, rfl⟩

theorem digits_toDigits (n : Nat) {rest : List Char} (h : Ends rest) :
    digits (Nat.toDigits 10 n ++ rest) = some (Nat.toDigits 10 n, rest) := by
  have hdigit : forall c, c ∈ Nat.toDigits 10 n -> isDigit c = true :=
    fun c hc => Nat.isDigit_of_mem_toDigits (by decide) (Nat.le_refl 10) hc
  rcases takeWhile_of_ends hdigit h with ⟨htake, hdrop⟩
  rcases toDigits_head n with ⟨c, cs, hhead, -, -⟩
  unfold digits
  rw [htake, hdrop, hhead]

section Numbers

variable {text : Type}

theorem scaled_of_ends (negative : Bool) (whole : List Char) {rest : List Char} (h : Ends rest) :
    (scaled negative whole rest : Option (Document text × List Char)) =
      some (.int (negateIf negative (Nat.ofDigitChars 10 whole 0)), rest) := by
  rcases h.cases with hrest | ⟨c, tail, hrest, hc⟩
  · rw [hrest]
    rfl
  · rw [hrest]
    rcases hc with rfl | rfl | rfl <;> rfl

theorem unsignedNumber_toDigits (negative : Bool) (n : Nat) {rest : List Char} (h : Ends rest) :
    (unsignedNumber negative (Nat.toDigits 10 n ++ rest) :
      Option (Document text × List Char)) = some (.int (negateIf negative n), rest) := by
  rcases toDigits_head n with ⟨c, cs, hhead, -, hzero⟩
  by_cases hn : n = 0
  case pos =>
    rw [hn, Nat.toDigits_zero]
    exact scaled_of_ends negative ['0'] h
  case neg =>
    have hdigits := digits_toDigits n h
    have hscaled : (scaled negative (Nat.toDigits 10 n) rest :
        Option (Document text × List Char)) = some (.int (negateIf negative n), rest) := by
      rw [scaled_of_ends negative _ h, Nat.ofDigitChars_ten_toDigits]
    unfold unsignedNumber
    split
    case h_1 heq =>
      rw [hhead, List.cons_append] at heq
      exact absurd (List.cons.inj heq).1 (hzero (by omega))
    case h_2 =>
      rw [hdigits]
      exact hscaled

theorem number_of_digit {c : Char} (hc : isDigit c = true) (rest : List Char) :
    (number (c :: rest) : Option (Document text × List Char)) =
      unsignedNumber false (c :: rest) := by
  unfold number
  split
  case h_1 heq =>
    rw [(List.cons.inj heq).1] at hc
    exact absurd hc (by decide)
  case h_2 => rfl

theorem value_of_number (ofChars : List Char -> text) (fuel : Nat) {c : Char}
    (hc : isDigit c = true ∨ c = '-') (rest : List Char) :
    value ofChars (fuel + 1) (c :: rest) = number (c :: rest) := by
  have hne : forall d, isDigit d = false -> Not (d = '-') -> Not (c = d) := by
    rintro d hdigit hminus rfl
    rcases hc with hc | hc
    · rw [hdigit] at hc
      cases hc
    · exact hminus hc
  unfold value
  split
  case h_1 heq => exact absurd (List.cons.inj heq).1 (hne 'n' rfl (by decide))
  case h_2 heq => exact absurd (List.cons.inj heq).1 (hne 't' rfl (by decide))
  case h_3 heq => exact absurd (List.cons.inj heq).1 (hne 'f' rfl (by decide))
  case h_4 heq => exact absurd (List.cons.inj heq).1 (hne '"' rfl (by decide))
  case h_5 heq => exact absurd (List.cons.inj heq).1 (hne '[' rfl (by decide))
  case h_6 heq => exact absurd (List.cons.inj heq).1 (hne '\x7b' rfl (by decide))
  case h_7 => rfl

theorem toList_negSucc (n : Nat) :
    (toString (Int.negSucc n)).toList = '-' :: Nat.toDigits 10 (n + 1) := by
  show ("-" ++ Nat.repr (n + 1)).toList = _
  rw [String.toList_append, Nat.toList_repr]
  rfl

theorem value_toString (ofChars : List Char -> text) (fuel : Nat) (i : Int)
    {rest : List Char} (h : Ends rest) :
    value ofChars (fuel + 1) ((toString i).toList ++ rest) = some (.int i, rest) := by
  cases i with
  | ofNat n =>
      have htext : (toString (Int.ofNat n)).toList = Nat.toDigits 10 n := Nat.toList_repr
      rcases toDigits_head n with ⟨c, cs, hhead, hdigit, -⟩
      have hread := @unsignedNumber_toDigits text false n rest h
      rw [htext]
      rw [hhead, List.cons_append] at hread ⊢
      rw [value_of_number ofChars fuel (Or.inl hdigit), number_of_digit hdigit, hread]
      rfl
  | negSucc n =>
      rw [toList_negSucc, List.cons_append, value_of_number ofChars fuel (Or.inr rfl)]
      exact unsignedNumber_toDigits true (n + 1) h

theorem toString_int_injective {i j : Int} (h : toString i = toString j) : i = j := by
  have hi := value_toString (fun cs : List Char => cs) 0 i ends_nil
  have hj := value_toString (fun cs : List Char => cs) 0 j ends_nil
  rw [h, hj] at hi
  cases hi
  rfl

end Numbers

end JsonGrammar
end Text
end ServerComponents
