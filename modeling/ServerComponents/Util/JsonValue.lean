import Mathlib.Data.Fin.Basic
import ServerComponents.Rest.Json
import ServerComponents.Text.JsonGrammar

/-!
# The JSON encoder

A `std::string` holds bytes, whatever they are; a JSON text is UTF-8.
-/

namespace ServerComponents
namespace Util

open Text.JsonGrammar

abbrev Bytes := List UInt8

def utf8 (cs : List Char) : Bytes := cs.flatMap String.utf8EncodeChar

def ascii (text : String) : Bytes := utf8 text.toList

/-- `Json::Value` without its doubles.  The members of an object stand in the order of the
map. -/
inductive Value where
  | null
  | bool (x : Bool)
  | int (x : Int64)
  | str (x : Bytes)
  | arr (x : List Value)
  | obj (x : List (Bytes × Value))

namespace Value

def hex (n : UInt8) : UInt8 := (ascii "0123456789ABCDEF").getD n.toNat 0

/-- One byte of `append_escaped_json_string`. -/
def escapeByte (uc : UInt8) : Bytes :=
  if uc = '"'.toUInt8 then ascii "\\\""
  else if uc = '\\'.toUInt8 then ascii "\\\\"
  else if uc = 8 then ascii "\\b"
  else if uc = 12 then ascii "\\f"
  else if uc = '\n'.toUInt8 then ascii "\\n"
  else if uc = '\r'.toUInt8 then ascii "\\r"
  else if uc = '\t'.toUInt8 then ascii "\\t"
  else if uc < 0x20 then ascii "\\u00" ++ [hex (uc >>> 4 &&& 0xF), hex (uc &&& 0xF)]
  else [uc]

def appendEscapedJsonString (s : Bytes) : Bytes :=
  ascii "\"" ++ s.flatMap escapeByte ++ ascii "\""

def separator (first : Bool) : Bytes := if first then [] else ascii ","

mutual

/-- What `AppendJson` puts behind the text before it. -/
def appendJson : Value -> Bytes
  | null => ascii "null"
  | bool x => if x then ascii "true" else ascii "false"
  | int x => ascii (toString x.toInt)
  | str x => appendEscapedJsonString x
  | arr x => ascii "[" ++ appendElements true x ++ ascii "]"
  | obj x => ascii "\x7b" ++ appendMembers true x ++ ascii "\x7d"

def appendElements : Bool -> List Value -> Bytes
  | _, [] => []
  | first, elem :: rest => separator first ++ appendJson elem ++ appendElements false rest

def appendMembers : Bool -> List (Bytes × Value) -> Bytes
  | _, [] => []
  | first, (key, value) :: rest =>
      separator first ++ appendEscapedJsonString key ++ ascii ":" ++ appendJson value ++
        appendMembers false rest

end

def toText (v : Value) : Bytes := appendJson v

mutual

def document : Value -> Document Bytes
  | null => .null
  | bool x => .bool x
  | int x => .int x.toInt
  | str x => .str x
  | arr x => .arr (documents x)
  | obj x => .obj (memberDocuments x)

def documents : List Value -> List (Document Bytes)
  | [] => []
  | elem :: rest => document elem :: documents rest

def memberDocuments : List (Bytes × Value) -> List (Bytes × Document Bytes)
  | [] => []
  | (key, value) :: rest => (key, document value) :: memberDocuments rest

end

def IsText (s : Bytes) : Prop := exists cs, utf8 cs = s

mutual

def Textual : Value -> Prop
  | null => True
  | bool _ => True
  | int _ => True
  | str x => IsText x
  | arr x => AllTextual x
  | obj x => MembersTextual x

def AllTextual : List Value -> Prop
  | [] => True
  | elem :: rest => Textual elem ∧ AllTextual rest

def MembersTextual : List (Bytes × Value) -> Prop
  | [] => True
  | (key, value) :: rest => IsText key ∧ Textual value ∧ MembersTextual rest

end

def decode (bytes : Bytes) : Option (List Char) :=
  bytes.toByteArray.utf8Decode?.map Array.toList

/-- What a reader of JSON makes of the bytes. -/
def readJson (bytes : Bytes) : Option (Document Bytes) :=
  (decode bytes).bind (parse utf8)

theorem decode_utf8 (cs : List Char) : decode (utf8 cs) = some cs := by
  have hencode : (utf8 cs).toByteArray = cs.utf8Encode := rfl
  unfold decode
  rw [hencode, List.utf8Decode?_utf8Encode]
  rfl

theorem utf8_append (cs ds : List Char) : utf8 (cs ++ ds) = utf8 cs ++ utf8 ds :=
  List.flatMap_append

theorem utf8_cons (c : Char) (cs : List Char) :
    utf8 (c :: cs) = String.utf8EncodeChar c ++ utf8 cs :=
  List.flatMap_cons

/-!
# Strings
-/

theorem escapeByte_ascii (n : Fin 128) :
    (String.utf8EncodeChar (Char.ofNat n.val)).flatMap escapeByte =
      utf8 (Rest.Json.escapeChar (Char.ofNat n.val)) := by
  revert n
  decide +kernel

theorem escapeByte_of_le {b : UInt8} (h : 128 ≤ b.toNat) : escapeByte b = [b] := by
  have hne : forall a : UInt8, a.toNat < 128 -> Not (b = a) := by
    intro a ha heq
    rw [heq] at h
    omega
  unfold escapeByte
  rw [if_neg (hne _ (by decide)), if_neg (hne _ (by decide)), if_neg (hne _ (by decide)),
    if_neg (hne _ (by decide)), if_neg (hne _ (by decide)), if_neg (hne _ (by decide)),
    if_neg (hne _ (by decide)), if_neg]
  intro hlt
  have hlt' : b.toNat < 32 := hlt
  omega

theorem le_of_mem_utf8EncodeChar {c : Char} (h : 128 ≤ c.toNat) :
    forall b, b ∈ String.utf8EncodeChar c -> 128 ≤ b.toNat := by
  have hval : c.val.toNat = c.toNat := rfl
  intro b hb
  unfold String.utf8EncodeChar at hb
  rw [if_neg (by omega)] at hb
  split at hb
  · simp only [List.mem_cons, List.not_mem_nil, or_false] at hb
    rcases hb with rfl | rfl <;> simp only [UInt8.toNat_ofNat'] <;> omega
  split at hb
  · simp only [List.mem_cons, List.not_mem_nil, or_false] at hb
    rcases hb with rfl | rfl | rfl <;> simp only [UInt8.toNat_ofNat'] <;> omega
  · simp only [List.mem_cons, List.not_mem_nil, or_false] at hb
    rcases hb with rfl | rfl | rfl | rfl <;> simp only [UInt8.toNat_ofNat'] <;> omega

theorem flatMap_escapeByte_of_le {bytes : Bytes} (h : forall b, b ∈ bytes -> 128 ≤ b.toNat) :
    bytes.flatMap escapeByte = bytes := by
  induction bytes with
  | nil => rfl
  | cons b rest ih =>
      have hrest : forall b, b ∈ rest -> 128 ≤ b.toNat :=
        fun a ha => h a (List.mem_cons_of_mem b ha)
      rw [List.flatMap_cons, escapeByte_of_le (h b List.mem_cons_self), ih hrest]
      rfl

theorem escapeChar_of_le {c : Char} (h : 128 ≤ c.toNat) : Rest.Json.escapeChar c = [c] := by
  have hne : forall d : Char, d.toNat < 128 -> Not (c = d) := by
    intro d hd heq
    rw [heq] at h
    omega
  unfold Rest.Json.escapeChar
  rw [if_neg (hne _ (by decide)), if_neg (hne _ (by decide)), if_neg (by omega),
    if_neg (by omega), if_neg (hne _ (by decide)), if_neg (hne _ (by decide)),
    if_neg (hne _ (by decide)), if_neg (by omega)]

theorem flatMap_escapeByte_char (c : Char) :
    (String.utf8EncodeChar c).flatMap escapeByte = utf8 (Rest.Json.escapeChar c) := by
  by_cases h : c.toNat < 128
  case pos =>
    have hascii := escapeByte_ascii ⟨c.toNat, h⟩
    rw [Char.ofNat_toNat] at hascii
    exact hascii
  case neg =>
    have hle : 128 ≤ c.toNat := by omega
    rw [flatMap_escapeByte_of_le (le_of_mem_utf8EncodeChar hle), escapeChar_of_le hle,
      utf8_cons]
    exact (List.append_nil _).symm

theorem flatMap_escapeByte (cs : List Char) :
    (utf8 cs).flatMap escapeByte = utf8 (cs.flatMap Rest.Json.escapeChar) := by
  induction cs with
  | nil => rfl
  | cons c rest ih =>
      rw [utf8_cons, List.flatMap_append, flatMap_escapeByte_char, ih, List.flatMap_cons,
        utf8_append]

theorem hexValue_hexDigit (n : Fin 16) : hexValue (Rest.Json.hexDigit n.val) = some n.val := by
  revert n
  decide

theorem unicodeEscape_low {n : Nat} (h : n < 32) (rest : List Char) :
    unicodeEscape ('0' :: '0' :: Rest.Json.hexDigit (n / 16) :: Rest.Json.hexDigit (n % 16) ::
      rest) = some (Char.ofNat n, rest) := by
  have hhigh : hexValue (Rest.Json.hexDigit (n / 16)) = some (n / 16) :=
    hexValue_hexDigit ⟨n / 16, by omega⟩
  have hlow : hexValue (Rest.Json.hexDigit (n % 16)) = some (n % 16) :=
    hexValue_hexDigit ⟨n % 16, by omega⟩
  have hzero : hexValue '0' = some 0 := rfl
  have hunit : ((0 * 16 + 0) * 16 + n / 16) * 16 + n % 16 = n := by omega
  simp only [unicodeEscape, codeUnit, hzero, hhigh, hlow, Option.bind_eq_bind,
    Option.bind_some, hunit]
  rw [if_neg (by omega), if_neg (by omega)]

theorem stringChar_escapeChar (c : Char) (rest : List Char) :
    stringChar (Rest.Json.escapeChar c ++ rest) = some (c, rest) := by
  have hof : forall n, c.toNat = n -> Char.ofNat n = c := by
    intro n hn
    rw [← hn, Char.ofNat_toNat]
  unfold Rest.Json.escapeChar
  split
  case isTrue h => exact congrArg (fun d => some (d, rest)) h.symm
  split
  case isTrue h => exact congrArg (fun d => some (d, rest)) h.symm
  split
  case isTrue h => exact congrArg (fun d => some (d, rest)) (hof 8 h)
  split
  case isTrue h => exact congrArg (fun d => some (d, rest)) (hof 12 h)
  split
  case isTrue h => exact congrArg (fun d => some (d, rest)) h.symm
  split
  case isTrue h => exact congrArg (fun d => some (d, rest)) h.symm
  split
  case isTrue h => exact congrArg (fun d => some (d, rest)) h.symm
  split
  case isTrue h =>
    refine (unicodeEscape_low h rest).trans ?_
    rw [Char.ofNat_toNat]
  case isFalse hquote hslash _ _ _ _ _ hlow =>
    show (if c = '\\' then escaped rest else if c.toNat < 0x20 then none else some (c, rest)) = _
    rw [if_neg hslash, if_neg hlow]

theorem escapeChar_head (c : Char) :
    exists d ds, Rest.Json.escapeChar c = d :: ds ∧ Not (d = '"') := by
  unfold Rest.Json.escapeChar
  split
  case isTrue => exact ⟨'\\', ['"'], rfl, by decide⟩
  case isFalse hquote =>
    repeat' split
    all_goals first
      | exact ⟨'\\', _, rfl, by decide⟩
      | exact ⟨c, [], rfl, hquote⟩

theorem stringBody_escaped (rest cs : List Char) :
    forall fuel, cs.length < fuel ->
      stringBody fuel (cs.flatMap Rest.Json.escapeChar ++ '"' :: rest) = some (cs, rest) := by
  induction cs with
  | nil =>
      intro fuel hfuel
      cases fuel with
      | zero => exact absurd hfuel (Nat.lt_irrefl 0)
      | succ fuel => rfl
  | cons c cs ih =>
      intro fuel hfuel
      cases fuel with
      | zero => exact absurd hfuel (Nat.not_lt_zero _)
      | succ fuel =>
          have hbody := ih fuel (Nat.lt_of_succ_lt_succ hfuel)
          have hchar := stringChar_escapeChar c
            (cs.flatMap Rest.Json.escapeChar ++ '"' :: rest)
          rcases escapeChar_head c with ⟨d, ds, hhead, hquote⟩
          rw [List.flatMap_cons, List.append_assoc]
          rw [hhead] at hchar ⊢
          rw [List.cons_append] at hchar ⊢
          unfold stringBody
          split
          case h_1 heq => exact absurd (List.cons.inj heq).1 hquote
          case h_2 =>
            rw [hchar]
            simp only [Option.bind_eq_bind, Option.bind_some, hbody]

theorem appendEscapedJsonString_utf8 (cs : List Char) :
    appendEscapedJsonString (utf8 cs) =
      utf8 ('"' :: (cs.flatMap Rest.Json.escapeChar ++ ['"'])) := by
  unfold appendEscapedJsonString
  rw [flatMap_escapeByte, utf8_cons, utf8_append]
  exact List.append_assoc _ _ _

theorem length_escaped (cs : List Char) :
    cs.length ≤ (cs.flatMap Rest.Json.escapeChar).length := by
  induction cs with
  | nil => exact Nat.le_refl 0
  | cons c cs ih =>
      rcases escapeChar_head c with ⟨d, ds, hhead, -⟩
      rw [List.flatMap_cons, List.length_append, hhead, List.length_cons, List.length_cons]
      omega

theorem stringBody_text (cs rest : List Char) :
    stringBody (((cs.flatMap Rest.Json.escapeChar ++ ['"']) ++ rest).length + 1)
      ((cs.flatMap Rest.Json.escapeChar ++ ['"']) ++ rest) = some (cs, rest) := by
  have hlength := length_escaped cs
  have hfuel : cs.length < ((cs.flatMap Rest.Json.escapeChar ++ ['"']) ++ rest).length + 1 := by
    rw [List.length_append, List.length_append]
    omega
  have hread := stringBody_escaped rest cs _ hfuel
  rw [List.append_assoc] at hread ⊢
  exact hread

/-!
# Values
-/

mutual

def size : Value -> Nat
  | arr x => sizes x + 1
  | obj x => memberSizes x + 1
  | _ => 1

def sizes : List Value -> Nat
  | [] => 0
  | elem :: rest => size elem + sizes rest + 1

def memberSizes : List (Bytes × Value) -> Nat
  | [] => 0
  | (_, value) :: rest => size value + memberSizes rest + 1

end

def Starts (cs : List Char) : Prop :=
  exists c tail, cs = c :: tail ∧ isWs c = false ∧ Not (c = ']')

/-- The characters are the text of the value, and a reader takes them for it. -/
structure Reads (v : Value) (cs : List Char) : Prop where
  text : utf8 cs = appendJson v
  starts : Starts cs
  length : size v ≤ cs.length
  reads : forall fuel rest, size v ≤ fuel -> Ends rest ->
    value utf8 fuel (cs ++ rest) = some (document v, rest)

structure ReadsElements (vs : List Value) (cs : List Char) : Prop where
  text : utf8 cs = appendElements true vs
  starts : Starts cs
  length : sizes vs ≤ cs.length + 1
  reads : forall fuel rest, sizes vs ≤ fuel ->
    elements utf8 fuel (cs ++ ']' :: rest) = some (documents vs, rest)

structure ReadsMembers (ms : List (Bytes × Value)) (cs : List Char) : Prop where
  text : utf8 cs = appendMembers true ms
  starts : exists tail, cs = '"' :: tail
  length : memberSizes ms ≤ cs.length + 1
  reads : forall fuel rest, memberSizes ms ≤ fuel ->
    members utf8 fuel (cs ++ '\x7d' :: rest) = some (memberDocuments ms, rest)

variable {cs : List Char}

theorem Starts.append (h : Starts cs) (ds : List Char) : Starts (cs ++ ds) := by
  rcases h with ⟨c, tail, rfl, hws, hne⟩
  exact ⟨c, tail ++ ds, rfl, hws, hne⟩

theorem skipWs_of_starts (h : Starts cs) : skipWs cs = cs := by
  rcases h with ⟨c, tail, rfl, hws, -⟩
  exact List.dropWhile_cons_of_neg (by rw [hws]; exact Bool.false_ne_true)

theorem reads_null : Reads null "null".toList where
  text := rfl
  starts := ⟨'n', _, rfl, rfl, by decide⟩
  length := by decide
  reads := by
    intro fuel rest hfuel _
    cases fuel with
    | zero => exact absurd hfuel (by decide)
    | succ fuel => rfl

theorem reads_bool (x : Bool) : exists cs, Reads (bool x) cs := by
  cases x with
  | true =>
      refine ⟨"true".toList, rfl, ⟨'t', _, rfl, rfl, by decide⟩, by decide, ?_⟩
      intro fuel rest hfuel _
      cases fuel with
      | zero => exact absurd hfuel (by decide)
      | succ fuel => rfl
  | false =>
      refine ⟨"false".toList, rfl, ⟨'f', _, rfl, rfl, by decide⟩, by decide, ?_⟩
      intro fuel rest hfuel _
      cases fuel with
      | zero => exact absurd hfuel (by decide)
      | succ fuel => rfl

theorem not_ws_of_isDigit {c : Char} (h : isDigit c = true) :
    isWs c = false ∧ Not (c = ']') := by
  have hne : forall d, isDigit d = false -> Not (c = d) := by
    rintro d hd rfl
    rw [hd] at h
    cases h
  refine ⟨?_, hne ']' rfl⟩
  simp only [isWs, Bool.or_eq_false_iff, beq_eq_false_iff_ne]
  exact ⟨⟨⟨hne ' ' rfl, hne '\t' rfl⟩, hne '\n' rfl⟩, hne '\r' rfl⟩

theorem starts_toString (i : Int) : Starts (toString i).toList := by
  cases i with
  | ofNat n =>
      have htext : (toString (Int.ofNat n)).toList = Nat.toDigits 10 n := Nat.toList_repr
      rcases toDigits_head n with ⟨c, cs, hhead, hdigit, -⟩
      rw [htext, hhead]
      exact ⟨c, cs, rfl, (not_ws_of_isDigit hdigit).1, (not_ws_of_isDigit hdigit).2⟩
  | negSucc n =>
      exact ⟨'-', _, toList_negSucc n, rfl, by decide⟩

theorem reads_int (x : Int64) : Reads (int x) (toString x.toInt).toList where
  text := rfl
  starts := starts_toString x.toInt
  length := by
    rcases starts_toString x.toInt with ⟨c, tail, htext, -, -⟩
    rw [htext]
    exact Nat.le_add_left 1 _
  reads := by
    intro fuel rest hfuel hends
    rcases fuel with _ | fuel
    · cases hfuel
    · exact value_toString utf8 fuel x.toInt hends

theorem reads_str {x : Bytes} (h : IsText x) : exists cs, Reads (str x) cs := by
  rcases h with ⟨cs, rfl⟩
  refine ⟨'"' :: (cs.flatMap Rest.Json.escapeChar ++ ['"']),
    (appendEscapedJsonString_utf8 cs).symm, ⟨'"', _, rfl, rfl, by decide⟩,
    Nat.le_add_left 1 _, ?_⟩
  intro fuel rest hfuel _
  rcases fuel with _ | fuel
  · cases hfuel
  · have hread := stringBody_text cs rest
    rw [List.cons_append]
    simp only [value, hread, Option.bind_eq_bind, Option.bind_some]
    rfl

/-!
## Arrays
-/

theorem appendElements_false (v : Value) (vs : List Value) :
    appendElements false (v :: vs) = ascii "," ++ appendElements true (v :: vs) := by
  simp only [appendElements, separator, List.append_assoc]
  rfl

variable {v : Value}

theorem readsElements_last (h : Reads v cs) :
    ReadsElements [v] cs where
  text := by
    rw [h.text]
    exact (List.append_nil _).symm
  starts := h.starts
  length := Nat.succ_le_succ h.length
  reads := by
    intro fuel rest hfuel
    rcases fuel with _ | fuel
    · cases hfuel
    · have hread := h.reads fuel (']' :: rest) (Nat.le_of_succ_le_succ hfuel)
        (ends_cons (Or.inr (Or.inl rfl)) rest)
      unfold elements
      rw [hread]
      rfl

theorem readsElements_cons {v w : Value} {vs : List Value} {cs ds : List Char}
    (h : Reads v cs) (hrest : ReadsElements (w :: vs) ds) :
    ReadsElements (v :: w :: vs) (cs ++ ',' :: ds) where
  text := by
    have hcomma : utf8 (',' :: ds) = appendElements false (w :: vs) := by
      rw [appendElements_false, ← hrest.text]
      rfl
    rw [utf8_append, hcomma, h.text]
    rfl
  starts := h.starts.append _
  length := by
    have hhead := h.length
    have htail := hrest.length
    simp only [sizes, List.length_append, List.length_cons] at *
    omega
  reads := by
    intro fuel rest hfuel
    rcases fuel with _ | fuel
    · cases hfuel
    · have hsizes : sizes (v :: w :: vs) = size v + sizes (w :: vs) + 1 := rfl
      have hhead := h.reads fuel (',' :: (ds ++ ']' :: rest)) (by omega)
        (ends_cons (Or.inl rfl) _)
      have htail := hrest.reads fuel rest (by omega)
      have hcomma : skipWs (',' :: (ds ++ ']' :: rest)) = ',' :: (ds ++ ']' :: rest) := rfl
      have hskip : skipWs (ds ++ ']' :: rest) = ds ++ ']' :: rest :=
        skipWs_of_starts (hrest.starts.append _)
      rw [List.append_assoc, List.cons_append]
      unfold elements
      simp only [hhead, hcomma, hskip, htail, Option.bind_eq_bind, Option.bind_some]
      rfl

theorem reads_arr {vs : List Value} (h : ReadsElements vs cs) :
    Reads (arr vs) ('[' :: (cs ++ [']'])) where
  text := by
    rw [utf8_cons, utf8_append, h.text]
    exact (List.append_assoc _ _ _).symm
  starts := ⟨'[', _, rfl, rfl, by decide⟩
  length := by
    have hlength := h.length
    simp only [size, List.length_cons, List.length_append, List.length_nil]
    omega
  reads := by
    intro fuel rest hfuel _
    rcases fuel with _ | fuel
    · cases hfuel
    · have hread := h.reads fuel rest (Nat.le_of_succ_le_succ hfuel)
      have hstarts := h.starts.append (']' :: rest)
      have hskip := skipWs_of_starts hstarts
      rcases hstarts with ⟨c, tail, hinput, -, hne⟩
      rw [List.cons_append, List.append_assoc, List.singleton_append]
      unfold value
      simp only [hskip]
      split
      case h_1 heq =>
        rw [hinput] at heq
        exact absurd (List.cons.inj heq).1 hne
      case h_2 =>
        rw [hread]
        rfl

theorem reads_arr_nil : Reads (arr []) ['[', ']'] where
  text := rfl
  starts := ⟨'[', _, rfl, rfl, by decide⟩
  length := by decide
  reads := by
    intro fuel rest hfuel _
    rcases fuel with _ | fuel
    · cases hfuel
    · rfl

/-!
## Objects
-/

theorem appendMembers_false (m : Bytes × Value) (ms : List (Bytes × Value)) :
    appendMembers false (m :: ms) = ascii "," ++ appendMembers true (m :: ms) := by
  simp only [appendMembers, separator, List.append_assoc]
  rfl

def memberText (key cs : List Char) : List Char :=
  '"' :: ((key.flatMap Rest.Json.escapeChar ++ ['"']) ++ ':' :: cs)

theorem utf8_memberText (key : List Char) (h : Reads v cs) :
    utf8 (memberText key cs) =
      appendEscapedJsonString (utf8 key) ++ ascii ":" ++ appendJson v := by
  rw [appendEscapedJsonString_utf8, ← h.text, List.append_assoc]
  exact utf8_append ('"' :: (key.flatMap Rest.Json.escapeChar ++ ['"'])) (':' :: cs)

theorem memberText_append (key cs rest : List Char) :
    memberText key cs ++ rest =
      '"' :: ((key.flatMap Rest.Json.escapeChar ++ ['"']) ++ ':' :: (cs ++ rest)) := by
  unfold memberText
  rw [List.cons_append, List.append_assoc, List.cons_append]

section Members

variable (key : List Char) {v : Value} {cs : List Char} (h : Reads v cs) (fuel : Nat)
  (rest : List Char) (hfuel : size v ≤ fuel)

include h hfuel

theorem members_last :
    members utf8 (fuel + 1) (memberText key cs ++ '\x7d' :: rest) =
      some ([(utf8 key, document v)], rest) := by
  have hkey := stringBody_text key (':' :: (cs ++ '\x7d' :: rest))
  have hcolon : skipWs (':' :: (cs ++ '\x7d' :: rest)) = ':' :: (cs ++ '\x7d' :: rest) := rfl
  have hskip := skipWs_of_starts (h.starts.append ('\x7d' :: rest))
  have hread := h.reads fuel ('\x7d' :: rest) hfuel (ends_cons (Or.inr (Or.inr rfl)) rest)
  rw [memberText_append]
  unfold members
  simp only [hkey, hcolon, hskip, hread, Option.bind_eq_bind, Option.bind_some]
  rfl

theorem members_comma {pairs : List (Bytes × Document Bytes)} {tail : List Char}
    (hpairs : members utf8 fuel (skipWs rest) = some (pairs, tail)) :
    members utf8 (fuel + 1) (memberText key cs ++ ',' :: rest) =
      some ((utf8 key, document v) :: pairs, tail) := by
  have hkey := stringBody_text key (':' :: (cs ++ ',' :: rest))
  have hcolon : skipWs (':' :: (cs ++ ',' :: rest)) = ':' :: (cs ++ ',' :: rest) := rfl
  have hcomma : skipWs (',' :: rest) = ',' :: rest := rfl
  have hskip := skipWs_of_starts (h.starts.append (',' :: rest))
  have hread := h.reads fuel (',' :: rest) hfuel (ends_cons (Or.inl rfl) rest)
  rw [memberText_append]
  unfold members
  simp only [hkey, hcolon, hcomma, hskip, hread, hpairs, Option.bind_eq_bind,
    Option.bind_some]

end Members

theorem readsMembers_last (key : List Char) (h : Reads v cs) :
    ReadsMembers [(utf8 key, v)] (memberText key cs) where
  text := by
    rw [utf8_memberText key h]
    exact (List.append_nil _).symm
  starts := ⟨_, rfl⟩
  length := by
    have hlength := h.length
    simp only [memberSizes, memberText, List.length_cons, List.length_append]
    omega
  reads := by
    intro fuel rest hfuel
    rcases fuel with _ | fuel
    · cases hfuel
    · exact members_last key h fuel rest (Nat.le_of_succ_le_succ hfuel)

theorem readsMembers_cons (key : List Char) {m : Bytes × Value}
    {ms : List (Bytes × Value)} {cs ds : List Char} (h : Reads v cs)
    (hrest : ReadsMembers (m :: ms) ds) :
    ReadsMembers ((utf8 key, v) :: m :: ms) (memberText key cs ++ ',' :: ds) where
  text := by
    have hcomma : utf8 (',' :: ds) = appendMembers false (m :: ms) := by
      rw [appendMembers_false, ← hrest.text]
      rfl
    rw [utf8_append, hcomma, utf8_memberText key h]
    rfl
  starts := ⟨_, rfl⟩
  length := by
    have hhead := h.length
    have htail := hrest.length
    have hsizes : memberSizes ((utf8 key, v) :: m :: ms) =
        size v + memberSizes (m :: ms) + 1 := rfl
    simp only [memberText, List.length_append, List.length_cons]
    omega
  reads := by
    intro fuel rest hfuel
    rcases fuel with _ | fuel
    · cases hfuel
    · have hsizes : memberSizes ((utf8 key, v) :: m :: ms) =
          size v + memberSizes (m :: ms) + 1 := rfl
      have htail := hrest.reads fuel rest (by omega)
      have hskip : skipWs (ds ++ '\x7d' :: rest) = ds ++ '\x7d' :: rest := by
        rcases hrest.starts with ⟨tail, rfl⟩
        rfl
      rw [List.append_assoc, List.cons_append]
      refine members_comma key h fuel _ (by omega) ?_
      rw [hskip]
      exact htail

theorem reads_obj {ms : List (Bytes × Value)} (h : ReadsMembers ms cs) :
    Reads (obj ms) ('\x7b' :: (cs ++ ['\x7d'])) where
  text := by
    rw [utf8_cons, utf8_append, h.text]
    exact (List.append_assoc _ _ _).symm
  starts := ⟨'\x7b', _, rfl, rfl, by decide⟩
  length := by
    have hlength := h.length
    simp only [size, List.length_cons, List.length_append, List.length_nil]
    omega
  reads := by
    intro fuel rest hfuel _
    rcases fuel with _ | fuel
    · cases hfuel
    · have hread := h.reads fuel rest (Nat.le_of_succ_le_succ hfuel)
      rcases h.starts with ⟨tail, htext⟩
      rw [List.cons_append, List.append_assoc, List.singleton_append]
      rw [htext] at hread ⊢
      have hskip : skipWs (('"' :: tail) ++ '\x7d' :: rest) =
        ('"' :: tail) ++ '\x7d' :: rest := rfl
      unfold value
      simp only [hskip]
      split
      case h_1 heq => exact absurd (List.cons.inj heq).1 (by decide)
      case h_2 =>
        rw [hread]
        rfl

theorem reads_obj_nil : Reads (obj []) ['\x7b', '\x7d'] where
  text := rfl
  starts := ⟨'\x7b', _, rfl, rfl, by decide⟩
  length := by decide
  reads := by
    intro fuel rest hfuel _
    rcases fuel with _ | fuel
    · cases hfuel
    · rfl

/-!
# The round trip
-/

theorem exists_readsElements_cons {vs : List Value} {cs ds : List Char}
    (h : Reads v cs) (hrest : ReadsElements vs ds) :
    exists cs, ReadsElements (v :: vs) cs := by
  cases vs with
  | nil => exact ⟨cs, readsElements_last h⟩
  | cons w vs => exact ⟨_, readsElements_cons h hrest⟩

theorem exists_readsMembers_cons (key : List Char) {ms : List (Bytes × Value)}
    {cs ds : List Char} (h : Reads v cs) (hrest : ReadsMembers ms ds) :
    exists cs, ReadsMembers ((utf8 key, v) :: ms) cs := by
  cases ms with
  | nil => exact ⟨_, readsMembers_last key h⟩
  | cons m ms => exact ⟨_, readsMembers_cons key h hrest⟩

mutual

theorem exists_reads : forall v, Textual v -> exists cs, Reads v cs
  | null, _ => ⟨_, reads_null⟩
  | bool x, _ => reads_bool x
  | int x, _ => ⟨_, reads_int x⟩
  | str _, h => reads_str h
  | arr x, h => by
      rcases exists_readsElements x h with rfl | ⟨cs, hcs⟩
      · exact ⟨_, reads_arr_nil⟩
      · exact ⟨_, reads_arr hcs⟩
  | obj x, h => by
      rcases exists_readsMembers x h with rfl | ⟨cs, hcs⟩
      · exact ⟨_, reads_obj_nil⟩
      · exact ⟨_, reads_obj hcs⟩
theorem exists_readsElements :
    forall vs, AllTextual vs -> vs = [] ∨ exists cs, ReadsElements vs cs
  | [], _ => Or.inl rfl
  | v :: vs, h => by
      rcases exists_reads v h.1 with ⟨cs, hcs⟩
      rcases exists_readsElements vs h.2 with rfl | ⟨ds, hds⟩
      · exact Or.inr ⟨cs, readsElements_last hcs⟩
      · exact Or.inr (exists_readsElements_cons hcs hds)
theorem exists_readsMembers :
    forall ms, MembersTextual ms -> ms = [] ∨ exists cs, ReadsMembers ms cs
  | [], _ => Or.inl rfl
  | (_, v) :: ms, h => by
      rcases h with ⟨⟨key, rfl⟩, hv, hms⟩
      rcases exists_reads v hv with ⟨cs, hcs⟩
      rcases exists_readsMembers ms hms with rfl | ⟨ds, hds⟩
      · exact Or.inr ⟨_, readsMembers_last key hcs⟩
      · exact Or.inr (exists_readsMembers_cons key hcs hds)
end
theorem readJson_toText (h : Textual v) : readJson (toText v) = some (document v) := by
  rcases exists_reads v h with ⟨cs, hcs⟩
  have hread := hcs.reads (cs.length + 1) [] (Nat.le_succ_of_le hcs.length) ends_nil
  rw [List.append_nil] at hread
  unfold readJson toText
  rw [← hcs.text, decode_utf8, Option.bind_some]
  unfold parse
  rw [skipWs_of_starts hcs.starts, hread]
  rfl

mutual

theorem textual_of_all : forall v, (document v).All IsText -> Textual v
  | null, _ => trivial
  | bool _, _ => trivial
  | int _, _ => trivial
  | str _, h => h
  | arr x, h => allTextual_of_all x h
  | obj x, h => membersTextual_of_all x h

theorem allTextual_of_all : forall vs, allValues IsText (documents vs) -> AllTextual vs
  | [], _ => trivial
  | v :: vs, h => ⟨textual_of_all v h.1, allTextual_of_all vs h.2⟩

theorem membersTextual_of_all :
    forall ms, allMembers IsText (memberDocuments ms) -> MembersTextual ms
  | [], _ => trivial
  | (_, v) :: ms, h => ⟨h.1, textual_of_all v h.2.1, membersTextual_of_all ms h.2.2⟩

end

theorem toText_roundTrip_iff (v : Value) :
    readJson (toText v) = some (document v) ↔ Textual v := by
  constructor
  case mpr => exact readJson_toText
  case mp =>
    intro h
    unfold readJson at h
    rcases Option.bind_eq_some_iff.mp h with ⟨cs, -, hparse⟩
    exact textual_of_all v (parse_all IsText (fun ds => ⟨ds, rfl⟩) hparse)

/-- A byte that is no text goes into the JSON text as it is, and no reader takes that. -/
theorem toText_invalidByte :
    readJson (toText (str [0xFF])) = none ∧
      Not (readJson (toText (str [0xFF])) = some (document (str [0xFF]))) := by
  have hdecode : decode (toText (str [0xFF])) = none := by decide
  have hnone : readJson (toText (str [0xFF])) = none := by
    unfold readJson
    rw [hdecode]
    rfl
  refine ⟨hnone, ?_⟩
  rw [hnone]
  exact fun h => nomatch h

end Value
end Util
end ServerComponents
