import Mathlib.Data.List.Basic
import Mathlib.Data.String.Basic

/-!
# Percent-encoding

Texts as UTF-8 bytes, the strict encoding of a value for a query, and the query as
a browser reads it back: fields between ampersands, plus for space, escapes as bytes.
-/

namespace ServerComponents
namespace Text

def utf8 (text : String) : List UInt8 := text.toByteArray.data.toList

def text? (bytes : List UInt8) : Option String :=
  String.fromUTF8? (ByteArray.mk bytes.toArray)

theorem text?_utf8 (text : String) : text? (utf8 text) = some text := by
  have hbytes : ByteArray.mk (utf8 text).toArray = text.toByteArray := by
    simp [utf8]
  unfold text?
  rw [hbytes]
  exact dif_pos text.isValidUTF8

/-!
# Bytes and escapes
-/

def isUnreserved (b : UInt8) : Bool :=
  (65 ≤ b.toNat && b.toNat ≤ 90) || (97 ≤ b.toNat && b.toNat ≤ 122) ||
    (48 ≤ b.toNat && b.toNat ≤ 57) ||
    b.toNat == 45 || b.toNat == 46 || b.toNat == 95 || b.toNat == 126

def hexDigit (n : Nat) : Char :=
  if n < 10 then Char.ofNat (48 + n) else Char.ofNat (55 + n)

/-- Every byte outside the unreserved set is escaped. -/
def encodeByte (b : UInt8) : List Char :=
  if isUnreserved b then [Char.ofNat b.toNat]
  else ['%', hexDigit (b.toNat / 16), hexDigit (b.toNat % 16)]

def encodeBytes (bytes : List UInt8) : List Char := bytes.flatMap encodeByte

def hexValue? (c : Char) : Option Nat :=
  if '0' ≤ c ∧ c ≤ '9' then some (c.toNat - 48)
  else if 'A' ≤ c ∧ c ≤ 'F' then some (c.toNat - 55)
  else if 'a' ≤ c ∧ c ≤ 'f' then some (c.toNat - 87)
  else none

/-- A percent sign without two digits stands for itself. -/
def percentDecode : List Char -> List UInt8
  | [] => []
  | c :: rest =>
      match c, rest with
      | '%', high :: low :: rest' =>
          match hexValue? high, hexValue? low with
          | some h, some l => UInt8.ofNat (16 * h + l) :: percentDecode rest'
          | _, _ => String.utf8EncodeChar '%' ++ percentDecode (high :: low :: rest')
      | c, rest => String.utf8EncodeChar c ++ percentDecode rest

/-!
# Queries
-/

/-- The value of a field: plus is space, then the escapes. -/
def formValue? (value : List Char) : Option String :=
  text? (percentDecode (value.map (fun c => if c = '+' then ' ' else c)))

/-- The name and the value of a field, without the sign between them. -/
def parseField (field : List Char) : List Char × List Char :=
  (field.takeWhile (fun c => c ≠ '='), (field.dropWhile (fun c => c ≠ '=')).drop 1)

def queryValue? (name : String) (query : List Char) : Option String := do
  let field ← ((query.splitOn '&').map parseField).find?
    (fun field => formValue? field.1 = some name)
  formValue? field.2

def queryOf (link : List Char) : List Char :=
  (link.reverse.takeWhile (fun c => c ≠ '?')).reverse

/-- The query of the last link of an HTML text, which ends at the last quote. -/
def queryOfLastLink (html : List Char) : List Char :=
  queryOf ((html.reverse.dropWhile (fun c => c ≠ '"')).tail).reverse

/-- The decoder of a server, which refuses a malformed escape. -/
def strictDecode? : List Char -> Option (List UInt8)
  | [] => some []
  | c :: rest =>
      if c = '%' then
        match rest with
        | high :: low :: rest' =>
            match hexValue? high, hexValue? low with
            | some h, some l =>
                (strictDecode? rest').map (fun bytes => UInt8.ofNat (16 * h + l) :: bytes)
            | _, _ => none
        | _ => none
      else (strictDecode? rest).map (fun bytes => String.utf8EncodeChar c ++ bytes)

section Rules

variable {b : UInt8} {bytes : List UInt8} {rest : List Char}

/-- The characters that the encoding writes. -/
def IsEncoded (c : Char) : Bool :=
  c.isAlphanum || c == '-' || c == '.' || c == '_' || c == '~' || c == '%'

/-- What every byte is written as, and what the decoder makes of it. -/
def EncodesByte (b : UInt8) : Prop :=
  (forall c, c ∈ encodeByte b -> IsEncoded c = true) ∧
    if isUnreserved b then
      Char.ofNat b.toNat ≠ '%' ∧ String.utf8EncodeChar (Char.ofNat b.toNat) = [b]
    else
      hexValue? (hexDigit (b.toNat / 16)) = some (b.toNat / 16) ∧
        hexValue? (hexDigit (b.toNat % 16)) = some (b.toNat % 16)

instance (b : UInt8) : Decidable (EncodesByte b) :=
  @instDecidableAnd _ _ (List.decidableBAll _ _) inferInstance

theorem encodesByte (b : UInt8) : EncodesByte b := by
  have hall : forall n : Fin 256, EncodesByte (UInt8.ofNat n.val) := by decide +kernel
  have hb := hall ⟨b.toNat, b.toNat_lt⟩
  rwa [UInt8.ofNat_toNat] at hb

theorem percentDecode_cons {c : Char} (h : c ≠ '%') :
    percentDecode (c :: rest) = String.utf8EncodeChar c ++ percentDecode rest := by
  rw [percentDecode]
  exact fun _ _ _ heq => absurd heq h

theorem percentDecode_encodeByte :
    percentDecode (encodeByte b ++ rest) = b :: percentDecode rest := by
  have hbyte := (encodesByte b).2
  unfold encodeByte
  split at hbyte
  · rename_i hplain
    rw [if_pos hplain, List.singleton_append, percentDecode_cons hbyte.1, hbyte.2]
    rfl
  · rename_i hescaped
    rw [if_neg hescaped]
    show percentDecode ('%' :: hexDigit (b.toNat / 16) :: hexDigit (b.toNat % 16) :: rest) = _
    rw [percentDecode]
    simp only [hbyte.1, hbyte.2]
    rw [Nat.div_add_mod, UInt8.ofNat_toNat]

theorem percentDecode_encodeBytes :
    percentDecode (encodeBytes bytes ++ rest) = bytes ++ percentDecode rest := by
  unfold encodeBytes
  induction bytes with
  | nil => rfl
  | cons b bytes ih =>
      rw [List.flatMap_cons, List.append_assoc, percentDecode_encodeByte, ih]
      rfl

theorem mem_encodeBytes {c : Char} (h : c ∈ encodeBytes bytes) : IsEncoded c = true := by
  rcases List.mem_flatMap.mp h with ⟨b, _, hc⟩
  exact (encodesByte b).1 c hc

theorem not_mem_encodeBytes {c : Char} (h : IsEncoded c = false) : c ∉ encodeBytes bytes := by
  intro hmem
  rw [mem_encodeBytes hmem] at h
  cases h

theorem map_plus {value : List Char} (h : '+' ∉ value) :
    value.map (fun c => if c = '+' then ' ' else c) = value := by
  calc
    value.map (fun c => if c = '+' then ' ' else c) = value.map id := by
      apply List.map_congr_left
      intro c hc
      have hne : c ≠ '+' := fun heq => h (heq ▸ hc)
      exact if_neg hne
    _ = value := List.map_id value

theorem formValue?_encodeBytes (text : String) :
    formValue? (encodeBytes (utf8 text)) = some text := by
  unfold formValue?
  rw [map_plus (not_mem_encodeBytes (by decide))]
  have hdecode : percentDecode (encodeBytes (utf8 text) ++ []) = utf8 text ++ [] :=
    percentDecode_encodeBytes
  rw [List.append_nil, List.append_nil] at hdecode
  rw [hdecode, text?_utf8]

theorem parseField_eq {name value : List Char} (h : '=' ∉ name) :
    parseField (name ++ '=' :: value) = (name, value) := by
  have hname : forall c, c ∈ name -> decide (c ≠ '=') = true := by
    intro c hc
    exact decide_eq_true (fun heq => h (heq ▸ hc))
  unfold parseField
  rw [List.takeWhile_append_of_pos hname, List.dropWhile_append_of_pos hname]
  simp

theorem queryOf_append {site query : List Char} (h : '?' ∉ query) :
    queryOf (site ++ '?' :: query) = query := by
  have hquery : forall c, c ∈ query.reverse -> decide (c ≠ '?') = true := by
    intro c hc
    exact decide_eq_true (fun heq => h (heq ▸ List.mem_reverse.mp hc))
  unfold queryOf
  rw [List.reverse_append, List.reverse_cons, List.append_assoc,
    List.takeWhile_append_of_pos hquery]
  simp

theorem queryOfLastLink_append {site query after : List Char} (hquery : '?' ∉ query)
    (hafter : '"' ∉ after) :
    queryOfLastLink (site ++ '?' :: (query ++ '"' :: after)) = query := by
  have hlast : forall c, c ∈ after.reverse -> decide (c ≠ '"') = true := by
    intro c hc
    exact decide_eq_true (fun heq => hafter (heq ▸ List.mem_reverse.mp hc))
  have hshape : (site ++ '?' :: (query ++ '"' :: after)).reverse =
      after.reverse ++ '"' :: (site ++ '?' :: query).reverse := by
    simp
  unfold queryOfLastLink
  rw [hshape, List.dropWhile_append_of_pos hlast]
  simp only [ne_eq, not_true_eq_false, decide_false, Bool.false_eq_true, not_false_eq_true,
    List.dropWhile_cons_of_neg, List.tail_cons, List.reverse_reverse]
  exact queryOf_append hquery

theorem queryValue?_two {name name' : String} {key key' value value' : List Char}
    (hkey : formValue? key = some name) (hkey' : formValue? key' = some name')
    (hne : name ≠ name') (heq : '=' ∉ key) (heq' : '=' ∉ key')
    (hamp : '&' ∉ key ++ '=' :: value) (hamp' : '&' ∉ key' ++ '=' :: value') :
    queryValue? name ((key ++ '=' :: value) ++ '&' :: (key' ++ '=' :: value')) =
        formValue? value ∧
      queryValue? name' ((key ++ '=' :: value) ++ '&' :: (key' ++ '=' :: value')) =
        formValue? value' := by
  have hplain : forall {field : List Char}, '&' ∉ field ->
      forall c, c ∈ field -> (c == '&') = false := by
    intro field hfield c hc
    exact beq_eq_false_iff_ne.mpr (fun h => hfield (h ▸ hc))
  have hfields : (((key ++ '=' :: value) ++ '&' :: (key' ++ '=' :: value')).splitOn '&').map
      parseField = [(key, value), (key', value')] := by
    rw [List.splitOn_eq_splitOnP,
      List.splitOnP_append_cons_of_forall_mem (hplain hamp) '&' (by simp),
      List.splitOnP_eq_singleton (hplain hamp')]
    simp only [List.map_cons, List.map_nil, parseField_eq heq, parseField_eq heq']
  have hother : formValue? key ≠ some name' := by
    rw [hkey]
    exact fun h => hne (Option.some.inj h)
  unfold queryValue?
  rw [hfields]
  constructor
  · simp [hkey]
  · simp [hother, hkey']

/-!
# The strict decoder
-/

theorem utf8_eq (text : String) :
    utf8 text = text.toList.flatMap String.utf8EncodeChar := by
  rw [utf8, ← String.utf8Encode_toList]
  simp [List.utf8Encode]

theorem formValue?_of_plain {text : String} (hplus : '+' ∉ text.toList)
    (hpercent : '%' ∉ text.toList) : formValue? text.toList = some text := by
  have hdecode : forall value : List Char, '%' ∉ value ->
      percentDecode value = value.flatMap String.utf8EncodeChar := by
    intro value h
    induction value with
    | nil => rfl
    | cons c rest ih =>
        rw [List.mem_cons, not_or] at h
        rw [percentDecode_cons (fun heq => h.1 heq.symm), ih h.2, List.flatMap_cons]
  rw [formValue?, map_plus hplus, hdecode _ hpercent, ← utf8_eq, text?_utf8]

theorem length_utf8 (text : String) : (utf8 text).length = text.utf8ByteSize := by
  rw [utf8, Array.length_toList]
  rfl

theorem utf8_of_text? {text : String} (h : text? bytes = some text) : utf8 text = bytes := by
  unfold text? String.fromUTF8? at h
  split at h
  · cases h
    rfl
  · cases h

theorem strictDecode?_cons {c : Char} (h : c ≠ '%') :
    strictDecode? (c :: rest) =
      (strictDecode? rest).map (fun bytes => String.utf8EncodeChar c ++ bytes) := by
  rw [strictDecode?.eq_def]
  simp only [h, if_false]

theorem strictDecode?_of_plain {text : List Char} (h : '%' ∉ text) :
    strictDecode? text = some (text.flatMap String.utf8EncodeChar) := by
  induction text with
  | nil => rfl
  | cons c rest ih =>
      rw [List.mem_cons, not_or] at h
      rw [strictDecode?_cons (fun heq => h.1 heq.symm), ih h.2]
      rfl

theorem length_strictDecode? {text : List Char} (h : strictDecode? text = some bytes) :
    bytes.length + (if '%' ∈ text then 1 else 0) ≤
      (text.flatMap String.utf8EncodeChar).length := by
  have hsize : forall c : Char, 0 < (String.utf8EncodeChar c).length := by
    intro c
    rw [String.length_utf8EncodeChar]
    exact c.utf8Size_pos
  fun_induction strictDecode? text generalizing bytes with
  | case1 =>
      cases h
      simp
  | case2 high low rest' h' l hlow hhigh ih =>
      rcases Option.map_eq_some_iff.mp h with ⟨bytes', hrest, hbytes⟩
      have hle := ih hrest
      have hhigh' := hsize high
      have hlow' := hsize low
      have hpercent := hsize '%'
      rw [← hbytes]
      simp only [List.length_cons, List.flatMap_cons, List.length_append, List.mem_cons,
        true_or, if_true]
      omega
  | case3 => cases h
  | case4 => cases h
  | case5 c rest hc ih =>
      rcases Option.map_eq_some_iff.mp h with ⟨bytes', hrest, hbytes⟩
      have hle := ih hrest
      have hmem : '%' ∈ c :: rest <-> '%' ∈ rest := by
        rw [List.mem_cons]
        exact or_iff_right (fun heq => hc heq.symm)
      rw [← hbytes]
      simp only [List.length_append, List.flatMap_cons, hmem]
      omega

end Rules

end Text
end ServerComponents
