import Mathlib.Data.List.Basic
import ServerComponents.Util.JsonValue

/-!
# Binary data in text

The hexadecimal text in which Postgres takes and answers a `bytea` value.
-/

namespace ServerComponents
namespace SqlUtil

def kHexDigits : List Char := "0123456789abcdef".toList

def hexValue (c : Char) : Int :=
  if '0' ≤ c ∧ c ≤ '9' then c.toNat - '0'.toNat
  else if 'a' ≤ c ∧ c ≤ 'f' then c.toNat - 'a'.toNat + 10
  else if 'A' ≤ c ∧ c ≤ 'F' then c.toNat - 'A'.toNat + 10
  else -1

def hexDigits (b : UInt8) : List Char :=
  [kHexDigits.getD (b.toNat >>> 4) '0', kHexDigits.getD (b.toNat &&& 15) '0']

def byteaHexEncode (bytes : List UInt8) : List Char :=
  '\\' :: 'x' :: bytes.flatMap hexDigits

/-- A character that is no digit ends the run. -/
def hexBytes : List Char -> List UInt8
  | h :: l :: rest =>
      let high := hexValue h
      let low := hexValue l
      if high < 0 ∨ low < 0 then []
      else UInt8.ofNat (high.toNat <<< 4 ||| low.toNat) :: hexBytes rest
  | _ => []

/-- What is not in the hexadecimal form is handed back untouched. -/
def byteaHexDecode (hex : List Char) : List UInt8 :=
  match hex with
  | '\\' :: 'x' :: digits => hexBytes digits
  | _ => hex.flatMap String.utf8EncodeChar

theorem hexBytes_hexDigits_byte (n : Fin 256) (rest : List Char) :
    hexBytes (hexDigits (UInt8.ofNat n.val) ++ rest) = UInt8.ofNat n.val :: hexBytes rest := by
  have hvalues : forall n : Fin 256,
      0 ≤ hexValue (kHexDigits.getD ((UInt8.ofNat n.val).toNat >>> 4) '0') ∧
        0 ≤ hexValue (kHexDigits.getD ((UInt8.ofNat n.val).toNat &&& 15) '0') ∧
        (hexValue (kHexDigits.getD ((UInt8.ofNat n.val).toNat >>> 4) '0')).toNat <<< 4 |||
          (hexValue (kHexDigits.getD ((UInt8.ofNat n.val).toNat &&& 15) '0')).toNat = n.val := by
    decide +kernel
  rcases hvalues n with ⟨hhigh, hlow, hbyte⟩
  simp only [hexDigits, List.cons_append, List.nil_append, hexBytes]
  rw [if_neg (by omega), hbyte]

theorem hexBytes_flatMap (bytes : List UInt8) : hexBytes (bytes.flatMap hexDigits) = bytes := by
  induction bytes with
  | nil => rfl
  | cons b rest ih =>
      have hbyte := hexBytes_hexDigits_byte ⟨b.toNat, b.toNat_lt⟩ (rest.flatMap hexDigits)
      rw [UInt8.ofNat_toNat] at hbyte
      rw [List.flatMap_cons, hbyte, ih]

theorem byteaHexDecode_encode (bytes : List UInt8) :
    byteaHexDecode (byteaHexEncode bytes) = bytes :=
  hexBytes_flatMap bytes

end SqlUtil
end ServerComponents

/-!
# Decoding by index

The decoder walks over bytes and reads them by their index.  A read behind the end has no
value.
-/

namespace ServerComponents
namespace SqlUtil

open Util (Bytes utf8)

/-- `HexValue` of a byte; the bytes from 128 on are negative as a `char`. -/
def byteHexValue (c : UInt8) : Int :=
  if 48 ≤ c ∧ c ≤ 57 then c.toNat - 48
  else if 97 ≤ c ∧ c ≤ 102 then c.toNat - 97 + 10
  else if 65 ≤ c ∧ c ≤ 70 then c.toNat - 65 + 10
  else -1

def decodeFrom (hex : Bytes) (i : Nat) : Option Bytes :=
  if _ : i + 1 < hex.length then do
    let high ← (hex[i]?).map byteHexValue
    let low ← (hex[i + 1]?).map byteHexValue
    if high < 0 ∨ low < 0 then some []
    else
      let out ← decodeFrom hex (i + 2)
      some (UInt8.ofNat (high.toNat <<< 4 ||| low.toNat) :: out)
  else some []
termination_by hex.length - i

/-- `ByteaHexDecode`, without a value when it reads behind the end. -/
def byteaHexDecodeReads (hex : Bytes) : Option Bytes := do
  if hex.length < 2 then some hex
  else
    let first ← hex[0]?
    if first ≠ 92 then some hex
    else
      let second ← hex[1]?
      if second ≠ 120 then some hex else decodeFrom hex 2

def bytePairs : Bytes -> Bytes
  | h :: l :: rest =>
      if byteHexValue h < 0 ∨ byteHexValue l < 0 then []
      else
        UInt8.ofNat ((byteHexValue h).toNat <<< 4 ||| (byteHexValue l).toNat) ::
          bytePairs rest
  | _ => []

theorem bytePairs_of_length_le {rest : Bytes} (h : rest.length ≤ 1) : bytePairs rest = [] := by
  match rest, h with
  | [], _ => rfl
  | [_], _ => rfl

theorem decodeFrom_eq (hex : Bytes) (i : Nat) :
    decodeFrom hex i = some (bytePairs (hex.drop i)) := by
  induction i using decodeFrom.induct hex with
  | case1 i hinside ih =>
      rw [decodeFrom, dif_pos hinside, List.getElem?_eq_getElem (by omega),
        List.getElem?_eq_getElem hinside, List.drop_eq_getElem_cons (by omega),
        List.drop_eq_getElem_cons hinside, ih]
      simp only [Option.map_some, Option.bind_eq_bind, Option.bind_some, bytePairs]
      split <;> rfl
  | case2 i hend =>
      rw [decodeFrom, dif_neg hend, bytePairs_of_length_le]
      rw [List.length_drop]
      omega

theorem isSome_byteaHexDecodeReads (hex : Bytes) : (byteaHexDecodeReads hex).isSome = true := by
  unfold byteaHexDecodeReads
  split
  · rfl
  · rename_i hlong
    rw [List.getElem?_eq_getElem (by omega), List.getElem?_eq_getElem (by omega),
      decodeFrom_eq]
    simp only [Option.bind_eq_bind, Option.bind_some]
    split
    · rfl
    split
    · rfl
    · rfl

/-!
# Texts and their bytes
-/

theorem hexValue_of_le {c : Char} (h : 128 ≤ c.toNat) : hexValue c = -1 := by
  have hval : c.val.toNat = c.toNat := rfl
  have hnot : forall lower upper : Char, upper.toNat < 128 -> Not (lower ≤ c ∧ c ≤ upper) := by
    intro lower upper hupper hbetween
    have hle : c.val.toNat ≤ upper.val.toNat := hbetween.2
    have hupper' : upper.val.toNat < 128 := hupper
    omega
  unfold hexValue
  rw [if_neg (hnot _ _ (by decide)), if_neg (hnot _ _ (by decide)),
    if_neg (hnot _ _ (by decide))]

theorem byteHexValue_of_le {b : UInt8} (h : 128 ≤ b.toNat) : byteHexValue b = -1 := by
  have hnot : forall lower upper : UInt8, upper.toNat < 128 ->
      Not (lower ≤ b ∧ b ≤ upper) := by
    intro lower upper hupper hbetween
    have hle : b.toNat ≤ upper.toNat := hbetween.2
    omega
  unfold byteHexValue
  rw [if_neg (hnot _ _ (by decide)), if_neg (hnot _ _ (by decide)),
    if_neg (hnot _ _ (by decide))]

theorem byteHexValue_ascii (n : Fin 128) :
    byteHexValue (UInt8.ofNat n.val) = hexValue (Char.ofNat n.val) := by
  revert n
  decide

theorem byteHexValue_lead (c : Char) :
    exists lead tails, String.utf8EncodeChar c = lead :: tails ∧
      byteHexValue lead = hexValue c ∧ (0 ≤ hexValue c -> tails = []) := by
  have hval : c.val.toNat = c.toNat := rfl
  by_cases hascii : c.toNat < 128
  · have hone : String.utf8EncodeChar c = [UInt8.ofNat c.toNat] := by
      unfold String.utf8EncodeChar
      exact if_pos (by omega)
    refine ⟨_, [], hone, ?_, fun _ => rfl⟩
    have hbyte := byteHexValue_ascii ⟨c.toNat, hascii⟩
    rwa [Char.ofNat_toNat] at hbyte
  · have hhigh : 128 ≤ c.toNat := by omega
    have hmem := Util.Value.le_of_mem_utf8EncodeChar hhigh
    cases hbytes : String.utf8EncodeChar c with
    | nil =>
        have hlength := congrArg List.length hbytes
        rw [String.length_utf8EncodeChar] at hlength
        have hpos := Char.utf8Size_pos c
        simp only [List.length_nil] at hlength
        omega
    | cons lead tails =>
        refine ⟨lead, tails, rfl, ?_, ?_⟩
        · rw [hexValue_of_le hhigh, byteHexValue_of_le]
          exact hmem lead (by rw [hbytes]; exact List.mem_cons_self)
        · rw [hexValue_of_le hhigh]
          intro hneg
          omega

theorem bytePairs_stray {lead : UInt8} (h : byteHexValue lead < 0) (rest : Bytes) :
    bytePairs (lead :: rest) = [] := by
  cases rest with
  | nil => rfl
  | cons second rest => exact if_pos (Or.inl h)

theorem bytePairs_utf8 (text : List Char) : bytePairs (utf8 text) = hexBytes text := by
  induction text using hexBytes.induct with
  | case1 h l rest high low hstray =>
      rcases byteHexValue_lead h with ⟨lead, tails, hbytes, hvalue, htails⟩
      rcases byteHexValue_lead l with ⟨lead', tails', hbytes', hvalue', -⟩
      have hnone : hexBytes (h :: l :: rest) = [] := if_pos hstray
      rw [hnone, Util.Value.utf8_cons, Util.Value.utf8_cons, hbytes, hbytes']
      by_cases hhigh : hexValue h < 0
      · exact bytePairs_stray (by rw [hvalue]; exact hhigh) _
      · rw [htails (by omega)]
        refine if_pos (Or.inr ?_)
        rw [hvalue']
        exact hstray.resolve_left hhigh
  | case2 h l rest high low hdigits ih =>
      rcases byteHexValue_lead h with ⟨lead, tails, hbytes, hvalue, htails⟩
      rcases byteHexValue_lead l with ⟨lead', tails', hbytes', hvalue', htails'⟩
      have hhigh : 0 ≤ hexValue h := Int.not_lt.mp (fun hneg => hdigits (Or.inl hneg))
      have hlow : 0 ≤ hexValue l := Int.not_lt.mp (fun hneg => hdigits (Or.inr hneg))
      rw [Util.Value.utf8_cons, Util.Value.utf8_cons, hbytes, hbytes', htails hhigh,
        htails' hlow]
      simp only [List.cons_append, List.nil_append, bytePairs, hexBytes, hvalue, hvalue']
      rw [if_neg hdigits, if_neg hdigits, ih]
  | case3 text hshort =>
      cases text with
      | nil => rfl
      | cons c text =>
        cases text with
        | cons l rest => exact absurd rfl (hshort c l rest)
        | nil =>
          rcases byteHexValue_lead c with ⟨lead, tails, hbytes, hvalue, htails⟩
          change bytePairs (String.utf8EncodeChar c ++ []) = []
          rw [hbytes, List.append_nil]
          by_cases hneg : hexValue c < 0
          · exact bytePairs_stray (by rw [hvalue]; exact hneg) _
          · rw [htails (by omega)]
            rfl

theorem eq_of_ascii_lead {c : Char} {lead : UInt8} {tails : Bytes}
    (hbytes : String.utf8EncodeChar c = lead :: tails) (hlead : lead.toNat < 128) :
    c = Char.ofNat lead.toNat ∧ tails = [] := by
  have hval : c.val.toNat = c.toNat := rfl
  by_cases hascii : c.toNat < 128
  · have hone : String.utf8EncodeChar c = [UInt8.ofNat c.toNat] := by
      unfold String.utf8EncodeChar
      exact if_pos (by omega)
    rw [hone] at hbytes
    cases hbytes
    constructor
    · rw [UInt8.toNat_ofNat', Nat.mod_eq_of_lt (by omega), Char.ofNat_toNat]
    · rfl
  · have hhigh := Util.Value.le_of_mem_utf8EncodeChar (Nat.le_of_not_lt hascii) lead
      (by rw [hbytes]; exact List.mem_cons_self)
    omega

theorem prefix_of_utf8 {text : List Char} {rest : Bytes}
    (h : utf8 text = 92 :: 120 :: rest) : exists digits, text = '\\' :: 'x' :: digits := by
  have hhead : forall {cs : List Char} {b : UInt8} {bs : Bytes}, b.toNat < 128 ->
      utf8 cs = b :: bs -> exists ds, cs = Char.ofNat b.toNat :: ds ∧ utf8 ds = bs := by
    intro cs b bs hb hcs
    cases cs with
    | nil => cases hcs
    | cons c ds =>
        rcases byteHexValue_lead c with ⟨lead, tails, hbytes, -, -⟩
        rw [Util.Value.utf8_cons, hbytes] at hcs
        cases hcs
        rcases eq_of_ascii_lead hbytes hb with ⟨hc, htails⟩
        exact ⟨ds, by rw [← hc], by rw [htails]; rfl⟩
  rcases hhead (by decide) h with ⟨tail, htext, htail⟩
  rcases hhead (by decide) htail with ⟨digits, hdigits, -⟩
  exact ⟨digits, by rw [htext, hdigits]; rfl⟩

theorem byteaHexDecode_of_not_prefix {text : List Char}
    (h : forall digits, text ≠ '\\' :: 'x' :: digits) : byteaHexDecode text = utf8 text := by
  unfold byteaHexDecode
  split
  · rename_i digits
    exact absurd rfl (h digits)
  · rfl

theorem byteaHexDecodeReads_utf8 (text : List Char) :
    byteaHexDecodeReads (utf8 text) = some (byteaHexDecode text) := by
  by_cases hprefix : exists rest, utf8 text = 92 :: 120 :: rest
  · rcases hprefix with ⟨rest, hrest⟩
    rcases prefix_of_utf8 hrest with ⟨digits, rfl⟩
    have hbytes : utf8 ('\\' :: 'x' :: digits) = 92 :: 120 :: utf8 digits := by
      rw [Util.Value.utf8_cons, Util.Value.utf8_cons]
      rfl
    have hloop : decodeFrom (92 :: 120 :: utf8 digits) 2 = some (hexBytes digits) := by
      rw [decodeFrom_eq]
      simp only [List.drop_succ_cons, List.drop_zero]
      rw [bytePairs_utf8]
    unfold byteaHexDecodeReads
    rw [hbytes, hloop]
    rfl
  · have huntouched : byteaHexDecode text = utf8 text := by
      refine byteaHexDecode_of_not_prefix (fun digits htext => hprefix ?_)
      rw [htext, Util.Value.utf8_cons, Util.Value.utf8_cons]
      exact ⟨utf8 digits, rfl⟩
    rw [huntouched]
    generalize utf8 text = hex at hprefix
    unfold byteaHexDecodeReads
    match hex, hprefix with
    | [], _ => rfl
    | [_], _ => rfl
    | first :: second :: rest, hprefix =>
        rw [if_neg (by simp)]
        simp only [List.getElem?_cons_zero, List.getElem?_cons_succ, Option.bind_eq_bind,
          Option.bind_some]
        by_cases hfirst : first ≠ 92
        · rw [if_pos hfirst]
        · rw [if_neg hfirst, if_pos]
          intro hsecond
          exact hprefix ⟨rest, by rw [Decidable.not_not.mp hfirst, hsecond]⟩

/-- The decoder that reads by index decodes what the encoder wrote, and never reads behind
the end of any input. -/
theorem byteaHexDecodeReads_total :
    (forall bytes, byteaHexDecodeReads (utf8 (byteaHexEncode bytes)) = some bytes) ∧
      forall hex, (byteaHexDecodeReads hex).isSome = true := by
  constructor
  · intro bytes
    rw [byteaHexDecodeReads_utf8, byteaHexDecode_encode]
  · exact isSome_byteaHexDecodeReads

end SqlUtil
end ServerComponents
