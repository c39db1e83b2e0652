import Mathlib.Data.List.Lex
import ServerComponents.Basics
import ServerComponents.Util.JsonValue

/-!
# Rows as JSON

A row of texts becomes an object of numbers and texts, and an object becomes a
row again.  The texts are bytes, whatever they are.
-/

namespace ServerComponents
namespace Util

open Relational

/-- The order of the characters of a `std::string`. -/
instance byteLinearOrder : LinearOrder UInt8 where
  le_refl := UInt8.le_refl
  le_trans := fun _ _ _ => UInt8.le_trans
  lt_iff_le_not_ge := fun a b => by
    rw [UInt8.le_iff_toNat_le, UInt8.le_iff_toNat_le, UInt8.lt_iff_toNat_lt]
    omega
  le_antisymm := fun _ _ => UInt8.le_antisymm
  le_total := UInt8.le_total
  toDecidableLE := inferInstance
  toDecidableLT := inferInstance
  toDecidableEq := inferInstance

abbrev KeyValueTable : Type := SortedMap Bytes Bytes

def isDigit (c : UInt8) : Bool := !(decide (c < 48) || decide (c > 57))

/-- Check if a string represents an integer. -/
def isIntegerString (str : Bytes) : Bool :=
  if str = [] then false
  else if str.head? = some 45 then
    if str.length = 1 then false else (str.drop 1).all isDigit
  else str.all isDigit

/-- The number of a row of digits, behind those read before. -/
def digitsValue (before : Nat) (digits : Bytes) : Nat :=
  digits.foldl (fun n c => 10 * n + (c.toNat - 48)) before

def unsignedPart : Bytes -> Bytes
  | 45 :: digits => digits
  | digits => digits

def integerOf (str : Bytes) : Int :=
  if str.head? = some 45 then - digitsValue 0 (unsignedPart str)
  else digitsValue 0 (unsignedPart str)

/-- `std::from_chars` on a text of digits with a sign or without: the end of the text is always
reached, and a number that does not fit is an error. -/
def fromChars (str : Bytes) : Option Int64 :=
  if IsInt64 (integerOf str) then some (Int64.ofInt (integerOf str)) else none

def jsonOfText (value : Bytes) : Value :=
  if isIntegerString value then
    match fromChars value with
    | some intValue => .int intValue
    | none => .str value
  else .str value

def keyValueTableToJson (table : KeyValueTable) : Value :=
  .obj (table.entries.foldl
    (fun (obj : SortedMap Bytes Value) e => obj.set e.1 (jsonOfText e.2)) SortedMap.empty).entries

/-- Like the JSON text, but if the value is a string, it is unquoted. -/
def Value.toSimpleString : Value -> Bytes
  | .str x => x
  | value => value.toText

def keyValueTableFromJson (value : Value) : KeyValueTable :=
  match value with
  | .obj children =>
      children.foldl (fun table e => table.set e.1 e.2.toSimpleString) SortedMap.empty
  | _ => SortedMap.empty

/-!
# Numerals
-/

theorem digitChar_utf8 : forall k, k < 10 ->
    String.utf8EncodeChar (Nat.digitChar k) = [UInt8.ofNat (k + 48)] := by
  decide

theorem isDigit_iff {c : UInt8} : isDigit c = true ↔ 48 ≤ c.toNat ∧ c.toNat ≤ 57 := by
  unfold isDigit
  simp only [Bool.not_eq_true', Bool.or_eq_false_iff, decide_eq_false_iff_not,
    UInt8.lt_iff_toNat_lt, gt_iff_lt]
  have h48 : (48 : UInt8).toNat = 48 := rfl
  have h57 : (57 : UInt8).toNat = 57 := rfl
  omega

theorem digitChar_of_isDigit {c : UInt8} (hc : isDigit c = true) :
    utf8 [Nat.digitChar (c.toNat - 48)] = [c] := by
  rcases isDigit_iff.mp hc with ⟨hlow, hhigh⟩
  rw [utf8, List.flatMap_cons, digitChar_utf8 _ (by omega), Nat.sub_add_cancel hlow,
    UInt8.ofNat_toNat]
  rfl

theorem utf8_toDigits_digitsValue {digits : Bytes} (hdigits : digits.all isDigit = true) {n : Nat}
    (hn : 0 < n) :
    utf8 (Nat.toDigits 10 (digitsValue n digits)) = utf8 (Nat.toDigits 10 n) ++ digits := by
  induction digits generalizing n with
  | nil => exact (List.append_nil _).symm
  | cons c rest ih =>
      rw [List.all_cons, Bool.and_eq_true] at hdigits
      rcases isDigit_iff.mp hdigits.1 with ⟨hlow, hhigh⟩
      have hstep : digitsValue n (c :: rest) = digitsValue (10 * n + (c.toNat - 48)) rest := rfl
      have hdigit : c.toNat - 48 < 10 := by omega
      rw [hstep, ih hdigits.2 (by omega), ← Nat.toDigits_append_toDigits (by decide) hn hdigit,
        Nat.toDigits_of_lt_base hdigit, Value.utf8_append, digitChar_of_isDigit hdigits.1,
        List.append_assoc]
      rfl

theorem utf8_toDigits_of_canonical {digits : Bytes} (hdigits : digits.all isDigit = true)
    (hne : digits ≠ []) (hzero : digits.head? = some 48 -> digits = [48]) :
    utf8 (Nat.toDigits 10 (digitsValue 0 digits)) = digits := by
  cases digits with
  | nil => exact absurd rfl hne
  | cons c rest =>
      rw [List.all_cons, Bool.and_eq_true] at hdigits
      rcases isDigit_iff.mp hdigits.1 with ⟨hlow, hhigh⟩
      by_cases hc : c = 48
      · rw [hzero (by rw [hc]; rfl)]
        decide
      · have hpos : 0 < c.toNat - 48 := by
          have hne48 : c.toNat ≠ 48 := fun h => hc (UInt8.toNat_inj.mp h)
          omega
        have hstep : digitsValue 0 (c :: rest) = digitsValue (c.toNat - 48) rest := by
          simp [digitsValue]
        rw [hstep, utf8_toDigits_digitsValue hdigits.2 hpos,
          Nat.toDigits_of_lt_base (by omega), digitChar_of_isDigit hdigits.1]
        rfl

theorem head_utf8_toDigits {n : Nat} (hn : 0 < n) :
    (utf8 (Nat.toDigits 10 n)).head? ≠ some 48 := by
  rcases Text.JsonGrammar.toDigits_head n with ⟨c, cs, hdigits, hdigit, hzero⟩
  have hascii : c.val.toNat ≤ 127 := by
    simp only [Text.JsonGrammar.isDigit, Char.isDigit, ge_iff_le, Bool.and_eq_true,
      decide_eq_true_eq] at hdigit
    exact Nat.le_trans hdigit.2 (by decide)
  have hbyte : String.utf8EncodeChar c = [UInt8.ofNat c.val.toNat] := by
    unfold String.utf8EncodeChar
    exact if_pos hascii
  rw [hdigits, Value.utf8_cons, hbyte]
  intro h
  simp only [List.cons_append, List.head?_cons, Option.some.injEq] at h
  have hval := congrArg UInt8.toNat h
  rw [UInt8.toNat_ofNat', Nat.mod_eq_of_lt (by omega)] at hval
  exact hzero hn (Char.toNat_inj.mp hval)

theorem isIntegerString_iff {str : Bytes} :
    isIntegerString str = true ↔ unsignedPart str ≠ [] ∧ (unsignedPart str).all isDigit = true := by
  cases str with
  | nil => simp [isIntegerString, unsignedPart]
  | cons c digits =>
      by_cases hc : c = 45
      · rw [hc]
        cases digits <;> simp [isIntegerString, unsignedPart]
      · have hpart : unsignedPart (c :: digits) = c :: digits := by
          rw [unsignedPart]
          rintro r h
          exact hc (List.cons.inj h).1
        rw [hpart]
        simp [isIntegerString, hc]

/-- What stands for a number in a JSON text. -/
def numeral (v : Int) : Bytes := ascii (toString v)

theorem numeral_natCast (n : Nat) : numeral n = utf8 (Nat.toDigits 10 n) :=
  congrArg utf8 Nat.toList_repr

theorem numeral_neg {n : Nat} (hn : 0 < n) :
    numeral (- (n : Int)) = 45 :: utf8 (Nat.toDigits 10 n) := by
  obtain ⟨m, rfl⟩ : exists m, n = m + 1 := ⟨n - 1, by omega⟩
  have htext : toString (- ((m + 1 : Nat) : Int)) = "-" ++ Nat.repr (m + 1) := rfl
  rw [numeral, ascii, htext, String.toList_append, Nat.toList_repr, Value.utf8_append]
  rfl

/-- No zero in front, and no sign at a zero. -/
def Canonical (value : Bytes) : Prop :=
  (unsignedPart value).head? = some 48 -> value = [48]

theorem digitsValue_pos {digits : Bytes} (hdigits : digits.all isDigit = true)
    (hne : digits ≠ []) (hzero : digits.head? ≠ some 48) : 0 < digitsValue 0 digits := by
  apply Nat.pos_of_ne_zero
  intro h
  have hback := utf8_toDigits_of_canonical hdigits hne fun hhead => absurd hhead hzero
  rw [h] at hback
  rw [← hback] at hzero
  exact hzero (by decide)

theorem numeral_integerOf_iff {value : Bytes} (h : isIntegerString value = true) :
    numeral (integerOf value) = value ↔ Canonical value := by
  rcases isIntegerString_iff.mp h with ⟨hne, hdigits⟩
  have hpositive : forall n, numeral (n : Nat) = [48] ∨ (numeral (n : Nat)).head? ≠ some 48 := by
    intro n
    rcases Nat.eq_zero_or_pos n with rfl | hn
    · exact Or.inl (by decide)
    · rw [numeral_natCast]
      exact Or.inr (head_utf8_toDigits hn)
  unfold Canonical integerOf
  by_cases hminus : value.head? = some 45
  · rw [if_pos hminus]
    obtain ⟨digits, rfl⟩ : exists digits, value = 45 :: digits := by
      cases value with
      | nil => cases hminus
      | cons c digits => exact ⟨digits, by rw [Option.some.inj hminus]⟩
    have hpart : unsignedPart (45 :: digits) = digits := rfl
    rw [hpart] at hne hdigits ⊢
    rcases Nat.eq_zero_or_pos (digitsValue 0 digits) with hzero | hpos
    · have hhead : digits.head? = some 48 := by
        by_contra hno
        have hpos := digitsValue_pos hdigits hne hno
        omega
      rw [hzero]
      constructor
      · intro hnumeral
        have hnil : numeral (-((0 : Nat) : Int)) = [48] := by decide
        rw [hnil] at hnumeral
        exact absurd hnumeral (by simp)
      · intro hcanonical
        exact absurd (hcanonical hhead) (by simp)
    · rw [numeral_neg hpos]
      constructor
      · intro hnumeral hhead
        rw [← (List.cons.inj hnumeral).2] at hhead
        exact absurd hhead (head_utf8_toDigits hpos)
      · intro hcanonical
        rw [utf8_toDigits_of_canonical hdigits hne fun hhead => absurd (hcanonical hhead) (by simp)]
  · rw [if_neg hminus]
    have hpart : unsignedPart value = value := by
      unfold unsignedPart
      split
      · exact absurd rfl hminus
      · rfl
    rw [hpart] at hne hdigits ⊢
    constructor
    · intro hnumeral hhead
      rcases hpositive (digitsValue 0 value) with hone | hno
      · rw [← hnumeral, hone]
      · rw [hnumeral] at hno
        exact absurd hhead hno
    · intro hcanonical
      rw [numeral_natCast, utf8_toDigits_of_canonical hdigits hne hcanonical]

/-!
# The round trip
-/

def returned (value : Bytes) : Bytes :=
  if isIntegerString value = true ∧ IsInt64 (integerOf value) then numeral (integerOf value)
  else value

theorem toInt_ofInt {v : Int} (h : IsInt64 v) : (Int64.ofInt v).toInt = v :=
  Int64.toInt_ofInt_of_le h.1 h.2

theorem toSimpleString_jsonOfText (value : Bytes) :
    (jsonOfText value).toSimpleString = returned value := by
  unfold jsonOfText returned fromChars
  by_cases hinteger : isIntegerString value = true
  · by_cases hfits : IsInt64 (integerOf value)
    · rw [if_pos hinteger, if_pos hfits, if_pos ⟨hinteger, hfits⟩]
      have htext := congrArg numeral (toInt_ofInt hfits)
      exact htext
    · rw [if_pos hinteger, if_neg hfits, if_neg fun h => hfits h.2]
      rfl
  · rw [if_neg hinteger, if_neg fun h => hinteger h.1]
    rfl

theorem returned_eq_iff {value : Bytes} :
    returned value = value ↔
      (isIntegerString value = true -> IsInt64 (integerOf value) -> Canonical value) := by
  unfold returned
  split
  · rename_i h
    rw [numeral_integerOf_iff h.1]
    exact ⟨fun hcanonical _ _ => hcanonical, fun hcanonical => hcanonical h.1 h.2⟩
  · rename_i h
    exact ⟨fun _ hinteger hfits => absurd ⟨hinteger, hfits⟩ h, fun _ => rfl⟩

theorem keyValueTableToJson_eq (table : KeyValueTable) :
    keyValueTableToJson table = .obj (table.entries.map fun e => (e.1, jsonOfText e.2)) := by
  have hfold := SortedMap.foldl_set (table.entries.map fun e => (e.1, jsonOfText e.2))
    SortedMap.empty (List.pairwise_map.mpr table.sorted)
  rw [List.foldl_map] at hfold
  unfold keyValueTableToJson
  rw [hfold]
  rfl

theorem keyValueTableFromJson_toJson (table : KeyValueTable) :
    keyValueTableFromJson (keyValueTableToJson table) =
      table.mapValues fun _ value => returned value := by
  rw [keyValueTableToJson_eq]
  have hfold := SortedMap.foldl_set_entries (table.mapValues fun _ value => returned value)
  rw [← hfold, SortedMap.mapValues, List.foldl_map]
  unfold keyValueTableFromJson
  dsimp only
  rw [List.foldl_map]
  simp only [toSimpleString_jsonOfText]

theorem mapValues_returned_iff (table : KeyValueTable) :
    table.mapValues (fun _ value => returned value) = table ↔
      forall e, e ∈ table.entries -> returned e.2 = e.2 := by
  constructor
  · intro h e he
    have hentries : table.entries.map (fun e => (e.1, returned e.2)) = table.entries.map id := by
      rw [List.map_id]
      exact congrArg SortedMap.entries h
    exact congrArg Prod.snd (List.map_inj_left.mp hentries e he)
  · intro h
    apply SortedMap.ext
    have hentries : table.entries.map (fun e => (e.1, returned e.2)) = table.entries.map id :=
      List.map_inj_left.mpr fun e he => congrArg (Prod.mk e.1) (h e he)
    rwa [List.map_id] at hentries

/-- A row comes back with the numbers in it rendered anew, and so unchanged exactly when each
of them is already rendered so. -/
theorem keyValueTable_roundTrip (table : KeyValueTable) :
    keyValueTableFromJson (keyValueTableToJson table) =
        table.mapValues (fun _ value => returned value) ∧
      (keyValueTableFromJson (keyValueTableToJson table) = table ↔
        forall e, e ∈ table.entries -> isIntegerString e.2 = true ->
          IsInt64 (integerOf e.2) -> Canonical e.2) := by
  refine ⟨keyValueTableFromJson_toJson table, ?_⟩
  rw [keyValueTableFromJson_toJson, mapValues_returned_iff]
  exact ⟨fun h e he => returned_eq_iff.mp (h e he), fun h e he => returned_eq_iff.mpr (h e he)⟩

/-- A postal code loses its zero. -/
theorem postalCode_notReturned :
    Not (forall table : KeyValueTable,
      keyValueTableFromJson (keyValueTableToJson table) = table) := by
  intro h
  have hzip := congrArg (fun table => table.find? (ascii "zip"))
    (h (SortedMap.empty.set (ascii "zip") (ascii "01234")))
  exact absurd hzip (by decide)

end Util
end ServerComponents
