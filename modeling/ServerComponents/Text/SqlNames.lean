import Mathlib.Algebra.GroupWithZero.Nat
import Mathlib.Data.List.TakeWhile

/-!
# Names in the text of a statement

How Postgres reads a name: a word, which is folded to lower case and may be a keyword, or
a quoted text, which is taken as it stands.  A name that is too long is cut.
-/

namespace ServerComponents
namespace Text

def isNameStart (c : Char) : Bool := c.isAlpha || c == '_' || decide (128 ≤ c.toNat)

def isNamePart (c : Char) : Bool := isNameStart c || c.isDigit || c == '$'

def foldName (name : List Char) : List Char := name.map Char.toLower

/-- `NAMEDATALEN - 1`. -/
def kMaxNameBytes : Nat := 63

def nameBytes (name : List Char) : Nat := (name.map Char.utf8Size).sum

def cutName : Nat -> List Char -> List Char
  | _, [] => []
  | budget, c :: rest =>
      if c.utf8Size ≤ budget then c :: cutName (budget - c.utf8Size) rest else []

inductive NameToken where
  | word (text : List Char)
  | quoted (text : List Char)
  deriving Repr, DecidableEq

/-- The text up to the closing quote; two quotes stand for one. -/
def readQuoted : List Char -> Option (List Char × List Char)
  | [] => none
  | '"' :: '"' :: rest => (readQuoted rest).map (fun read => ('"' :: read.1, read.2))
  | '"' :: rest => some ([], rest)
  | c :: rest => (readQuoted rest).map (fun read => (c :: read.1, read.2))

/-- The name at the front of a text, and what comes after it. -/
def lexName : List Char -> Option (NameToken × List Char)
  | [] => none
  | '"' :: rest => (readQuoted rest).map (fun read => (.quoted read.1, read.2))
  | c :: rest =>
      if isNameStart c then
        some (.word ((c :: rest).takeWhile isNamePart), (c :: rest).dropWhile isNamePart)
      else none

/-- The name that a text is, if it is one name and not a keyword. -/
def namedBy (reserved : String -> Bool) (text : List Char) : Option (List Char) :=
  match lexName text with
  | some (.quoted name, []) => if name = [] then none else some (cutName kMaxNameBytes name)
  | some (.word word, []) =>
      if reserved (String.ofList (foldName word)) then none
      else some (cutName kMaxNameBytes (foldName word))
  | _ => none

def escapeQuote (c : Char) : List Char := if c = '"' then ['"', '"'] else [c]

def quoteName (name : List Char) : List Char :=
  '"' :: (name.flatMap escapeQuote ++ ['"'])

/-!
# Cutting
-/

theorem nameBytes_cons (c : Char) (rest : List Char) :
    nameBytes (c :: rest) = c.utf8Size + nameBytes rest := by
  simp [nameBytes]

theorem cutName_length (budget : Nat) (name : List Char) :
    (cutName budget name).length ≤ name.length := by
  induction name generalizing budget with
  | nil => simp [cutName]
  | cons c rest ih =>
      unfold cutName
      split
      · have hrest := ih (budget - c.utf8Size)
        simp only [List.length_cons]
        omega
      · simp

theorem cutName_eq_iff (budget : Nat) (name : List Char) :
    cutName budget name = name <-> nameBytes name ≤ budget := by
  induction name generalizing budget with
  | nil => simp [cutName, nameBytes]
  | cons c rest ih =>
      rw [nameBytes_cons]
      unfold cutName
      by_cases hfits : c.utf8Size ≤ budget
      · rw [if_pos hfits, List.cons.injEq, ih]
        constructor
        · intro h
          omega
        · intro h
          exact ⟨rfl, by omega⟩
      · rw [if_neg hfits]
        constructor
        · intro h
          cases h
        · intro h
          omega

theorem toLower_toLower (c : Char) : c.toLower.toLower = c.toLower := by
  by_cases hupper : c.val ≥ 'A'.val ∧ c.val ≤ 'Z'.val
  · have hval : c.toLower.val = c.val + ('a'.val - 'A'.val) := by
      unfold Char.toLower
      rw [dif_pos hupper]
    have hlower : Not (c.toLower.val ≥ 'A'.val ∧ c.toLower.val ≤ 'Z'.val) := by
      have hA : 'A'.val.toNat = 65 := rfl
      have hZ : 'Z'.val.toNat = 90 := rfl
      have hgap : ('a'.val - 'A'.val).toNat = 32 := rfl
      rw [hval]
      simp only [ge_iff_le, UInt32.le_iff_toNat_le, UInt32.toNat_add] at hupper ⊢
      omega
    generalize c.toLower = d at hlower
    unfold Char.toLower
    rw [dif_neg hlower]
  · have hsame : c.toLower = c := by
      unfold Char.toLower
      rw [dif_neg hupper]
    rw [hsame, hsame]

theorem foldName_foldName (name : List Char) : foldName (foldName name) = foldName name := by
  unfold foldName
  rw [List.map_map]
  exact List.map_congr_left (fun c _ => toLower_toLower c)

theorem foldName_length (name : List Char) : (foldName name).length = name.length :=
  List.length_map _

theorem cutName_whole {budget : Nat} {name : List Char}
    (h : (cutName budget name).length = name.length) : cutName budget name = name := by
  induction name generalizing budget with
  | nil => rfl
  | cons c rest ih =>
      unfold cutName at h ⊢
      split at h
      · rename_i hfits
        rw [if_pos hfits, ih (by simpa using h)]
      · cases h

theorem cutName_foldName_iff (budget : Nat) (name : List Char) :
    cutName budget (foldName name) = name <->
      foldName name = name ∧ nameBytes name ≤ budget := by
  constructor
  · intro h
    have hwhole : cutName budget (foldName name) = foldName name := by
      apply cutName_whole
      rw [h, foldName_length]
    have hfold : foldName name = name := hwhole.symm.trans h
    rw [hfold] at hwhole
    exact ⟨hfold, (cutName_eq_iff budget name).mp hwhole⟩
  · rintro ⟨hfold, hfits⟩
    rw [hfold]
    exact (cutName_eq_iff budget name).mpr hfits

/-!
# Quoted names
-/

theorem readQuoted_escapeQuote (name : List Char) :
    readQuoted (name.flatMap escapeQuote ++ ['"']) = some (name, []) := by
  induction name with
  | nil => rfl
  | cons c rest ih =>
      rw [List.flatMap_cons, List.append_assoc]
      by_cases hquote : c = '"'
      · have hescape : escapeQuote c = ['"', '"'] := if_pos hquote
        rw [hescape]
        change readQuoted ('"' :: '"' :: (rest.flatMap escapeQuote ++ ['"'])) = _
        rw [readQuoted, ih, hquote]
        rfl
      · have hescape : escapeQuote c = [c] := if_neg hquote
        rw [hescape]
        change readQuoted (c :: (rest.flatMap escapeQuote ++ ['"'])) = _
        rw [readQuoted.eq_4 c _ (fun rest h => absurd h hquote) hquote, ih]
        rfl

theorem readQuoted_length {text : List Char} {read : List Char × List Char}
    (h : readQuoted text = some read) : read.1.length + read.2.length < text.length := by
  induction text using readQuoted.induct generalizing read with
  | case1 => cases h
  | case2 rest ih =>
      rw [readQuoted] at h
      rcases Option.map_eq_some_iff.mp h with ⟨read', hread, heq⟩
      have hlt := ih hread
      rw [← heq]
      simp only [List.length_cons]
      omega
  | case3 rest hnext =>
      rw [readQuoted.eq_3 rest hnext] at h
      cases h
      simp
  | case4 c rest hfirst hsecond ih =>
      rw [readQuoted.eq_4 c rest hfirst hsecond] at h
      rcases Option.map_eq_some_iff.mp h with ⟨read', hread, heq⟩
      have hlt := ih hread
      rw [← heq]
      simp only [List.length_cons]
      omega

theorem namedBy_quoteName (reserved : String -> Bool) (name : List Char) :
    namedBy reserved (quoteName name) =
      if name = [] then none else some (cutName kMaxNameBytes name) := by
  have hlex : lexName (quoteName name) = some (.quoted name, []) := by
    unfold quoteName
    rw [lexName, readQuoted_escapeQuote]
    rfl
  unfold namedBy
  rw [hlex]

/-!
# Words
-/

def IsWord : List Char -> Prop
  | [] => False
  | c :: rest => isNameStart c = true ∧ forall c', c' ∈ rest -> isNamePart c' = true

theorem isNamePart_of_start {c : Char} (h : isNameStart c = true) : isNamePart c = true := by
  unfold isNamePart
  rw [h]
  rfl

theorem not_isNameStart_quote : isNameStart '"' = false := by decide

theorem lexName_word {text : List Char} (h : IsWord text) :
    lexName text = some (.word text, []) := by
  cases text with
  | nil => exact h.elim
  | cons c rest =>
      have hquote : c ≠ '"' := by
        intro hquote
        have hstart := h.1
        rw [hquote, not_isNameStart_quote] at hstart
        cases hstart
      have hall : forall c', c' ∈ c :: rest -> isNamePart c' = true := by
        intro c' hmem
        rcases List.mem_cons.mp hmem with heq | hrest
        · rw [heq]
          exact isNamePart_of_start h.1
        · exact h.2 c' hrest
      rw [lexName.eq_3 c rest hquote, if_pos h.1, List.takeWhile_eq_self_iff.mpr hall,
        List.dropWhile_eq_nil_iff.mpr hall]

theorem namedBy_word (reserved : String -> Bool) {text : List Char} (h : IsWord text) :
    namedBy reserved text =
      if reserved (String.ofList (foldName text)) then none
      else some (cutName kMaxNameBytes (foldName text)) := by
  unfold namedBy
  rw [lexName_word h]

theorem namedBy_self_iff (reserved : String -> Bool) (name : List Char) :
    namedBy reserved name = some name <->
      IsWord name ∧ foldName name = name ∧ nameBytes name ≤ kMaxNameBytes ∧
        reserved (String.ofList name) = false := by
  constructor
  · intro h
    have hword : IsWord name := by
      cases name with
      | nil => cases h
      | cons c rest =>
          by_cases hquote : c = '"'
          · exfalso
            rw [hquote] at h
            unfold namedBy at h
            rw [lexName] at h
            cases hread : readQuoted rest with
            | none =>
                rw [hread] at h
                cases h
            | some read =>
                rcases read with ⟨text, after⟩
                have hlt := readQuoted_length hread
                rw [hread] at h
                cases after with
                | cons _ _ => cases h
                | nil =>
                    change (if text = [] then none else some (cutName kMaxNameBytes text)) =
                      some ('"' :: rest) at h
                    split at h
                    · cases h
                    · have hlength := cutName_length kMaxNameBytes text
                      rw [Option.some.inj h] at hlength
                      simp only [List.length_cons, List.length_nil] at hlength hlt
                      omega
          · unfold namedBy at h
            rw [lexName.eq_3 c rest hquote] at h
            by_cases hstart : isNameStart c = true
            · rw [if_pos hstart] at h
              refine ⟨hstart, ?_⟩
              cases hafter : (c :: rest).dropWhile isNamePart with
              | cons _ _ =>
                  rw [hafter] at h
                  cases h
              | nil =>
                  intro c' hc'
                  exact List.dropWhile_eq_nil_iff.mp hafter c' (List.mem_cons_of_mem c hc')
            · rw [if_neg hstart] at h
              cases h
    rw [namedBy_word reserved hword] at h
    split at h
    · cases h
    · rename_i hreserved
      rcases (cutName_foldName_iff kMaxNameBytes name).mp (Option.some.inj h) with
        ⟨hfold, hfits⟩
      rw [hfold] at hreserved
      exact ⟨hword, hfold, hfits, by simpa using hreserved⟩
  · rintro ⟨hword, hfold, hfits, hreserved⟩
    rw [namedBy_word reserved hword, hfold, hreserved]
    exact congrArg some ((cutName_eq_iff kMaxNameBytes name).mpr hfits)

end Text
end ServerComponents
