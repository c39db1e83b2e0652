import Mathlib.Data.List.Infix

/-!
# Replacing all occurrences

The occurrences of a pattern are replaced from left to right, and the search
goes on behind each replacement.  How often the pattern was found shows in the
length of the result.
-/

namespace ServerComponents
namespace Text

/-- Replace the pattern in the text, after the first `skip` characters are
dropped. -/
def replaceFrom (pattern value : List Char) : Nat -> List Char -> List Char
  | _, [] => []
  | skip + 1, _ :: rest => replaceFrom pattern value skip rest
  | 0, c :: rest =>
      if pattern.isPrefixOf (c :: rest) then
        value ++ replaceFrom pattern value (pattern.length - 1) rest
      else c :: replaceFrom pattern value 0 rest

def replaceAll (pattern value text : List Char) : List Char :=
  replaceFrom pattern value 0 text

def countFrom (pattern : List Char) : Nat -> List Char -> Nat
  | _, [] => 0
  | skip + 1, _ :: rest => countFrom pattern skip rest
  | 0, c :: rest =>
      if pattern.isPrefixOf (c :: rest) then
        countFrom pattern (pattern.length - 1) rest + 1
      else countFrom pattern 0 rest

section Rules

variable {pattern value text : List Char}

theorem infix_of_cons {c : Char} {rest : List Char}
    (hoccurs : pattern <:+: c :: rest) (hstarts : Not (pattern.isPrefixOf (c :: rest) = true)) :
    pattern <:+: rest := by
  rcases List.infix_cons_iff.mp hoccurs with h | h
  · exact absurd (List.isPrefixOf_iff_prefix.mpr h) hstarts
  · exact h

theorem replaceAll_of_absent (h : Not (pattern <:+: text)) :
    replaceAll pattern value text = text := by
  unfold replaceAll
  induction text with
  | nil => rfl
  | cons c rest ih =>
      have hstarts : Not (pattern.isPrefixOf (c :: rest) = true) :=
        fun hp => h (List.isPrefixOf_iff_prefix.mp hp).isInfix
      have hrest : Not (pattern <:+: rest) :=
        fun hr => h (hr.trans (List.suffix_cons c rest).isInfix)
      simp only [replaceFrom, hstarts, if_false, ih hrest, Bool.false_eq_true]

theorem replaceFrom_self (hpattern : pattern ≠ []) (skip : Nat) :
    replaceFrom pattern pattern skip text = text.drop skip := by
  induction text generalizing skip with
  | nil => simp [replaceFrom]
  | cons c rest ih =>
      cases skip with
      | succ skip => simpa [replaceFrom] using ih skip
      | zero =>
          unfold replaceFrom
          split
          · rename_i hstarts
            rw [ih, List.drop_zero]
            rcases List.isPrefixOf_iff_prefix.mp hstarts with ⟨tail, htail⟩
            have hdrop : rest.drop (pattern.length - 1) = tail := by
              cases pattern with
              | nil => exact absurd rfl hpattern
              | cons p ps =>
                  simp only [List.cons_append, List.cons.injEq] at htail
                  rw [← htail.2]
                  simp
            rw [hdrop, htail]
          · rw [ih]
            simp

theorem replaceAll_self (hpattern : pattern ≠ []) :
    replaceAll pattern pattern text = text := by
  have h : replaceFrom pattern pattern 0 text = text.drop 0 := replaceFrom_self hpattern 0
  simpa [replaceAll] using h

theorem replaceFrom_length (text : List Char) :
    replaceFrom pattern value text.length text = [] := by
  induction text with
  | nil => rfl
  | cons c rest ih => exact ih

theorem replaceAll_pattern (hpattern : pattern ≠ []) :
    replaceAll pattern value pattern = value := by
  cases pattern with
  | nil => exact absurd rfl hpattern
  | cons c rest =>
      have hstarts : (c :: rest).isPrefixOf (c :: rest) = true :=
        List.isPrefixOf_iff_prefix.mpr (List.prefix_refl _)
      rw [replaceAll, replaceFrom, if_pos hstarts, List.length_cons, Nat.add_sub_cancel,
        replaceFrom_length, List.append_nil]

theorem length_replaceFrom (skip : Nat) :
    (replaceFrom pattern value skip text).length =
      (replaceFrom pattern [] skip text).length +
        countFrom pattern skip text * value.length := by
  induction text generalizing skip with
  | nil => simp [replaceFrom, countFrom]
  | cons c rest ih =>
      cases skip with
      | succ skip => simpa [replaceFrom, countFrom] using ih skip
      | zero =>
          unfold replaceFrom countFrom
          split
          · simp only [List.length_append, ih, List.nil_append, Nat.add_mul]
            omega
          · simp only [List.length_cons, ih]
            omega

theorem countFrom_pos (h : pattern <:+: text) (hpattern : pattern ≠ []) :
    0 < countFrom pattern 0 text := by
  induction text with
  | nil => exact absurd (List.infix_nil.mp h) hpattern
  | cons c rest ih =>
      unfold countFrom
      split
      · exact Nat.succ_pos _
      · rename_i hstarts
        exact ih (infix_of_cons h hstarts)

theorem replaceAll_ne {value' : List Char} (h : pattern <:+: text)
    (hpattern : pattern ≠ []) (hlength : value.length ≠ value'.length) :
    replaceAll pattern value text ≠ replaceAll pattern value' text := by
  intro heq
  have hlengths := congrArg List.length heq
  unfold replaceAll at hlengths
  rw [length_replaceFrom, @length_replaceFrom pattern value'] at hlengths
  have hpos := countFrom_pos h hpattern
  exact hlength (Nat.eq_of_mul_eq_mul_left hpos (by omega))

theorem infix_replaceAll (h : pattern <:+: text) (hpattern : pattern ≠ []) :
    value <:+: replaceAll pattern value text := by
  unfold replaceAll
  induction text with
  | nil => exact absurd (List.infix_nil.mp h) hpattern
  | cons c rest ih =>
      unfold replaceFrom
      split
      · exact (List.prefix_append value _).isInfix
      · rename_i hstarts
        exact (ih (infix_of_cons h hstarts)).trans (List.suffix_cons c _).isInfix

theorem prefix_split {c : Char} {before after : List Char} (hc : c ∉ pattern) :
    pattern <+: before ++ c :: after <-> pattern <+: before := by
  constructor
  · intro h
    have hlong : before ++ [c] <+: before ++ c :: after := by simp
    rcases List.prefix_or_prefix_of_prefix h hlong with hle | hge
    · rcases List.prefix_concat_iff.mp hle with heq | hle
      · rw [heq] at hc
        exact absurd (by simp) hc
      · exact hle
    · exact absurd (hge.subset (by simp)) hc
  · intro h
    exact h.trans (List.prefix_append before (c :: after))

theorem replaceFrom_split {c : Char} {before after : List Char} (hc : c ∉ pattern)
    (hpattern : pattern ≠ []) {skip : Nat} (hskip : skip ≤ before.length) :
    replaceFrom pattern value skip (before ++ c :: after) =
      replaceFrom pattern value skip before ++ c :: replaceAll pattern value after := by
  induction before generalizing skip with
  | nil =>
      have hzero : skip = 0 := Nat.le_zero.mp hskip
      have hstarts : Not (pattern.isPrefixOf (c :: after) = true) := by
        intro h
        have hnil := (@prefix_split pattern c [] after hc).mp (List.isPrefixOf_iff_prefix.mp h)
        exact hpattern (List.prefix_nil.mp hnil)
      subst hzero
      simp only [List.nil_append, replaceFrom, hstarts, if_false, Bool.false_eq_true,
        replaceAll]
  | cons x before ih =>
      cases skip with
      | succ skip => exact ih (Nat.le_of_succ_le_succ hskip)
      | zero =>
          have hsame : pattern.isPrefixOf (x :: before ++ c :: after) =
              pattern.isPrefixOf (x :: before) := by
            rw [Bool.eq_iff_iff, List.isPrefixOf_iff_prefix, List.isPrefixOf_iff_prefix]
            exact prefix_split hc
          simp only [List.cons_append] at hsame ⊢
          unfold replaceFrom
          rw [hsame]
          split
          · rename_i hstarts
            have hlength := (List.isPrefixOf_iff_prefix.mp hstarts).length_le
            rw [List.length_cons] at hlength
            rw [ih (by omega), List.append_assoc]
          · rw [ih (Nat.zero_le _), List.cons_append]

theorem replaceAll_split {c : Char} {before after : List Char} (hc : c ∉ pattern)
    (hpattern : pattern ≠ []) :
    replaceAll pattern value (before ++ c :: after) =
      replaceAll pattern value before ++ c :: replaceAll pattern value after :=
  replaceFrom_split hc hpattern (Nat.zero_le _)

end Rules

end Text
end ServerComponents
