import Mathlib.Data.List.Infix
import Mathlib.Data.List.Basic

/-!
# Patterns of `LIKE`

A percent sign stands for any text, an underscore for any sign, and a backslash takes their
meaning away.
-/

namespace ServerComponents
namespace Like

/-- A backslash at the end of a pattern is an error; it matches nothing here. -/
def likeMatch : List Char -> List Char -> Bool
  | [], value => value.isEmpty
  | '%' :: pattern, value => value.tails.any (likeMatch pattern)
  | '_' :: _, [] => false
  | '_' :: pattern, _ :: value => likeMatch pattern value
  | ['\\'], _ => false
  | '\\' :: _ :: _, [] => false
  | '\\' :: c :: pattern, d :: value => c == d && likeMatch pattern value
  | _ :: _, [] => false
  | c :: pattern, d :: value => c == d && likeMatch pattern value

def specialSigns : List Char := ['%', '_', '\\']

/-- No sign of the text has a meaning in a pattern. -/
def Literal (text : List Char) : Prop :=
  forall c, c ∈ text -> c ∉ specialSigns

instance (text : List Char) : Decidable (Literal text) :=
  List.decidableBAll _ _

/-!
## Signs of a pattern
-/

section

attribute [local simp] likeMatch

variable {pattern value : List Char}

theorem likeMatch_percent :
    likeMatch ('%' :: pattern) value = true <->
      exists rest, rest <:+ value ∧ likeMatch pattern rest = true := by
  rw [likeMatch, List.any_eq_true]
  simp only [List.mem_tails]

theorem likeMatch_anything (value : List Char) : likeMatch ['%'] value = true :=
  likeMatch_percent.mpr ⟨[], List.nil_suffix, rfl⟩

theorem likeMatch_cons {c : Char} (h : c ∉ specialSigns) :
    likeMatch (c :: pattern) value = true <->
      exists rest, value = c :: rest ∧ likeMatch pattern rest = true := by
  have hpercent : c ≠ '%' := by
    rintro rfl
    exact h (by decide)
  have hunderscore : c ≠ '_' := by
    rintro rfl
    exact h (by decide)
  have hbackslash : c ≠ '\\' := by
    rintro rfl
    exact h (by decide)
  cases value with
  | nil => simp [hbackslash]
  | cons d value =>
      rw [likeMatch, Bool.and_eq_true, beq_iff_eq]
      · constructor
        · rintro ⟨rfl, hrest⟩
          exact ⟨value, rfl, hrest⟩
        · rintro ⟨rest, heq, hrest⟩
          cases heq
          exact ⟨rfl, hrest⟩
      · exact hpercent
      · exact hunderscore
      · exact fun hc => absurd hc hbackslash
      · exact fun _ _ hc => absurd hc hbackslash

theorem likeMatch_underscore :
    likeMatch ('_' :: pattern) value = true <->
      exists d rest, value = d :: rest ∧ likeMatch pattern rest = true := by
  cases value with
  | nil => simp
  | cons d value => simp

theorem likeMatch_backslash {c : Char} :
    likeMatch ('\\' :: c :: pattern) value = true <->
      exists rest, value = c :: rest ∧ likeMatch pattern rest = true := by
  cases value with
  | nil => simp
  | cons d value =>
      rw [likeMatch, Bool.and_eq_true, beq_iff_eq]
      constructor
      · rintro ⟨rfl, hrest⟩
        exact ⟨value, rfl, hrest⟩
      · rintro ⟨rest, heq, hrest⟩
        cases heq
        exact ⟨rfl, hrest⟩

end

variable {text : List Char}

theorem likeMatch_append (h : Literal text) {pattern value : List Char} :
    likeMatch (text ++ pattern) value = true <->
      exists rest, value = text ++ rest ∧ likeMatch pattern rest = true := by
  induction text generalizing value with
  | nil => simp
  | cons c text ih =>
      rw [List.cons_append, likeMatch_cons (h c List.mem_cons_self)]
      constructor
      · rintro ⟨rest, rfl, hrest⟩
        rcases (ih fun d hd => h d (List.mem_cons_of_mem _ hd)).mp hrest with
          ⟨rest', rfl, hmatch⟩
        exact ⟨rest', rfl, hmatch⟩
      · rintro ⟨rest, rfl, hmatch⟩
        exact ⟨text ++ rest, rfl,
          (ih fun d hd => h d (List.mem_cons_of_mem _ hd)).mpr ⟨rest, rfl, hmatch⟩⟩

theorem likeMatch_infix (h : Literal text) {value : List Char} :
    likeMatch ('%' :: (text ++ ['%'])) value = true <-> text <:+: value := by
  rw [likeMatch_percent]
  constructor
  · rintro ⟨rest, hsuffix, hmatch⟩
    rcases (likeMatch_append h).mp hmatch with ⟨rest', rfl, -⟩
    exact (List.prefix_append text rest').isInfix.trans hsuffix.isInfix
  · rintro ⟨first, last, rfl⟩
    refine ⟨text ++ last, ⟨first, by simp⟩, ?_⟩
    exact (likeMatch_append h).mpr ⟨last, rfl, likeMatch_anything last⟩

/-!
## Letters of either case
-/

/-- How letters are made equal; the special signs are none of them. -/
structure CaseFold (fold : Char -> Char) : Prop where
  percent : forall c, fold c = '%' <-> c = '%'
  underscore : forall c, fold c = '_' <-> c = '_'
  backslash : forall c, fold c = '\\' <-> c = '\\'

theorem eq_of_toLower_eq {c d : Char} (hd : Not ('a' ≤ d ∧ d ≤ 'z')) (h : c.toLower = d) :
    c = d := by
  unfold Char.toLower at h
  split at h
  · rename_i hc
    subst h
    have hlow : 65 ≤ c.val.toNat := hc.1
    have hhigh : c.val.toNat ≤ 90 := hc.2
    have h32 : (32 : UInt32).toNat = 32 := rfl
    have ha : (97 : UInt32).toNat = 97 := rfl
    have hz : (122 : UInt32).toNat = 122 := rfl
    refine absurd ⟨?_, ?_⟩ hd
    · show (97 : UInt32) ≤ c.val + 32
      rw [UInt32.le_iff_toNat_le, UInt32.toNat_add]
      omega
    · show c.val + 32 ≤ (122 : UInt32)
      rw [UInt32.le_iff_toNat_le, UInt32.toNat_add]
      omega
  · exact h

theorem caseFold_toLower : CaseFold Char.toLower where
  percent := fun _ => ⟨eq_of_toLower_eq (by decide), fun h => by rw [h]; rfl⟩
  underscore := fun _ => ⟨eq_of_toLower_eq (by decide), fun h => by rw [h]; rfl⟩
  backslash := fun _ => ⟨eq_of_toLower_eq (by decide), fun h => by rw [h]; rfl⟩

/-- `ILIKE` with the text between two percent signs. -/
def searches (fold : Char -> Char) (text value : List Char) : Bool :=
  likeMatch (('%' :: (text ++ ['%'])).map fold) (value.map fold)

/-- The text as a part of the value, whatever the case of the letters is. -/
def ContainsText (fold : Char -> Char) (text value : List Char) : Prop :=
  text.map fold <:+: value.map fold

instance (fold : Char -> Char) (text value : List Char) :
    Decidable (ContainsText fold text value) :=
  inferInstanceAs (Decidable (_ <:+: _))

section Fold

variable {fold : Char -> Char} (hfold : CaseFold fold)

include hfold

theorem CaseFold.special_iff (c : Char) : fold c ∈ specialSigns <-> c ∈ specialSigns := by
  simp only [specialSigns, List.mem_cons, List.not_mem_nil, or_false]
  rw [hfold.percent, hfold.underscore, hfold.backslash]

theorem CaseFold.literal_map (h : Literal text) : Literal (text.map fold) := by
  intro c hc
  rcases List.mem_map.mp hc with ⟨d, hd, rfl⟩
  rw [hfold.special_iff]
  exact h d hd

theorem CaseFold.map_pattern (text : List Char) :
    ('%' :: (text ++ ['%'])).map fold = '%' :: (text.map fold ++ ['%']) := by
  have hpercent := (hfold.percent '%').mpr rfl
  simp [hpercent]

theorem searches_iff {text value : List Char} (h : Literal text) :
    searches fold text value = true <-> ContainsText fold text value := by
  unfold searches ContainsText
  rw [hfold.map_pattern]
  exact likeMatch_infix (hfold.literal_map h)

theorem searches_of_likeMatch {text value : List Char}
    (h : likeMatch (text.map fold ++ ['%']) (value.map fold) = true) :
    searches fold text value = true := by
  unfold searches
  rw [hfold.map_pattern]
  exact likeMatch_percent.mpr ⟨_, List.suffix_rfl, h⟩

end Fold

/-!
## Special signs

A text with special signs matches something that it is no part of, or is itself not matched.
-/

/-- The text ends in a backslash that takes the meaning of what follows. -/
def dangling : List Char -> Bool
  | [] => false
  | ['\\'] => true
  | '\\' :: _ :: pattern => dangling pattern
  | _ :: pattern => dangling pattern

/-- What is left if percent signs stand for nothing, and underscores for themselves. -/
def least : List Char -> List Char
  | [] => []
  | '%' :: pattern => least pattern
  | ['\\'] => []
  | '\\' :: c :: pattern => c :: least pattern
  | c :: pattern => c :: least pattern

theorem length_least_le (text : List Char) : (least text).length ≤ text.length := by
  fun_induction least text with
  | case1 => exact Nat.le_refl _
  | case2 pattern ih => exact Nat.le_succ_of_le ih
  | case3 => exact Nat.zero_le _
  | case4 c pattern ih => exact Nat.succ_le_succ (Nat.le_succ_of_le ih)
  | case5 c pattern hpercent hend hescape ih => exact Nat.succ_le_succ ih

theorem ne_backslash {c : Char} {pattern : List Char}
    (hend : c = '\\' -> pattern = [] -> False)
    (hescape : forall d rest, c = '\\' -> pattern = d :: rest -> False) : c ≠ '\\' := by
  intro hc
  cases pattern with
  | nil => exact hend hc rfl
  | cons d pattern => exact hescape d pattern hc rfl

theorem length_least_lt (h : '%' ∈ text ∨ '\\' ∈ text) :
    (least text).length < text.length := by
  fun_induction least text with
  | case1 => simp at h
  | case2 pattern ih => exact Nat.lt_succ_of_le (length_least_le pattern)
  | case3 => exact Nat.zero_lt_one
  | case4 c pattern ih =>
      exact Nat.succ_lt_succ (Nat.lt_succ_of_le (length_least_le pattern))
  | case5 c pattern hpercent hend hescape ih =>
      have hc := ne_backslash hend hescape
      refine Nat.succ_lt_succ (ih ?_)
      rcases h with h | h
      · rcases List.mem_cons.mp h with heq | h
        · exact absurd heq.symm hpercent
        · exact Or.inl h
      · rcases List.mem_cons.mp h with heq | h
        · exact absurd heq.symm hc
        · exact Or.inr h

section Special

variable {fold : Char -> Char} (hfold : CaseFold fold)

include hfold

theorem likeMatch_self {c : Char} (hpercent : c ≠ '%') (hbackslash : c ≠ '\\')
    {pattern value : List Char} (h : likeMatch pattern value = true) :
    likeMatch (fold c :: pattern) (fold c :: value) = true := by
  by_cases hunderscore : fold c = '_'
  · rw [hunderscore]
    exact likeMatch_underscore.mpr ⟨'_', value, rfl, h⟩
  · have hc : fold c ∉ specialSigns := by
      simp only [specialSigns, List.mem_cons, List.not_mem_nil, or_false]
      rw [hfold.percent, hfold.backslash]
      simp [hpercent, hunderscore, hbackslash]
    exact (likeMatch_cons hc).mpr ⟨value, rfl, h⟩

theorem likeMatch_least (h : dangling text = false) :
    likeMatch (text.map fold ++ ['%']) ((least text).map fold) = true := by
  have hpercent' := (hfold.percent '%').mpr rfl
  have hbackslash' := (hfold.backslash '\\').mpr rfl
  fun_induction least text with
  | case1 => exact likeMatch_anything _
  | case2 pattern ih =>
      rw [List.map_cons, hpercent', List.cons_append]
      exact likeMatch_percent.mpr ⟨_, List.suffix_rfl, ih (by simpa [dangling] using h)⟩
  | case3 => simp [dangling] at h
  | case4 c pattern ih =>
      rw [List.map_cons, List.map_cons, hbackslash', List.map_cons, List.cons_append,
        List.cons_append]
      exact likeMatch_backslash.mpr ⟨_, rfl, ih (by simpa [dangling] using h)⟩
  | case5 c pattern hpercent hend hescape ih =>
      have hc := ne_backslash hend hescape
      rw [List.map_cons, List.map_cons, List.cons_append]
      refine likeMatch_self hfold hpercent hc (ih ?_)
      rw [dangling] at h
      · exact h
      · exact hend
      · exact hescape

theorem getLast?_of_dangling {text value : List Char} (h : dangling text = true)
    (hmatch : likeMatch (text.map fold ++ ['%']) value = true) : value.getLast? = some '%' := by
  have hbackslash' := (hfold.backslash '\\').mpr rfl
  have hlast : forall (c : Char) (rest : List Char), rest.getLast? = some '%' ->
      (c :: rest).getLast? = some '%' := by
    intro c rest hrest
    rw [List.getLast?_cons, hrest]
    rfl
  fun_induction dangling text generalizing value with
  | case1 => cases h
  | case2 =>
      rw [List.map_singleton, hbackslash'] at hmatch
      rcases likeMatch_backslash.mp hmatch with ⟨rest, rfl, hrest⟩
      rw [likeMatch, List.isEmpty_iff] at hrest
      rw [hrest]
      rfl
  | case3 c pattern ih =>
      rw [List.map_cons, hbackslash'] at hmatch
      rcases likeMatch_backslash.mp hmatch with ⟨rest, rfl, hrest⟩
      exact hlast _ _ (ih h hrest)
  | case4 c pattern hend hescape ih =>
      have hc := ne_backslash hend hescape
      rw [List.map_cons, List.cons_append] at hmatch
      by_cases hpercent : fold c = '%'
      · rw [hpercent] at hmatch
        rcases likeMatch_percent.mp hmatch with ⟨rest, ⟨first, rfl⟩, hrest⟩
        rw [List.getLast?_append, ih h hrest]
        rfl
      · by_cases hunderscore : fold c = '_'
        · rw [hunderscore] at hmatch
          rcases likeMatch_underscore.mp hmatch with ⟨d, rest, rfl, hrest⟩
          exact hlast _ _ (ih h hrest)
        · have hspecial : fold c ∉ specialSigns := by
            simp only [specialSigns, List.mem_cons, List.not_mem_nil, or_false]
            rw [hfold.backslash]
            simp [hpercent, hunderscore, hc]
          rcases (likeMatch_cons hspecial).mp hmatch with ⟨rest, rfl, hrest⟩
          exact hlast _ _ (ih h hrest)

omit hfold in
theorem getLast?_dangling (h : dangling text = true) :
    text.getLast? = some '\\' := by
  fun_induction dangling text with
  | case1 => cases h
  | case2 => rfl
  | case3 c pattern ih =>
      rw [List.getLast?_cons, List.getLast?_cons, ih h]
      rfl
  | case4 c pattern hend hescape ih =>
      rw [List.getLast?_cons, ih h]
      rfl

theorem likeMatch_replaced (hpercent : '%' ∉ text) (hbackslash : '\\' ∉ text) :
    likeMatch (text.map fold ++ ['%'])
      ((text.map (fun c => if c = '_' then 'a' else c)).map fold) = true := by
  induction text with
  | nil => exact likeMatch_anything _
  | cons c text ih =>
      have hrest := ih (fun h => hpercent (List.mem_cons_of_mem _ h))
        (fun h => hbackslash (List.mem_cons_of_mem _ h))
      have hc : c ≠ '%' := fun heq => hpercent (heq ▸ List.mem_cons_self)
      have hc' : c ≠ '\\' := fun heq => hbackslash (heq ▸ List.mem_cons_self)
      rw [List.map_cons, List.map_cons, List.map_cons, List.cons_append]
      by_cases hunderscore : c = '_'
      · rw [hunderscore, (hfold.underscore '_').mpr rfl]
        exact likeMatch_underscore.mpr ⟨_, _, rfl, hrest⟩
      · rw [if_neg hunderscore]
        exact likeMatch_self hfold hc hc' hrest

theorem exists_searches_ne (h : Not (Literal text)) :
    exists value, Not (searches fold text value = true <-> ContainsText fold text value) := by
  cases hdangling : dangling text with
  | true =>
      exists text
      intro hiff
      have hmatch := hiff.mpr (List.infix_refl _)
      unfold searches at hmatch
      rw [hfold.map_pattern] at hmatch
      rcases likeMatch_percent.mp hmatch with ⟨rest, ⟨first, hfirst⟩, hrest⟩
      have hlast := getLast?_of_dangling hfold hdangling hrest
      have hend : (text.map fold).getLast? = some '%' := by
        rw [<- hfirst, List.getLast?_append, hlast]
        rfl
      rw [List.getLast?_map, getLast?_dangling hdangling, Option.map_some,
        (hfold.backslash '\\').mpr rfl] at hend
      cases hend
  | false =>
      by_cases hshort : '%' ∈ text ∨ '\\' ∈ text
      · exists least text
        intro hiff
        have hinfix := hiff.mp (searches_of_likeMatch hfold (likeMatch_least hfold hdangling))
        have hlength := hinfix.length_le
        rw [List.length_map, List.length_map] at hlength
        exact Nat.not_lt.mpr hlength (length_least_lt hshort)
      · rcases not_or.mp hshort with ⟨hpercent, hbackslash⟩
        exists text.map (fun c => if c = '_' then 'a' else c)
        intro hiff
        have hinfix := hiff.mp
          (searches_of_likeMatch hfold (likeMatch_replaced hfold hpercent hbackslash))
        have heq := hinfix.eq_of_length (by simp)
        refine h fun c hc hspecial => ?_
        rw [List.map_map] at heq
        have hsame := List.map_inj_left.mp heq c hc
        have hunderscore : c = '_' := by
          simp only [specialSigns, List.mem_cons, List.not_mem_nil, or_false] at hspecial
          rcases hspecial with rfl | rfl | rfl
          · exact absurd hc hpercent
          · rfl
          · exact absurd hc hbackslash
        rw [hunderscore, (hfold.underscore '_').mpr rfl] at hsame
        have ha := (hfold.underscore 'a').mp hsame.symm
        exact absurd ha (by decide)

end Special

end Like
end ServerComponents
