import Mathlib.Data.List.Find
import ServerComponents.Text.Replace

/-!
# Replacing several patterns at once

At each place the first pair whose pattern stands there is replaced, and the search goes on
behind the pattern, never in what was put in.  Replacing one pattern after the other comes to
the same as long as no value makes a new occurrence of a later pattern.
-/

namespace ServerComponents
namespace Text

/-- Replace the patterns in the text, after the first `skip` characters are dropped. -/
def substituteFrom (pairs : List (List Char × List Char)) : Nat -> List Char -> List Char
  | _, [] => []
  | skip + 1, _ :: rest => substituteFrom pairs skip rest
  | 0, c :: rest =>
      match pairs.find? (fun e => e.1.isPrefixOf (c :: rest)) with
      | some e => e.2 ++ substituteFrom pairs (e.1.length - 1) rest
      | none => c :: substituteFrom pairs 0 rest

def substitute (pairs : List (List Char × List Char)) (text : List Char) : List Char :=
  substituteFrom pairs 0 text

/-- How often one pattern is found, from left to right. -/
def occurrences (pattern text : List Char) : Nat := countFrom pattern 0 text

section Rules

variable {pairs pairs' : List (List Char × List Char)} {pattern value text : List Char}

theorem substituteFrom_drop (skip : Nat) (text : List Char) :
    substituteFrom pairs skip text = substitute pairs (text.drop skip) := by
  unfold substitute
  induction text generalizing skip with
  | nil => simp [substituteFrom]
  | cons c rest ih =>
      cases skip with
      | zero => rfl
      | succ skip => exact ih skip

theorem substitute_found {e : List Char × List Char} {c : Char} {rest : List Char}
    (h : pairs.find? (fun e => e.1.isPrefixOf (c :: rest)) = some e) :
    substitute pairs (c :: rest) = e.2 ++ substitute pairs (rest.drop (e.1.length - 1)) := by
  rw [← substituteFrom_drop]
  unfold substitute
  rw [substituteFrom, h]

theorem substitute_none {c : Char} {rest : List Char}
    (h : pairs.find? (fun e => e.1.isPrefixOf (c :: rest)) = none) :
    substitute pairs (c :: rest) = c :: substitute pairs rest := by
  unfold substitute
  rw [substituteFrom, h]

theorem substituteFrom_congr (skip : Nat) (h : forall suffix, suffix <:+ text ->
      pairs.find? (fun e => e.1.isPrefixOf suffix) =
        pairs'.find? (fun e => e.1.isPrefixOf suffix)) :
    substituteFrom pairs skip text = substituteFrom pairs' skip text := by
  induction text generalizing skip with
  | nil => rfl
  | cons c rest ih =>
      have hrest := fun skip => ih skip
        (fun suffix hsuffix => h suffix (hsuffix.trans (List.suffix_cons c rest)))
      cases skip with
      | succ skip => exact hrest skip
      | zero =>
          unfold substituteFrom
          rw [h (c :: rest) (List.suffix_refl _)]
          cases pairs'.find? (fun e => e.1.isPrefixOf (c :: rest)) with
          | none => simp only [hrest]
          | some e => simp only [hrest]

theorem substitute_filter {keep : List Char × List Char -> Bool}
    (h : forall e, e ∈ pairs -> keep e = false -> Not (e.1 <:+: text)) :
    substitute (pairs.filter keep) text = substitute pairs text := by
  apply substituteFrom_congr
  intro suffix hsuffix
  rw [List.find?_filter]
  apply List.find?_congr
  intro e he
  cases hkeep : keep e with
  | true => simp only [true_and, Bool.decide_eq_true]
  | false =>
      cases hstarts : e.1.isPrefixOf suffix with
      | false => simp
      | true =>
          have hstart := List.isPrefixOf_iff_prefix.mp hstarts
          exact absurd (hstart.isInfix.trans hsuffix.isInfix) (h e he hkeep)

@[simp] theorem substitute_nil (text : List Char) : substitute [] text = text := by
  induction text with
  | nil => rfl
  | cons c rest ih => rw [substitute_none (List.find?_nil), ih]

theorem substitute_single (pattern value text : List Char) :
    substitute [(pattern, value)] text = replaceAll pattern value text := by
  have hfrom : forall skip, substituteFrom [(pattern, value)] skip text =
      replaceFrom pattern value skip text := by
    induction text with
    | nil => intro skip; rfl
    | cons c rest ih =>
        intro skip
        cases skip with
        | succ skip => exact ih skip
        | zero =>
            unfold substituteFrom replaceFrom
            cases hstarts : pattern.isPrefixOf (c :: rest) with
            | true => simp [hstarts, ih]
            | false => simp [hstarts, ih]
  exact hfrom 0

end Rules

/-!
# Marked patterns

A pattern that has its first character nowhere else overlaps with no other one.
-/

def Marked (marker : Char) (pattern : List Char) : Prop :=
  exists tail, pattern = marker :: tail ∧ marker ∉ tail

section Marked

variable {marker : Char} {pairs : List (List Char × List Char)}
  {pattern value text before after : List Char}

theorem Marked.prefix_cons (h : Marked marker pattern) {x : Char} :
    pattern <+: x :: (before ++ marker :: after) <-> pattern <+: x :: before := by
  rcases h with ⟨tail, rfl, htail⟩
  rw [List.cons_prefix_cons, List.cons_prefix_cons, prefix_split htail]

variable (hmarked : forall e, e ∈ pairs -> Marked marker e.1)

include hmarked in
theorem substituteFrom_append {skip : Nat} (hskip : skip ≤ before.length) :
    substituteFrom pairs skip (before ++ marker :: after) =
      substituteFrom pairs skip before ++ substitute pairs (marker :: after) := by
  induction before generalizing skip with
  | nil =>
      have hzero : skip = 0 := Nat.le_zero.mp hskip
      subst hzero
      rfl
  | cons x before ih =>
      cases skip with
      | succ skip => exact ih (Nat.le_of_succ_le_succ hskip)
      | zero =>
          have hsame : pairs.find? (fun e => e.1.isPrefixOf (x :: (before ++ marker :: after))) =
              pairs.find? (fun e => e.1.isPrefixOf (x :: before)) := by
            apply List.find?_congr
            intro e he
            rw [Bool.eq_iff_iff, List.isPrefixOf_iff_prefix, List.isPrefixOf_iff_prefix]
            exact (hmarked e he).prefix_cons
          rw [List.cons_append]
          unfold substituteFrom
          rw [hsame]
          cases hfind : pairs.find? (fun e => e.1.isPrefixOf (x :: before)) with
          | none => simp only [ih (Nat.zero_le _), List.cons_append]
          | some e =>
              have hstarts : e.1 <+: x :: before :=
                List.isPrefixOf_iff_prefix.mp (by simpa using List.find?_some hfind)
              have hlength := hstarts.length_le
              rw [List.length_cons] at hlength
              have hle : e.1.length - 1 ≤ before.length := by omega
              simp only [ih hle, List.append_assoc]

include hmarked in
theorem substitute_append :
    substitute pairs (before ++ marker :: after) =
      substitute pairs before ++ substitute pairs (marker :: after) :=
  substituteFrom_append hmarked (Nat.zero_le _)

include hmarked in
theorem substitute_unmarked (hbefore : marker ∉ before) :
    substitute pairs (before ++ after) = before ++ substitute pairs after := by
  induction before with
  | nil => rfl
  | cons c before ih =>
      rw [List.mem_cons, not_or] at hbefore
      have hnone : pairs.find? (fun e => e.1.isPrefixOf (c :: (before ++ after))) = none := by
        apply List.find?_eq_none.mpr
        intro e he hstarts
        rcases hmarked e he with ⟨tail, htail, -⟩
        rw [htail, List.isPrefixOf_iff_prefix, List.cons_prefix_cons] at hstarts
        exact hbefore.1 hstarts.1
      rw [List.cons_append, substitute_none hnone, ih hbefore.2, List.cons_append]

variable (hother : forall e, e ∈ pairs -> Not (e.1 <+: pattern) ∧ Not (pattern <+: e.1))

include hother hmarked in
theorem substitute_pattern (hpattern : Marked marker pattern) :
    substitute pairs (pattern ++ after) = pattern ++ substitute pairs after := by
  have hnone : forall e, e ∈ pairs -> Not (e.1 <+: pattern ++ after) := by
    intro e he hstarts
    rcases List.prefix_or_prefix_of_prefix hstarts (List.prefix_append pattern after) with h | h
    · exact (hother e he).1 h
    · exact (hother e he).2 h
  rcases hpattern with ⟨tail, rfl, htail⟩
  have hfind : pairs.find? (fun e => e.1.isPrefixOf (marker :: (tail ++ after))) = none := by
    apply List.find?_eq_none.mpr
    intro e he hstarts
    exact hnone e he (List.isPrefixOf_iff_prefix.mp hstarts)
  rw [List.cons_append, substitute_none hfind, substitute_unmarked hmarked htail,
    List.cons_append]

theorem replaceAll_at (h : Marked marker pattern) :
    replaceAll pattern value (before ++ (pattern ++ after)) =
      replaceAll pattern value before ++ (value ++ replaceAll pattern value after) := by
  have hmarked : forall e, e ∈ [(pattern, value)] -> Marked marker e.1 := by
    intro e he
    rw [List.mem_singleton.mp he]
    exact h
  rw [← substitute_single, ← substitute_single, ← substitute_single]
  rcases h with ⟨tail, rfl, htail⟩
  rw [List.cons_append, substitute_append hmarked]
  congr 1
  have hfind : [(marker :: tail, value)].find?
      (fun e => e.1.isPrefixOf (marker :: (tail ++ after))) = some (marker :: tail, value) := by
    apply List.find?_cons_of_pos
    exact List.isPrefixOf_iff_prefix.mpr (List.prefix_append (marker :: tail) after)
  rw [substitute_found hfind]
  simp

end Marked

/-!
# Counting
-/

section Counting

variable {pattern value text before after : List Char}

theorem length_replaceAll (pattern value text : List Char) :
    (replaceAll pattern value text).length =
      (replaceAll pattern [] text).length + occurrences pattern text * value.length :=
  length_replaceFrom 0

theorem occurrences_pos (h : pattern <:+: text) (hpattern : pattern ≠ []) :
    0 < occurrences pattern text :=
  countFrom_pos h hpattern

theorem occurrences_of_absent (h : Not (pattern <:+: text)) : occurrences pattern text = 0 := by
  have hlength := length_replaceAll pattern [' '] text
  rw [replaceAll_of_absent h, replaceAll_of_absent h] at hlength
  simpa using hlength

theorem occurrences_at {marker : Char} (h : Marked marker pattern) :
    occurrences pattern (before ++ (pattern ++ after)) =
      occurrences pattern before + 1 + occurrences pattern after := by
  have hempty := congrArg List.length (@replaceAll_at marker pattern [] before after h)
  have hone := congrArg List.length (@replaceAll_at marker pattern [' '] before after h)
  simp only [List.length_append, List.length_nil, length_replaceAll pattern [' '],
    List.length_singleton, Nat.mul_one] at hempty hone
  omega

theorem countFrom_drop (skip : Nat) (text : List Char) :
    countFrom pattern skip text = occurrences pattern (text.drop skip) := by
  unfold occurrences
  induction text generalizing skip with
  | nil => simp [countFrom]
  | cons c rest ih =>
      cases skip with
      | zero => rfl
      | succ skip => exact ih skip

theorem occurrences_cons (c : Char) (rest : List Char) :
    occurrences pattern (c :: rest) =
      if pattern.isPrefixOf (c :: rest) then
        occurrences pattern (rest.drop (pattern.length - 1)) + 1
      else occurrences pattern rest := by
  rw [← countFrom_drop]
  rfl

/-- A later part of a text has no more occurrences, and loses one at most with each length of
the pattern. -/
theorem occurrences_drop (n : Nat) :
    forall text : List Char, text.length ≤ n -> forall i,
      occurrences pattern (text.drop i) ≤ occurrences pattern text ∧
        (i ≤ pattern.length ->
          occurrences pattern text ≤ occurrences pattern (text.drop i) + 1) := by
  induction n with
  | zero =>
      intro text htext i
      rw [List.eq_nil_of_length_eq_zero (Nat.le_zero.mp htext), List.drop_nil]
      exact ⟨Nat.le_refl _, fun _ => Nat.le_succ _⟩
  | succ n ih =>
      intro text htext i
      cases text with
      | nil =>
          rw [List.drop_nil]
          exact ⟨Nat.le_refl _, fun _ => Nat.le_succ _⟩
      | cons c rest =>
          cases i with
          | zero => exact ⟨Nat.le_refl _, fun _ => Nat.le_succ _⟩
          | succ i =>
              have hrest : rest.length ≤ n := by simpa using htext
              rcases ih rest hrest i with ⟨hle, hlose⟩
              rw [List.drop_succ_cons, occurrences_cons]
              split
              · rcases ih rest hrest (pattern.length - 1) with ⟨-, hlose'⟩
                refine ⟨Nat.le_trans hle (hlose' (by omega)), fun hi => ?_⟩
                have hdrop : (rest.drop i).drop (pattern.length - 1 - i) =
                    rest.drop (pattern.length - 1) := by
                  rw [List.drop_drop]
                  congr 1
                  omega
                have hpart := (ih (rest.drop i) (by rw [List.length_drop]; omega)
                  (pattern.length - 1 - i)).1
                rw [hdrop] at hpart
                omega
              · exact ⟨hle, fun hi => hlose (by omega)⟩

theorem occurrences_append_le (before after : List Char) :
    occurrences pattern after ≤ occurrences pattern (before ++ after) := by
  have h := (@occurrences_drop pattern _ (before ++ after) (Nat.le_refl _) before.length).1
  rwa [List.drop_left] at h

theorem occurrences_pattern (hpattern : pattern ≠ []) (after : List Char) :
    occurrences pattern (pattern ++ after) = occurrences pattern after + 1 := by
  cases pattern with
  | nil => exact absurd rfl hpattern
  | cons c rest =>
      rw [List.cons_append, occurrences_cons, if_pos]
      · simp
      · exact List.isPrefixOf_iff_prefix.mpr (List.prefix_append (c :: rest) after)

theorem le_occurrences (hpattern : pattern ≠ []) {n : Nat}
    (h : (List.replicate n pattern).flatten <:+: text) : n ≤ occurrences pattern text := by
  rcases h with ⟨before, after, rfl⟩
  have hrow : n ≤ occurrences pattern ((List.replicate n pattern).flatten ++ after) := by
    induction n with
    | zero => exact Nat.zero_le _
    | succ n ih =>
        rw [List.replicate_succ, List.flatten_cons, List.append_assoc,
          occurrences_pattern hpattern]
        omega
  rw [List.append_assoc]
  exact Nat.le_trans hrow (occurrences_append_le before _)

end Counting

/-!
# One after the other
-/

section Sequence

variable {marker : Char} {pairs : List (List Char × List Char)} {pattern value : List Char}

variable (hmarked : forall e, e ∈ pairs -> Marked marker e.1)

variable (hother : forall e, e ∈ pairs -> Not (e.1 <+: pattern) ∧ Not (pattern <+: e.1))

include hother hmarked

theorem substitute_at (hpattern : Marked marker pattern) (before after : List Char) :
    substitute pairs (before ++ (pattern ++ after)) =
      substitute pairs before ++ (pattern ++ substitute pairs after) := by
  rw [← substitute_pattern hmarked hother hpattern]
  rcases hpattern with ⟨tail, rfl, htail⟩
  rw [List.cons_append, substitute_append hmarked]

theorem substitute_last (hpattern : Marked marker pattern) (before after : List Char) :
    substitute (pairs ++ [(pattern, value)]) (before ++ (pattern ++ after)) =
      substitute (pairs ++ [(pattern, value)]) before ++
        (value ++ substitute (pairs ++ [(pattern, value)]) after) := by
  have hall : forall e, e ∈ pairs ++ [(pattern, value)] -> Marked marker e.1 := by
    intro e he
    rcases List.mem_append.mp he with he | he
    · exact hmarked e he
    · rw [List.mem_singleton.mp he]
      exact hpattern
  have hfind : (pairs ++ [(pattern, value)]).find? (fun e => e.1.isPrefixOf (pattern ++ after)) =
      some (pattern, value) := by
    have hnone : pairs.find? (fun e => e.1.isPrefixOf (pattern ++ after)) = none := by
      apply List.find?_eq_none.mpr
      intro e he hstarts
      rcases List.prefix_or_prefix_of_prefix (List.isPrefixOf_iff_prefix.mp hstarts)
        (List.prefix_append pattern after) with h | h
      · exact (hother e he).1 h
      · exact (hother e he).2 h
    rw [List.find?_append, hnone, Option.none_or]
    apply List.find?_cons_of_pos
    exact List.isPrefixOf_iff_prefix.mpr (List.prefix_append pattern after)
  rcases hpattern with ⟨tail, rfl, htail⟩
  rw [List.cons_append, substitute_append hall]
  congr 1
  rw [List.cons_append] at hfind
  rw [substitute_found hfind]
  simp

theorem occurrences_substitute_le (hpattern : Marked marker pattern) (n : Nat) :
    forall text : List Char, text.length ≤ n ->
      occurrences pattern text ≤ occurrences pattern (substitute pairs text) := by
  induction n with
  | zero =>
      intro text htext
      rw [List.eq_nil_of_length_eq_zero (Nat.le_zero.mp htext)]
      exact Nat.zero_le _
  | succ n ih =>
      intro text htext
      by_cases hoccurs : pattern <:+: text
      · rcases hoccurs with ⟨before, after, rfl⟩
        rw [List.append_assoc, substitute_at hmarked hother hpattern, occurrences_at hpattern,
          occurrences_at hpattern]
        have hpos : 0 < pattern.length := by
          rcases hpattern with ⟨tail, rfl, -⟩
          exact Nat.succ_pos _
        simp only [List.length_append] at htext
        have hbefore := ih before (by omega)
        have hafter := ih after (by omega)
        omega
      · rw [occurrences_of_absent hoccurs]
        exact Nat.zero_le _

theorem replaceAll_substitute (hpattern : Marked marker pattern) (n : Nat) :
    forall text : List Char, text.length ≤ n ->
      occurrences pattern (substitute pairs text) = occurrences pattern text ->
        replaceAll pattern value (substitute pairs text) =
          substitute (pairs ++ [(pattern, value)]) text := by
  induction n with
  | zero =>
      intro text htext _
      rw [List.eq_nil_of_length_eq_zero (Nat.le_zero.mp htext)]
      rfl
  | succ n ih =>
      intro text htext hsame
      by_cases hoccurs : pattern <:+: text
      · rcases hoccurs with ⟨before, after, rfl⟩
        rw [List.append_assoc] at hsame ⊢
        rw [substitute_at hmarked hother hpattern, occurrences_at hpattern,
          occurrences_at hpattern] at hsame
        rw [substitute_at hmarked hother hpattern, replaceAll_at hpattern,
          substitute_last hmarked hother hpattern]
        have hpos : 0 < pattern.length := by
          rcases hpattern with ⟨tail, rfl, -⟩
          exact Nat.succ_pos _
        simp only [List.length_append] at htext
        have hle := occurrences_substitute_le hmarked hother hpattern
        have hbefore := hle _ before (Nat.le_refl _)
        have hafter := hle _ after (Nat.le_refl _)
        rw [ih before (by omega) (by omega), ih after (by omega) (by omega)]
      · -- The pattern is not in the text, and no value brings it in.
        rw [occurrences_of_absent hoccurs] at hsame
        have hnone : Not (pattern <:+: substitute pairs text) := by
          intro h
          rcases hpattern with ⟨tail, rfl, -⟩
          have hpos := occurrences_pos h (List.cons_ne_nil _ _)
          omega
        rw [replaceAll_of_absent hnone]
        have hfilter : (pairs ++ [(pattern, value)]).filter (fun e => decide (e.1 ≠ pattern)) =
            pairs := by
          rw [List.filter_append, List.filter_eq_self.mpr]
          · simp
          · intro e he
            have hne : e.1 ≠ pattern := fun heq => (hother e he).1 (heq ▸ List.prefix_refl _)
            simpa using hne
        rw [← @substitute_filter (pairs ++ [(pattern, value)]) text
          (fun e => decide (e.1 ≠ pattern)), hfilter]
        intro e _ hdropped
        have heq : e.1 = pattern := by simpa using hdropped
        rw [heq]
        exact hoccurs

end Sequence

/-!
# The length of what is put in
-/

section Lengths

variable {key : Type} [DecidableEq key]

/-- How often a key's pattern is the one that is replaced. -/
def emittedFrom (pattern : key -> List Char) (keys : List key) (k : key) :
    Nat -> List Char -> Nat
  | _, [] => 0
  | skip + 1, _ :: rest => emittedFrom pattern keys k skip rest
  | 0, c :: rest =>
      match keys.find? (fun k' => (pattern k').isPrefixOf (c :: rest)) with
      | some k' =>
          emittedFrom pattern keys k ((pattern k').length - 1) rest + if k' = k then 1 else 0
      | none => emittedFrom pattern keys k 0 rest

theorem length_substitute {pattern : key -> List Char} {keys : List key} {k : key}
    {value value' : key -> List Char} (hvalue : forall k', k' ≠ k -> value k' = value' k')
    (hempty : value' k = []) (text : List Char) :
    (substitute (keys.map (fun k' => (pattern k', value k'))) text).length =
      (substitute (keys.map (fun k' => (pattern k', value' k'))) text).length +
        emittedFrom pattern keys k 0 text * (value k).length := by
  have hfrom : forall skip,
      (substituteFrom (keys.map (fun k' => (pattern k', value k'))) skip text).length =
        (substituteFrom (keys.map (fun k' => (pattern k', value' k'))) skip text).length +
          emittedFrom pattern keys k skip text * (value k).length := by
    induction text with
    | nil => intro skip; simp [substituteFrom, emittedFrom]
    | cons c rest ih =>
        intro skip
        cases skip with
        | succ skip => exact ih skip
        | zero =>
            unfold substituteFrom emittedFrom
            have hfind : forall w : key -> List Char,
                (keys.map (fun k' => (pattern k', w k'))).find?
                    (fun e => e.1.isPrefixOf (c :: rest)) =
                  (keys.find? (fun k' => (pattern k').isPrefixOf (c :: rest))).map
                    (fun k' => (pattern k', w k')) := by
              intro w
              rw [List.find?_map]
              rfl
            rw [hfind, hfind]
            cases keys.find? (fun k' => (pattern k').isPrefixOf (c :: rest)) with
            | none =>
                simp only [Option.map_none, List.length_cons, ih 0]
                omega
            | some k' =>
                simp only [Option.map_some, List.length_append, ih ((pattern k').length - 1)]
                by_cases hk : k' = k
                · rw [hk, hempty, if_pos rfl, Nat.add_mul]
                  simp only [List.length_nil]
                  omega
                · rw [hvalue k' hk, if_neg hk, Nat.add_zero]
                  omega
  exact hfrom 0

end Lengths

end Text
end ServerComponents
