import ServerComponents.Rest.DisplayTemplate
import ServerComponents.Text.Substitute

/-!
# Display texts and substitution

A template names columns, and its display text should have their values in their places,
whatever the values are.  `FormatString` replaces one column after the other, also in what it
has put in, and `ParseTemplateColumns` reads the names in another way.
-/

namespace ServerComponents
namespace Rest

open Relational Text

def pairs (entries : List (String × String)) : List (List Char × List Char) :=
  entries.map (fun e => (placeholder e.1, e.2.toList))

/-- Each placeholder becomes its value, all of them at once. -/
def formatAtOnce (format : String) (row : KeyValueTable) : String :=
  String.ofList (substitute (pairs row.entries) format.toList)

/-- The columns of a row that the template is parsed to. -/
def parsedPart (format : String) (row : KeyValueTable) : KeyValueTable :=
  row.filterKeys (fun k => (parseTemplateColumns format).contains k)

structure FormatLaw (format : String) (row : KeyValueTable) : Prop where
  atOnce : formatString format row = formatAtOnce format row
  parsed : formatString format (parsedPart format row) = formatString format row

/-- A column that the template mentions is parsed from it, and no column comes after it. -/
def MentionsLast (format : String) (columns : List String) : Prop :=
  forall k, k ∈ columns -> Mentions format.toList k ->
    k ∈ parseTemplateColumns format ∧ forall j, j ∈ columns -> j ≤ k

/-- The names that are mentioned have no braces and are parsed, and putting in the values of
the columns before it makes no new placeholder of a column. -/
structure Undisturbed (format : String) (row : KeyValueTable) : Prop where
  plain : forall k, k ∈ row.keys -> Mentions format.toList k ->
    '{' ∉ k.toList ∧ '}' ∉ k.toList
  parsed : forall k, k ∈ row.keys -> Mentions format.toList k ->
    k ∈ parseTemplateColumns format
  noNew : forall before e after, row.entries = before ++ e :: after ->
    occurrences (placeholder e.1) (substitute (pairs before) format.toList) =
      occurrences (placeholder e.1) format.toList

/-!
# Columns that are not mentioned
-/

section Absent

variable {text : List Char} {entries : List (String × String)}

theorem formatEntries_append (text : List Char) (before after : List (String × String)) :
    formatEntries text (before ++ after) = formatEntries (formatEntries text before) after :=
  List.foldl_append

theorem formatEntries_of_absent (h : forall e, e ∈ entries -> Not (Mentions text e.1)) :
    formatEntries text entries = text := by
  induction entries with
  | nil => rfl
  | cons e rest ih =>
      change formatEntries (replaceAll (placeholder e.1) e.2.toList text) rest = text
      rw [replaceAll_of_absent (h e (by simp))]
      exact ih (fun e' he' => h e' (List.mem_cons_of_mem e he'))

theorem substitute_pairs_mentioned (text : List Char) (entries : List (String × String)) :
    substitute (pairs (entries.filter (fun e => decide (Mentions text e.1)))) text =
      substitute (pairs entries) text := by
  rw [← @substitute_filter (pairs entries) text (fun e => decide (e.1 <:+: text))]
  · unfold pairs
    rw [List.filter_map]
    rfl
  · intro e _ hdropped
    simpa using hdropped

theorem substitute_pairs_filter {keep : String × String -> Bool}
    (h : forall e, e ∈ entries -> Mentions text e.1 -> keep e = true) :
    substitute (pairs (entries.filter keep)) text = substitute (pairs entries) text := by
  rw [← substitute_pairs_mentioned text (entries.filter keep),
    ← substitute_pairs_mentioned text entries, List.filter_filter]
  congr 2
  apply List.filter_congr
  intro e he
  by_cases hmention : Mentions text e.1
  · simp [hmention, h e he hmention]
  · simp [hmention]

end Absent

/-!
# Rows that are formatted as meant
-/

section Meant

variable {format : String} {text : List Char} {entries : List (String × String)}

theorem marked_placeholder {k : String} (hopen : '{' ∉ k.toList) :
    Marked '{' (placeholder k) :=
  ⟨k.toList ++ ['}'], rfl, by simp [hopen]⟩

theorem formatEntries_eq_substitute
    (hsorted : entries.Pairwise (fun e e' => e.1 < e'.1))
    (hplain : forall e, e ∈ entries -> Mentions text e.1 ->
      '{' ∉ e.1.toList ∧ '}' ∉ e.1.toList)
    (hnoNew : forall before e after, entries = before ++ e :: after ->
      occurrences (placeholder e.1) (substitute (pairs before) text) =
        occurrences (placeholder e.1) text) :
    formatEntries text entries = substitute (pairs entries) text := by
  induction entries using List.reverseRecOn with
  | nil => exact (substitute_nil text).symm
  | append_singleton before e ih =>
      rcases List.pairwise_append.mp hsorted with ⟨hbefore, -, hlast⟩
      have hfirst : formatEntries text before = substitute (pairs before) text := by
        apply ih hbefore (fun e' he' => hplain e' (List.mem_append_left _ he'))
        intro before' e' after' hsplit
        exact hnoNew before' e' (after' ++ [e]) (by simp [hsplit])
      have hcount := hnoNew before e [] rfl
      rw [formatEntries_append, hfirst, ← substitute_pairs_mentioned text (before ++ [e]),
        List.filter_append]
      change replaceAll (placeholder e.1) e.2.toList (substitute (pairs before) text) = _
      by_cases hmention : Mentions text e.1
      · rw [← substitute_pairs_mentioned text before] at hcount ⊢
        have hsplit : forall l, pairs (l ++ [e]) = pairs l ++ [(placeholder e.1, e.2.toList)] :=
          fun _ => List.map_append
        rw [List.filter_cons_of_pos (by simpa using hmention), List.filter_nil, hsplit]
        have hplainLast := hplain e (by simp) hmention
        have hkept : forall e', e' ∈ before.filter (fun e => decide (Mentions text e.1)) ->
            ('{' ∉ e'.1.toList ∧ '}' ∉ e'.1.toList) ∧ e'.1 < e.1 := by
          intro e' he'
          rcases List.mem_filter.mp he' with ⟨hmem, hmentioned⟩
          exact ⟨hplain e' (List.mem_append_left _ hmem) (by simpa using hmentioned),
            hlast e' hmem e (by simp)⟩
        refine replaceAll_substitute ?_ ?_ (marked_placeholder hplainLast.1) _ text
          (Nat.le_refl _) hcount
        · intro p hp
          rcases List.mem_map.mp hp with ⟨e', he', rfl⟩
          exact marked_placeholder (hkept e' he').1.1
        · intro p hp
          rcases List.mem_map.mp hp with ⟨e', he', rfl⟩
          rcases hkept e' he' with ⟨hplain', hlt⟩
          constructor
          · intro h
            exact (ne_of_lt hlt) (mentions_placeholder hplainLast.1 hplainLast.2 h.isInfix)
          · intro h
            exact (ne_of_gt hlt) (mentions_placeholder hplain'.1 hplain'.2 h.isInfix)
      · rw [occurrences_of_absent hmention] at hcount
        have habsent : Not (Mentions (substitute (pairs before) text) e.1) := by
          intro h
          exact Nat.ne_of_gt (occurrences_pos h (placeholder_ne_nil e.1)) hcount
        rw [replaceAll_of_absent habsent, List.filter_cons_of_neg (by simpa using hmention),
          List.filter_nil, List.append_nil, substitute_pairs_mentioned]

theorem Undisturbed.formatLaw {row : KeyValueTable} (h : Undisturbed format row) :
    FormatLaw format row := by
  have hplain : forall e, e ∈ row.entries -> Mentions format.toList e.1 ->
      '{' ∉ e.1.toList ∧ '}' ∉ e.1.toList :=
    fun e he => h.plain e.1 (List.mem_map_of_mem he)
  have hkeep : forall e, e ∈ row.entries -> Mentions format.toList e.1 ->
      (parseTemplateColumns format).contains e.1 = true := by
    intro e he hmention
    rw [List.contains_iff_mem]
    exact h.parsed e.1 (List.mem_map_of_mem he) hmention
  have hall := formatEntries_eq_substitute row.sorted hplain h.noNew
  have hpart : formatEntries format.toList (parsedPart format row).entries =
      substitute (pairs (parsedPart format row).entries) format.toList := by
    apply formatEntries_eq_substitute (parsedPart format row).sorted
    · intro e he
      exact hplain e (List.mem_of_mem_filter he)
    · intro before e after hsplit
      rcases List.filter_eq_append_iff.mp hsplit with ⟨first, second, hrow, hfirst, hsecond⟩
      rcases List.filter_eq_cons_iff.mp hsecond with ⟨skipped, rest, hskipped, hnone, -, -⟩
      have hbefore : (first ++ skipped).filter
          (fun e => (parseTemplateColumns format).contains e.1) = before := by
        rw [List.filter_append, hfirst, List.filter_eq_nil_iff.mpr hnone, List.append_nil]
      have hentries : row.entries = (first ++ skipped) ++ e :: rest := by
        rw [hrow, hskipped, List.append_assoc]
      have hsame := h.noNew (first ++ skipped) e rest hentries
      rw [← @substitute_pairs_filter format.toList (first ++ skipped)
        (fun e => (parseTemplateColumns format).contains e.1), hbefore] at hsame
      · exact hsame
      · intro e' he'
        exact hkeep e' (by rw [hentries]; exact List.mem_append_left _ he')
  constructor
  · exact congrArg String.ofList hall
  · apply congrArg String.ofList
    rw [hpart, hall]
    exact substitute_pairs_filter hkeep

end Meant

/-!
# Columns whose values are free
-/

section Free

variable {format : String} {row : KeyValueTable}

def withValues (row : KeyValueTable) (value : String -> String) : KeyValueTable :=
  row.mapValues (fun k _ => value k)

theorem entries_withValues (row : KeyValueTable) (value : String -> String) :
    (withValues row value).entries = row.keys.map (fun k => (k, value k)) := by
  unfold SortedMap.keys
  rw [List.map_map]
  rfl

theorem keys_withValues (row : KeyValueTable) (value : String -> String) :
    (withValues row value).keys = row.keys := by
  unfold SortedMap.keys
  rw [entries_withValues]
  unfold SortedMap.keys
  rw [List.map_map, List.map_map]
  rfl

theorem MentionsLast.formatLaw (h : MentionsLast format row.keys) : FormatLaw format row := by
  rcases List.eq_nil_or_concat row.entries with hnil | ⟨before, e, hentries⟩
  · have hpart : (parsedPart format row).entries = [] := by
      change row.entries.filter _ = []
      rw [hnil]
      rfl
    constructor
    · unfold formatString formatAtOnce
      rw [hnil]
      exact congrArg String.ofList (substitute_nil _).symm
    · unfold formatString
      rw [hpart, hnil]
  · rw [List.concat_eq_append] at hentries
    have hsorted := row.sorted
    rw [hentries] at hsorted
    have hmem : forall e', e' ∈ before ++ [e] -> e'.1 ∈ row.keys := by
      intro e' he'
      rw [← hentries] at he'
      exact List.mem_map_of_mem he'
    have habsent : forall e', e' ∈ before -> Not (Mentions format.toList e'.1) := by
      intro e' he' hmention
      have hlt := (List.pairwise_append.mp hsorted).2.2 e' he' e (by simp)
      have hle := (h e'.1 (hmem e' (List.mem_append_left _ he')) hmention).2 e.1
        (hmem e (by simp))
      exact absurd hlt (not_lt_of_ge hle)
    have hlast : formatEntries format.toList row.entries =
        replaceAll (placeholder e.1) e.2.toList format.toList := by
      rw [hentries, formatEntries_append, formatEntries_of_absent habsent]
      rfl
    constructor
    · unfold formatString formatAtOnce
      rw [hlast, hentries, ← substitute_single]
      congr 1
      have hkept : (before ++ [e]).filter (fun e' => decide (e' = e)) = [e] := by
        rw [List.filter_append, List.filter_eq_nil_iff.mpr]
        · simp
        · intro e' he' heq
          rw [show e' = e by simpa using heq] at he'
          exact lt_irrefl _ ((List.pairwise_append.mp hsorted).2.2 e he' e (by simp))
      rw [← @substitute_pairs_filter format.toList (before ++ [e]) (fun e' => decide (e' = e)),
        hkept]
      · rfl
      · intro e' he' hmention
        rcases List.mem_append.mp he' with hbefore | hone
        · exact absurd hmention (habsent e' hbefore)
        · simpa using hone
    · unfold formatString
      rw [hlast]
      congr 1
      have hpart : (parsedPart format row).entries =
          before.filter (fun e => (parseTemplateColumns format).contains e.1) ++
            [e].filter (fun e => (parseTemplateColumns format).contains e.1) := by
        change row.entries.filter _ = _
        rw [hentries, List.filter_append]
      rw [hpart, formatEntries_append, formatEntries_of_absent
        (fun e' he' => habsent e' (List.mem_of_mem_filter he'))]
      by_cases hparsed : e.1 ∈ parseTemplateColumns format
      · rw [List.filter_cons_of_pos (by simpa using hparsed)]
        rfl
      · have hnot : Not (Mentions format.toList e.1) := fun hmention =>
          hparsed (h e.1 (hmem e (by simp)) hmention).1
        rw [List.filter_cons_of_neg (by simpa using hparsed), replaceAll_of_absent hnot]
        rfl

/-- What is put in for one column holds the placeholder of a later one, as often as is
wanted, and this one is replaced in it. -/
theorem law_of_two {k j : String} (hk : k ∈ row.keys) (hj : j ∈ row.keys) (hkj : k < j)
    (n : Nat) (later : String)
    (hlaw : forall row' : KeyValueTable, row'.keys = row.keys -> FormatLaw format row') :
    (replaceAll (placeholder j) later.toList (replaceAll (placeholder k)
        (List.replicate n (placeholder j)).flatten format.toList)).length =
      (substitute (row.keys.map (fun k' => (placeholder k',
        if k' = k then (List.replicate n (placeholder j)).flatten
        else if k' = j then later.toList
        else placeholder k'))) format.toList).length := by
  let value : String -> String := fun k' =>
    if k' = k then String.ofList (List.replicate n (placeholder j)).flatten
    else if k' = j then later
    else String.ofList (placeholder k')
  have hself : forall k', k' ∈ row.keys -> k' ≠ k -> k' ≠ j ->
      (value k').toList = placeholder k' := by
    intro k' _ hnk hnj
    simp [value, hnk, hnj]
  have hjk : j ≠ k := ne_of_gt hkj
  have hfirst : (value k).toList = (List.replicate n (placeholder j)).flatten := by
    simp [value]
  have hsecond : (value j).toList = later.toList := by simp [value, hjk]
  have htwo := @formatEntries_two format.toList row.keys value k j hk hj hkj row.keys_sorted hself
  rw [hfirst, hsecond] at htwo
  have hsame := (hlaw (withValues row value) (keys_withValues row value)).atOnce
  unfold formatString formatAtOnce at hsame
  have hlists := String.ofList_injective hsame
  rw [entries_withValues, htwo] at hlists
  rw [hlists]
  congr 2
  unfold pairs
  rw [List.map_map]
  apply List.map_congr_left
  intro k' _
  simp only [Function.comp_apply, Prod.mk.injEq, true_and, value]
  by_cases hnk : k' = k
  · simp [hnk]
  · by_cases hnj : k' = j
    · simp [hnj, hjk]
    · simp [hnk, hnj]

theorem not_mentions_before {k j : String} (hk : k ∈ row.keys) (hj : j ∈ row.keys) (hkj : k < j)
    (hlaw : forall row' : KeyValueTable, row'.keys = row.keys -> FormatLaw format row') :
    Not (Mentions format.toList k) := by
  intro hmention
  have hjk : j ≠ k := ne_of_gt hkj
  let emitted := emittedFrom placeholder row.keys j 0 format.toList
  have hempty := law_of_two hk hj hkj (emitted + 1) "" hlaw
  have hone := law_of_two hk hj hkj (emitted + 1) " " hlaw
  rw [show "".toList = [] from rfl] at hempty
  rw [show " ".toList = [' '] from rfl, length_replaceAll, hempty,
    @length_substitute String _ placeholder row.keys j
      (fun k' => if k' = k then (List.replicate (emitted + 1) (placeholder j)).flatten
        else if k' = j then [' '] else placeholder k')
      (fun k' => if k' = k then (List.replicate (emitted + 1) (placeholder j)).flatten
        else if k' = j then [] else placeholder k')
      (fun k' hne => by simp [hne]) (by simp [hjk])] at hone
  have hput : (List.replicate (emitted + 1) (placeholder j)).flatten <:+:
      replaceAll (placeholder k) (List.replicate (emitted + 1) (placeholder j)).flatten
        format.toList :=
    infix_replaceAll hmention (placeholder_ne_nil k)
  have hmany := le_occurrences (placeholder_ne_nil j) hput
  simp only [if_neg hjk, if_true, List.length_singleton, Nat.mul_one] at hone
  omega

theorem parsed_of_mentions {k : String} (hk : k ∈ row.keys)
    (hlaw : forall row' : KeyValueTable, row'.keys = row.keys -> FormatLaw format row')
    (hmention : Mentions format.toList k) : k ∈ parseTemplateColumns format := by
  by_contra hnot
  let value : String -> String := fun k' => if k' = k then "" else String.ofList (placeholder k')
  have hself : forall k', k' ≠ k -> (value k').toList = placeholder k' := by
    intro k' hne
    simp [value, hne]
  have hshown : formatEntries format.toList (withValues row value).entries =
      replaceAll (placeholder k) [] format.toList := by
    rw [entries_withValues, formatEntries_one hk row.keys_sorted (fun k' _ hne => hself k' hne)]
    simp [value]
  have hhidden : formatEntries format.toList (parsedPart format (withValues row value)).entries =
      format.toList := by
    have hentries : (parsedPart format (withValues row value)).entries =
        (row.keys.filter (fun k' => (parseTemplateColumns format).contains k')).map
          (fun k' => (k', value k')) := by
      change (withValues row value).entries.filter _ = _
      rw [entries_withValues, List.filter_map]
      rfl
    rw [hentries]
    apply formatEntries_self
    intro k' hk'
    apply hself
    intro heq
    rw [heq] at hk'
    exact hnot (by simpa using (List.mem_filter.mp hk').2)
  have hsame := (hlaw (withValues row value) (keys_withValues row value)).parsed
  unfold formatString at hsame
  have hlists := String.ofList_injective hsame
  rw [hhidden, hshown] at hlists
  have hne : (placeholder k).length ≠ ([] : List Char).length := by simp [placeholder]
  apply replaceAll_ne hmention (placeholder_ne_nil k) hne
  rw [replaceAll_self (placeholder_ne_nil k)]
  exact hlists

/-- The law holds of a template and a row whatever the values are, exactly when the row's last
column is the only one that the template mentions, and is parsed from it; and it holds of the
values that the row has when they make no new placeholders. -/
theorem formatLaw_iff (format : String) (row : KeyValueTable) :
    ((forall row' : KeyValueTable, row'.keys = row.keys -> FormatLaw format row') <->
      MentionsLast format row.keys) ∧ (Undisturbed format row -> FormatLaw format row) := by
  refine ⟨⟨?_, ?_⟩, Undisturbed.formatLaw⟩
  · intro hlaw k hk hmention
    refine ⟨parsed_of_mentions hk hlaw hmention, ?_⟩
    intro j hj
    by_contra hnot
    exact not_mentions_before hk hj (not_le.mp hnot) hlaw hmention
  · intro h row' hkeys
    apply MentionsLast.formatLaw
    rw [hkeys]
    exact h

end Free

/-!
# A value with braces
-/

def personRow (first last : String) : KeyValueTable :=
  (SortedMap.empty.set "first" first).set "last" last

/-- Names without braces are shown as they are. -/
theorem formatLaw_plainPerson :
    FormatLaw "\x7bfirst\x7d \x7blast\x7d" (personRow "Ada" "Byron") := by
  apply (formatLaw_iff _ _).2
  refine ⟨by decide, by decide, ?_⟩
  intro before e after hsplit
  have hentries : (personRow "Ada" "Byron").entries = [("first", "Ada"), ("last", "Byron")] := by
    decide
  rw [hentries] at hsplit
  rcases before with _ | ⟨e', _ | ⟨e'', rest⟩⟩
  · simp [pairs]
  · simp only [List.cons_append, List.nil_append, List.cons.injEq] at hsplit
    rw [← hsplit.1, ← hsplit.2.1]
    decide
  · simp at hsplit

/-- A first name that is the placeholder of the last one shows the last name twice. -/
theorem format_expandsValue :
    Not (FormatLaw "\x7bfirst\x7d \x7blast\x7d" (personRow "\x7blast\x7d" "Byron")) := by
  intro h
  have hshown := h.atOnce
  revert hshown
  decide

end Rest
end ServerComponents
