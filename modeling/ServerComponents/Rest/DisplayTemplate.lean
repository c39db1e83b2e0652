import Mathlib.Data.String.Basic
import ServerComponents.Relational.SortedMap
import ServerComponents.Text.Replace

/-!
# Display templates

`FormatString` replaces the placeholders of a row's columns one column after
the other, so a value that was put in can hold the placeholder of a later
column.
-/

namespace ServerComponents
namespace Rest

open Relational Text

abbrev KeyValueTable := SortedMap String String

def placeholder (key : String) : List Char := '{' :: (key.toList ++ ['}'])

theorem placeholder_ne_nil (key : String) : placeholder key ≠ [] := List.cons_ne_nil _ _

def Mentions (text : List Char) (key : String) : Prop := placeholder key <:+: text

instance (text : List Char) (key : String) : Decidable (Mentions text key) :=
  inferInstanceAs (Decidable (placeholder key <:+: text))

/-- `FormatString` over the entries of a table. -/
def formatEntries (text : List Char) (entries : List (String × String)) : List Char :=
  entries.foldl (fun result e => replaceAll (placeholder e.1) e.2.toList result) text

def formatString (format : String) (keyValueTable : KeyValueTable) : String :=
  String.ofList (formatEntries format.toList keyValueTable.entries)

theorem formatEntries_split {c : Char} {before after : List Char}
    {entries : List (String × String)} (hc : forall e, e ∈ entries -> c ∉ placeholder e.1) :
    formatEntries (before ++ c :: after) entries =
      formatEntries before entries ++ c :: formatEntries after entries := by
  unfold formatEntries
  induction entries generalizing before after with
  | nil => rfl
  | cons e rest ih =>
      rw [List.foldl_cons, List.foldl_cons, List.foldl_cons,
        replaceAll_split (hc e (by simp)) (placeholder_ne_nil e.1)]
      exact ih (fun e' he' => hc e' (List.mem_cons_of_mem e he'))

theorem formatEntries_of_plain {text : List Char} {entries : List (String × String)}
    (h : '{' ∉ text) : formatEntries text entries = text := by
  have hnone : forall key, Not (placeholder key <:+: text) := by
    intro key hoccurs
    exact h (hoccurs.subset (by simp [placeholder]))
  unfold formatEntries
  induction entries with
  | nil => rfl
  | cons e rest ih =>
      rw [List.foldl_cons, replaceAll_of_absent (hnone e.1)]
      exact ih

theorem mentions_placeholder {key key' : String} (hopen : '{' ∉ key.toList)
    (hclose : '}' ∉ key.toList) (h : Mentions (placeholder key) key') : key' = key := by
  have hstarts : placeholder key' <+: placeholder key := by
    rcases List.infix_cons_iff.mp h with h | h
    · exact h
    · have hmem : '{' ∈ key.toList ++ ['}'] := h.subset (by simp [placeholder])
      simp [hopen] at hmem
  rw [placeholder, placeholder, List.cons_prefix_cons] at hstarts
  rcases List.prefix_concat_iff.mp hstarts.2 with heq | hshort
  · exact String.toList_injective (List.append_cancel_right heq)
  · exact absurd (hshort.subset (by simp)) hclose

/-- The scan of `ParseTemplateColumns`, with the name that it is in. -/
def scanColumns : Option (List Char) -> List Char -> List String
  | _, [] => []
  | none, c :: rest =>
      if c = '{' then scanColumns (some []) rest else scanColumns none rest
  | some name, c :: rest =>
      if c = '}' then String.ofList name.reverse :: scanColumns none rest
      else scanColumns (some (c :: name)) rest

def parseTemplateColumns (displayTemplate : String) : List String :=
  scanColumns none displayTemplate.toList

example : parseTemplateColumns "\x7bfirst\x7d \x7blast\x7d \x7b" = ["first", "last"] := by
  decide

theorem Mentions.cons {text : List Char} {key : String} (h : Mentions text key)
    (c : Char) : Mentions (c :: text) key :=
  List.IsInfix.trans h (List.suffix_cons c text).isInfix

theorem scanColumns_mentions {text : List Char} {key : String} :
    (forall name, key ∈ scanColumns (some name) text ->
        Mentions text key ∨
          exists pre, pre ++ ['}'] <+: text ∧ key.toList = name.reverse ++ pre) ∧
      (key ∈ scanColumns none text -> Mentions text key) := by
  induction text with
  | nil => simp [scanColumns]
  | cons c rest ih =>
      rcases ih with ⟨ihsome, ihnone⟩
      constructor
      · intro name hkey
        unfold scanColumns at hkey
        split at hkey
        · rename_i hclose
          rcases List.mem_cons.mp hkey with hkey | hkey
          · exact Or.inr ⟨[], by simp [hclose], by simp [hkey]⟩
          · exact Or.inl ((ihnone hkey).cons c)
        · rcases ihsome (c :: name) hkey with h | ⟨pre, hpre, hname⟩
          · exact Or.inl (h.cons c)
          · exact Or.inr ⟨c :: pre, by simpa using hpre, by simpa using hname⟩
      · intro hkey
        unfold scanColumns at hkey
        split at hkey
        · rename_i hopen
          rcases ihsome [] hkey with h | ⟨pre, hpre, hname⟩
          · exact h.cons c
          · have hstarts : placeholder key <+: c :: rest := by
              rw [hopen, placeholder, hname]
              simpa using hpre
            exact hstarts.isInfix
        · exact (ihnone hkey).cons c

theorem mentions_of_parsed {displayTemplate key : String}
    (h : key ∈ parseTemplateColumns displayTemplate) :
    Mentions displayTemplate.toList key :=
  scanColumns_mentions.2 h

/-!
# What shows through a template

A hidden column is exposed when the template mentions it, or mentions a column
that is replaced before it.
-/

section Exposure

variable {text : List Char}

/-- The hidden columns that neither stand in the text nor come after a column
that does are not shown. -/
theorem formatEntries_eq {visible : String -> Prop}
    {entries entries' : List (String × String)}
    (hsimilar : List.Forall₂ (SortedMap.SimilarEntry visible) entries entries')
    (hsorted : entries.Pairwise (fun e e' => e.1 < e'.1))
    (hhidden : forall e, e ∈ entries -> Not (visible e.1) ->
      Not (Mentions text e.1) ∧
        forall e', e' ∈ entries -> Mentions text e'.1 -> Not (e'.1 < e.1)) :
    formatEntries text entries = formatEntries text entries' := by
  induction hsimilar with
  | nil => rfl
  | cons hfirst hrest ih =>
      rename_i e e' rest rest'
      rcases List.pairwise_cons.mp hsorted with ⟨hlt, hsortedRest⟩
      simp only [formatEntries, List.foldl_cons, ← hfirst.1]
      by_cases hmention : Mentions text e.1
      · -- no later column is hidden, so the rest is the same
        have hvisible : forall x, x ∈ e :: rest -> visible x.1 := by
          intro x hx
          by_contra hx'
          rcases hhidden x hx hx' with ⟨hnot, hbefore⟩
          rcases List.mem_cons.mp hx with h | h
          · rw [h] at hnot
            exact hnot hmention
          · exact hbefore e (by simp) hmention (hlt x h)
        have hsame : rest = rest' := by
          clear ih hlt hsortedRest hhidden hsorted hmention
          induction hrest with
          | nil => rfl
          | cons hhead htail ihrest =>
              rename_i x x' tail tail'
              rw [Prod.ext hhead.1 (hhead.2 (hvisible x (by simp))),
                ihrest (fun y hy => hvisible y (by
                  rcases List.mem_cons.mp hy with h | h <;> simp [h]))]
        rw [hfirst.2 (hvisible e (by simp)), hsame]
      · rw [replaceAll_of_absent hmention, replaceAll_of_absent hmention]
        apply ih hsortedRest
        intro x hx hx'
        rcases hhidden x (List.mem_cons_of_mem e hx) hx' with ⟨hnot, hbefore⟩
        exact ⟨hnot, fun y hy => hbefore y (List.mem_cons_of_mem e hy)⟩

variable {keys : List String} {value : String -> String}

theorem formatEntries_map_cons (key : String) (keys : List String) :
    formatEntries text ((key :: keys).map (fun k => (k, value k))) =
      formatEntries (replaceAll (placeholder key) (value key).toList text)
        (keys.map (fun k => (k, value k))) := rfl

theorem formatEntries_placeholder {key : String} (hkey : key ∈ keys)
    (hopen : '{' ∉ key.toList) (hclose : '}' ∉ key.toList) :
    exists later, later <:+ keys ∧
      formatEntries (placeholder key) (keys.map (fun k => (k, value k))) =
        formatEntries (value key).toList (later.map (fun k => (k, value k))) := by
  induction keys with
  | nil => cases hkey
  | cons k keys ih =>
      rw [formatEntries_map_cons]
      by_cases hk : k = key
      · rw [hk, replaceAll_pattern (placeholder_ne_nil key)]
        exact ⟨keys, List.suffix_cons key keys, rfl⟩
      · rw [replaceAll_of_absent (fun h => hk (mentions_placeholder hopen hclose h))]
        rcases List.mem_cons.mp hkey with h | h
        · exact absurd h.symm hk
        · rcases ih h with ⟨later, hlater, heq⟩
          exact ⟨later, hlater.trans (List.suffix_cons k keys), heq⟩

theorem formatEntries_self
    (hself : forall k, k ∈ keys -> (value k).toList = placeholder k) :
    formatEntries text (keys.map (fun k => (k, value k))) = text := by
  induction keys with
  | nil => rfl
  | cons key keys ih =>
      rw [formatEntries_map_cons, hself key (by simp),
        replaceAll_self (placeholder_ne_nil key)]
      exact ih (fun k hk => hself k (List.mem_cons_of_mem key hk))

theorem formatEntries_one {c : String} (hc : c ∈ keys)
    (hsorted : keys.Pairwise (· < ·))
    (hself : forall k, k ∈ keys -> k ≠ c -> (value k).toList = placeholder k) :
    formatEntries text (keys.map (fun k => (k, value k))) =
      replaceAll (placeholder c) (value c).toList text := by
  induction keys with
  | nil => cases hc
  | cons key keys ih =>
      rcases List.pairwise_cons.mp hsorted with ⟨hlt, hsortedRest⟩
      rw [formatEntries_map_cons]
      by_cases hkey : key = c
      · rw [hkey] at hlt ⊢
        apply formatEntries_self
        intro k hk
        exact hself k (List.mem_cons_of_mem key hk) (ne_of_gt (hlt k hk))
      · rw [hself key (by simp) hkey, replaceAll_self (placeholder_ne_nil key)]
        have hc' : c ∈ keys := by
          rcases List.mem_cons.mp hc with h | h
          · exact absurd h.symm hkey
          · exact h
        exact ih hc' hsortedRest (fun k hk => hself k (List.mem_cons_of_mem key hk))

theorem formatEntries_two {k c : String} (hk : k ∈ keys) (hc : c ∈ keys) (hkc : k < c)
    (hsorted : keys.Pairwise (· < ·))
    (hself : forall k', k' ∈ keys -> k' ≠ k -> k' ≠ c ->
      (value k').toList = placeholder k') :
    formatEntries text (keys.map (fun k => (k, value k))) =
      replaceAll (placeholder c) (value c).toList
        (replaceAll (placeholder k) (value k).toList text) := by
  induction keys with
  | nil => cases hc
  | cons key keys ih =>
      rcases List.pairwise_cons.mp hsorted with ⟨hlt, hsortedRest⟩
      rw [formatEntries_map_cons]
      by_cases hkey : key = k
      · rw [hkey] at hlt hc ⊢
        have hc' : c ∈ keys := by
          rcases List.mem_cons.mp hc with h | h
          · exact absurd h (ne_of_gt hkc)
          · exact h
        apply formatEntries_one hc' hsortedRest
        intro k' hk'
        exact hself k' (List.mem_cons_of_mem key hk') (ne_of_gt (hlt k' hk'))
      · have hk' : k ∈ keys := by
          rcases List.mem_cons.mp hk with h | h
          · exact absurd h.symm hkey
          · exact h
        have hkeyc : key ≠ c := fun h => absurd hkc (by
          rw [← h]
          exact lt_asymm (hlt k hk'))
        have hc' : c ∈ keys := by
          rcases List.mem_cons.mp hc with h | h
          · exact absurd h.symm hkeyc
          · exact h
        rw [hself key (by simp) hkey hkeyc, replaceAll_self (placeholder_ne_nil key)]
        exact ih hk' hc' hsortedRest
          (fun k'' hk'' => hself k'' (List.mem_cons_of_mem key hk''))

end Exposure

end Rest
end ServerComponents
