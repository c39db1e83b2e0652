import ServerComponents.Rest.DatabaseRESTHelper

/-!
# Rows as columns and values

An array of key/value rows is answered as one list of columns and, for each row, the
list of its values.  A value is found by its place alone.
-/

namespace ServerComponents
namespace Util

open Relational SortedMap
open Rest (KeyValueTable DataResults)

/-- What stops a computation: an exception, or a read past the end of a vector, which
has no defined meaning. -/
inductive Failure where
  | thrown (e : Exn)
  | undefined
  deriving Repr, DecidableEq

def at? (row : List String) (i : Nat) : Except Failure String :=
  match row[i]? with
  | some value => .ok value
  | none => .error .undefined

def valuesOf (sortedColumns : SortedMap String Nat) (row : List String) :
    Except Failure (List String) :=
  sortedColumns.entries.mapM (fun e => at? row e.2)

def makeDataResults (columnNames : List String) (dataTable : List (List String)) :
    Except Failure DataResults := do
  let sortedColumns := ofPairs columnNames.zipIdx
  let rows ← dataTable.mapM (valuesOf sortedColumns)
  pure ⟨sortedColumns.keys, rows⟩

def inconsistentKeys : Exn := .runtimeError "Inconsistent keys in KeyValueTableArray"

def rowValues (keySet : List String) (keyValueTable : KeyValueTable) :
    Except Failure (List String) :=
  keyValueTable.entries.mapM (fun e =>
    if e.1 ∈ keySet then .ok e.2 else .error (.thrown inconsistentKeys))

def makeDataResultsFromKeyValueTableArray :
    List KeyValueTable -> Except Failure DataResults
  | [] => .ok ⟨[], []⟩
  | first :: rest => do
      let stringTable ← (first :: rest).mapM (rowValues first.keys)
      makeDataResults first.keys stringTable

def keyValueTableArrayFromDataResults (dataResults : DataResults) : List KeyValueTable :=
  dataResults.dataTable.map (fun row => ofPairs (dataResults.sortedColumnNames.zip row))

/-!
# One row
-/

theorem exceptMapM_ok {error a b : Type} {f : a -> Except error b} {g : a -> b}
    {l : List a} (h : forall x, x ∈ l -> f x = .ok (g x)) : l.mapM f = .ok (l.map g) := by
  induction l with
  | nil => rfl
  | cons x rest ih =>
      rw [List.mapM_cons, h x (by simp), ih (fun y hy => h y (List.mem_cons_of_mem x hy))]
      rfl

theorem exceptMapM_error {error a b : Type} {f : a -> Except error b} {e : error}
    {l : List a} {x : a} (hx : x ∈ l) (hfx : f x = .error e)
    (h : forall y, y ∈ l -> f y = .error e ∨ exists v, f y = .ok v) :
    l.mapM f = .error e := by
  induction l with
  | nil => cases hx
  | cons y rest ih =>
      rw [List.mapM_cons]
      rcases h y (by simp) with hy | ⟨v, hv⟩
      · rw [hy]
        rfl
      · rcases List.mem_cons.mp hx with heq | hmem
        · rw [← heq, hfx] at hv
          cases hv
        · rw [hv, ih hmem (fun z hz => h z (List.mem_cons_of_mem y hz))]
          rfl

theorem exceptMapM_cases {error a b : Type} {f : a -> Except error b} {e : error}
    {l : List a} (h : forall y, y ∈ l -> f y = .error e ∨ exists v, f y = .ok v) :
    l.mapM f = .error e ∨ exists vs, l.mapM f = .ok vs := by
  induction l with
  | nil => exact Or.inr ⟨[], rfl⟩
  | cons y rest ih =>
      rw [List.mapM_cons]
      rcases h y (by simp) with hy | ⟨v, hv⟩
      · rw [hy]
        exact Or.inl rfl
      · rw [hv]
        rcases ih (fun z hz => h z (List.mem_cons_of_mem y hz)) with hrest | ⟨vs, hvs⟩
        · rw [hrest]
          exact Or.inl rfl
        · rw [hvs]
          exact Or.inr ⟨v :: vs, rfl⟩

theorem at?_cases (row : List String) (i : Nat) :
    at? row i = .error .undefined ∨ exists value, at? row i = .ok value := by
  unfold at?
  cases row[i]? with
  | none => exact Or.inl rfl
  | some value => exact Or.inr ⟨value, rfl⟩

theorem entries_zipIdx {names : List String} (h : names.Pairwise (· < ·)) :
    (ofPairs names.zipIdx).entries = names.zipIdx := by
  apply entries_ofPairs
  have hmap : (names.zipIdx.map Prod.fst).Pairwise (· < ·) := by
    rw [List.zipIdx_map_fst]
    exact h
  exact List.pairwise_map.mp hmap

theorem mapM_at_append (before row : List String) (names : List String)
    (h : names.length = row.length) :
    (names.zipIdx before.length).mapM (fun e => at? (before ++ row) e.2) = .ok row := by
  induction names generalizing before row with
  | nil =>
      have hrow : row = [] := List.length_eq_zero_iff.mp h.symm
      rw [hrow]
      rfl
  | cons name rest ih =>
      cases row with
      | nil => cases h
      | cons value row =>
          have hhere : at? (before ++ value :: row) before.length = .ok value := by
            simp [at?]
          have hlater := ih (before ++ [value]) row (Nat.succ.inj h)
          rw [List.append_assoc, List.length_append] at hlater
          rw [List.zipIdx_cons, List.mapM_cons, hhere]
          simp only [List.singleton_append] at hlater
          rw [show before.length + 1 = before.length + [value].length from rfl, hlater]
          rfl

theorem valuesOf_ok {names row : List String} (hnames : names.Pairwise (· < ·))
    (h : names.length = row.length) : valuesOf (ofPairs names.zipIdx) row = .ok row := by
  unfold valuesOf
  rw [entries_zipIdx hnames]
  exact mapM_at_append [] row names h

theorem valuesOf_short {names row : List String} (hnames : names.Pairwise (· < ·))
    (h : row.length < names.length) :
    valuesOf (ofPairs names.zipIdx) row = .error .undefined := by
  unfold valuesOf
  rw [entries_zipIdx hnames]
  have hmem : (names[row.length], row.length) ∈ names.zipIdx := by
    rw [List.mem_zipIdx_iff_getElem?]
    simp [h]
  have hread : at? row row.length = .error .undefined := by
    simp [at?]
  exact exceptMapM_error hmem hread (fun e _ => at?_cases row e.2)

theorem rowValues_ok {keySet : List String} {row : KeyValueTable}
    (h : forall k, k ∈ row.keys -> k ∈ keySet) :
    rowValues keySet row = .ok (row.entries.map Prod.snd) := by
  refine exceptMapM_ok (fun e he => ?_)
  rw [if_pos (h e.1 (List.mem_map_of_mem he))]

theorem rowValues_error {keySet : List String} {row : KeyValueTable} {k : String}
    (hk : k ∈ row.keys) (hnot : k ∉ keySet) :
    rowValues keySet row = .error (.thrown inconsistentKeys) := by
  rcases List.mem_map.mp hk with ⟨e, he, hkey⟩
  refine exceptMapM_error he (by rw [if_neg (by rwa [hkey])]) ?_
  intro e' _
  by_cases hmem : e'.1 ∈ keySet
  · exact Or.inr ⟨e'.2, by rw [if_pos hmem]⟩
  · exact Or.inl (by rw [if_neg hmem])

theorem ofPairs_keys_values (row : KeyValueTable) :
    ofPairs (row.keys.zip (row.entries.map Prod.snd)) = row := by
  have hzip : row.keys.zip (row.entries.map Prod.snd) = row.entries := by
    rw [SortedMap.keys, List.zip_map']
    exact List.map_id _
  rw [hzip, ofPairs_entries]

/-!
# The whole array
-/

def Uniform (rows : List KeyValueTable) : Prop :=
  forall row row', row ∈ rows -> row' ∈ rows -> forall k, k ∈ row.keys -> k ∈ row'.keys

/-- Some row has a key that the first one lacks. -/
def HasNewKey : List KeyValueTable -> Prop
  | [] => False
  | first :: rest => exists row k, row ∈ rest ∧ k ∈ row.keys ∧ k ∉ first.keys

/-- Uniform arrays come back, and all others are refused. -/
structure Faithful (rows : List KeyValueTable) : Prop where
  roundTrip : Uniform rows -> exists results,
    makeDataResultsFromKeyValueTableArray rows = .ok results ∧
      keyValueTableArrayFromDataResults results = rows
  refused : Not (Uniform rows) -> exists e,
    makeDataResultsFromKeyValueTableArray rows = .error (.thrown e)

theorem makeDataResults_uniform {first : KeyValueTable} {rest : List KeyValueTable}
    (h : Uniform (first :: rest)) :
    makeDataResultsFromKeyValueTableArray (first :: rest) =
      .ok ⟨first.keys, (first :: rest).map (fun row => row.entries.map Prod.snd)⟩ := by
  have hrows : (first :: rest).mapM (rowValues first.keys) =
      .ok ((first :: rest).map (fun row => row.entries.map Prod.snd)) :=
    exceptMapM_ok (fun row hrow => rowValues_ok (h row first hrow (by simp)))
  have hvalues : ((first :: rest).map (fun row => row.entries.map Prod.snd)).mapM
      (valuesOf (ofPairs first.keys.zipIdx)) =
        .ok (((first :: rest).map (fun row => row.entries.map Prod.snd)).map id) := by
    refine exceptMapM_ok (fun values hvalues => ?_)
    rcases List.mem_map.mp hvalues with ⟨row, hrow, hvalues⟩
    have hkeys : row.keys = first.keys :=
      SortedMap.keys_eq (fun k =>
        ⟨h row first hrow (by simp) k, h first row (by simp) hrow k⟩)
    refine valuesOf_ok first.keys_sorted ?_
    rw [← hvalues, List.length_map, length_entries, hkeys]
  have hcolumns : (ofPairs first.keys.zipIdx).keys = first.keys := by
    rw [SortedMap.keys, entries_zipIdx first.keys_sorted, List.zipIdx_map_fst]
  unfold makeDataResultsFromKeyValueTableArray makeDataResults
  simp only [hrows, hvalues, hcolumns, List.map_id, bind, Except.bind, pure, Except.pure]

theorem makeDataResults_newKey {rows : List KeyValueTable} (h : HasNewKey rows) :
    makeDataResultsFromKeyValueTableArray rows = .error (.thrown inconsistentKeys) := by
  cases rows with
  | nil => cases h
  | cons first rest =>
      rcases h with ⟨row, k, hrow, hk, hnot⟩
      have hrows : (first :: rest).mapM (rowValues first.keys) =
          .error (.thrown inconsistentKeys) := by
        refine exceptMapM_error (List.mem_cons_of_mem first hrow) (rowValues_error hk hnot) ?_
        intro row' _
        by_cases hknown : forall k', k' ∈ row'.keys -> k' ∈ first.keys
        · exact Or.inr ⟨_, rowValues_ok hknown⟩
        · simp only [not_forall] at hknown
          rcases hknown with ⟨k', hk', hnot'⟩
          exact Or.inl (rowValues_error hk' hnot')
      unfold makeDataResultsFromKeyValueTableArray
      simp only [hrows, bind, Except.bind]

theorem makeDataResults_missingKey {rows : List KeyValueTable} (hnew : Not (HasNewKey rows))
    (h : Not (Uniform rows)) :
    makeDataResultsFromKeyValueTableArray rows = .error .undefined := by
  cases rows with
  | nil =>
      refine absurd ?_ h
      intro row _ hrow
      cases hrow
  | cons first rest =>
      have hknown : forall row, row ∈ first :: rest -> forall k, k ∈ row.keys ->
          k ∈ first.keys := by
        intro row hrow k hk
        rcases List.mem_cons.mp hrow with heq | hmem
        · rwa [← heq]
        · by_contra hnot
          exact hnew ⟨row, k, hmem, hk, hnot⟩
      have hshort : exists row, row ∈ first :: rest ∧
          exists k, k ∈ first.keys ∧ k ∉ row.keys := by
        by_contra hall
        refine h (fun row row' hrow hrow' k hk => ?_)
        by_contra hnot
        exact hall ⟨row', hrow', k, hknown row hrow k hk, hnot⟩
      rcases hshort with ⟨row, hrow, k, hk, hnot⟩
      have hrows : (first :: rest).mapM (rowValues first.keys) =
          .ok ((first :: rest).map (fun row => row.entries.map Prod.snd)) :=
        exceptMapM_ok (fun row hrow => rowValues_ok (hknown row hrow))
      have hvalues : ((first :: rest).map (fun row => row.entries.map Prod.snd)).mapM
          (valuesOf (ofPairs first.keys.zipIdx)) = .error .undefined := by
        have hlength : (row.entries.map Prod.snd).length < first.keys.length := by
          rw [List.length_map, length_entries]
          exact length_lt_of_subset (hknown row hrow) hk hnot
        exact exceptMapM_error (List.mem_map_of_mem hrow)
          (valuesOf_short first.keys_sorted hlength)
          (fun values _ => exceptMapM_cases (fun e _ => at?_cases values e.2))
      unfold makeDataResultsFromKeyValueTableArray makeDataResults
      simp only [hrows, hvalues, bind, Except.bind]

theorem makeDataResults_faithful_iff (rows : List KeyValueTable) :
    Faithful rows <-> Uniform rows ∨ HasNewKey rows := by
  constructor
  · intro h
    by_cases huniform : Uniform rows
    · exact Or.inl huniform
    · by_cases hnew : HasNewKey rows
      · exact Or.inr hnew
      · rcases h.refused huniform with ⟨e, he⟩
        rw [makeDataResults_missingKey hnew huniform] at he
        cases he
  · intro h
    constructor
    · intro huniform
      cases rows with
      | nil => exact ⟨⟨[], []⟩, rfl, rfl⟩
      | cons first rest =>
          refine ⟨_, makeDataResults_uniform huniform, ?_⟩
          unfold keyValueTableArrayFromDataResults
          rw [List.map_map]
          calc
            (first :: rest).map (fun row =>
                ofPairs (first.keys.zip (row.entries.map Prod.snd))) =
                (first :: rest).map id := by
              refine List.map_congr_left (fun row hrow => ?_)
              have hkeys : row.keys = first.keys := SortedMap.keys_eq (fun k =>
                ⟨huniform row first hrow (by simp) k, huniform first row (by simp) hrow k⟩)
              rw [← hkeys]
              exact ofPairs_keys_values row
            _ = first :: rest := List.map_id _
    · intro huniform
      exact ⟨_, makeDataResults_newKey (h.resolve_left huniform)⟩

/-- The second row lacks a key of the first. -/
theorem makeDataResults_shortRow :
    Not (Faithful [ofPairs [("id", "1"), ("name", "a")], ofPairs [("id", "2")]]) := by
  intro h
  have huniform : Not (Uniform [ofPairs [("id", "1"), ("name", "a")],
      ofPairs [("id", "2")]]) := by
    intro hall
    have hname := hall _ (ofPairs [("id", "2")]) List.mem_cons_self (by simp) "name" (by decide)
    revert hname
    decide
  have hread : makeDataResultsFromKeyValueTableArray
      [ofPairs [("id", "1"), ("name", "a")], ofPairs [("id", "2")]] =
        .error .undefined := by
    decide
  rcases h.refused huniform with ⟨e, he⟩
  rw [hread] at he
  cases he

end Util
end ServerComponents
