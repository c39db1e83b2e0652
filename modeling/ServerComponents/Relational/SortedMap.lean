import Mathlib.Data.List.Forall2
import Mathlib.Data.List.Perm.Subperm
import Mathlib.Order.Lattice

/-!
# Sorted maps

A map as the list of its entries in the order of their keys.  Two maps are
similar at the visible keys when they have the same keys and agree there.
-/

namespace ServerComponents
namespace Relational

structure SortedMap (key value : Type) [LinearOrder key] where
  entries : List (key × value)
  sorted : entries.Pairwise (fun e e' => e.1 < e'.1)

namespace SortedMap

variable {key value : Type} [LinearOrder key]

def empty : SortedMap key value := ⟨[], List.Pairwise.nil⟩

def setEntry (k : key) (v : value) : List (key × value) -> List (key × value)
  | [] => [(k, v)]
  | e :: rest =>
      if k < e.1 then (k, v) :: e :: rest
      else if k = e.1 then (k, v) :: rest
      else e :: setEntry k v rest

variable {k : key} {entries : List (key × value)} {v : value} {e : key × value}

theorem mem_setEntry (h : e ∈ setEntry k v entries) : e = (k, v) ∨ e ∈ entries := by
  induction entries with
  | nil => exact Or.inl (List.mem_singleton.mp h)
  | cons e' rest ih =>
      unfold setEntry at h
      split at h
      · exact List.mem_cons.mp h
      · split at h
        · rcases List.mem_cons.mp h with h | h
          · exact Or.inl h
          · exact Or.inr (List.mem_cons_of_mem e' h)
        · rcases List.mem_cons.mp h with h | h
          · exact Or.inr (by simp [h])
          · rcases ih h with h | h
            · exact Or.inl h
            · exact Or.inr (List.mem_cons_of_mem e' h)

theorem mem_setEntry_of_ne (he : e ∈ entries) (hk : e.1 ≠ k) : e ∈ setEntry k v entries := by
  induction entries with
  | nil => cases he
  | cons e' rest ih =>
      unfold setEntry
      split
      · exact List.mem_cons_of_mem _ he
      · split
        · rename_i hsame
          rcases List.mem_cons.mp he with h | h
          · rw [h] at hk
            exact absurd hsame.symm hk
          · exact List.mem_cons_of_mem _ h
        · rcases List.mem_cons.mp he with h | h
          · rw [h]
            exact List.mem_cons_self
          · exact List.mem_cons_of_mem _ (ih h)

theorem sorted_setEntry (k : key) (v : value)
    (hsorted : entries.Pairwise (fun e e' => e.1 < e'.1)) :
    (setEntry k v entries).Pairwise (fun e e' => e.1 < e'.1) := by
  induction entries with
  | nil => exact List.pairwise_singleton _ _
  | cons e rest ih =>
      rcases List.pairwise_cons.mp hsorted with ⟨hfirst, hrest⟩
      unfold setEntry
      split
      · rename_i hlt
        refine List.pairwise_cons.mpr ⟨?_, hsorted⟩
        intro e' he'
        rcases List.mem_cons.mp he' with h | h
        · rw [h]
          exact hlt
        · exact lt_trans hlt (hfirst e' h)
      · rename_i hnot
        split
        · rename_i heq
          refine List.pairwise_cons.mpr ⟨?_, hrest⟩
          intro e' he'
          rw [heq]
          exact hfirst e' he'
        · rename_i hne
          refine List.pairwise_cons.mpr ⟨?_, ih hrest⟩
          intro e' he'
          rcases mem_setEntry he' with h | h
          · rw [h]
            exact lt_of_le_of_ne (not_lt.mp hnot) (fun heq => hne heq.symm)
          · exact hfirst e' h

def set (m : SortedMap key value) (k : key) (v : value) : SortedMap key value :=
  ⟨setEntry k v m.entries, sorted_setEntry k v m.sorted⟩

def filterKeys (keep : key -> Bool) (m : SortedMap key value) : SortedMap key value :=
  ⟨m.entries.filter (fun e => keep e.1), m.sorted.filter _⟩

def erase (m : SortedMap key value) (k : key) : SortedMap key value :=
  m.filterKeys (fun k' => decide (k' ≠ k))

def find? (m : SortedMap key value) (k : key) : Option value :=
  (m.entries.find? (fun e => decide (e.1 = k))).map Prod.snd

theorem find?_set_self (m : SortedMap key value) (k : key) (v : value) :
    (m.set k v).find? k = some v := by
  unfold find? set
  dsimp only
  generalize m.entries = entries
  induction entries with
  | nil => simp [setEntry]
  | cons e rest ih =>
      unfold setEntry
      split
      · simp
      · split
        · simp
        · rename_i hne
          have hne' : Not (e.1 = k) := fun h => hne h.symm
          simpa [hne'] using ih

theorem find?_set_of_ne (m : SortedMap key value) {k k' : key} (v : value) (h : k' ≠ k) :
    (m.set k v).find? k' = m.find? k' := by
  unfold find? set
  dsimp only
  generalize m.entries = entries
  induction entries with
  | nil => simp [setEntry, h.symm]
  | cons e rest ih =>
      unfold setEntry
      split
      · simp [h.symm]
      · split
        · rename_i heq
          simp [← heq, h.symm]
        · by_cases hfirst : e.1 = k'
          · simp [hfirst]
          · simpa [hfirst] using ih

def keys (m : SortedMap key value) : List key := m.entries.map Prod.fst

variable {m : SortedMap key value}

theorem mem_set (h : e ∈ (m.set k v).entries) : e = (k, v) ∨ e ∈ m.entries :=
  mem_setEntry h

theorem mem_keys_set {k k' : key} :
    k' ∈ (m.set k v).keys <-> k' = k ∨ k' ∈ m.keys := by
  unfold keys set
  dsimp only
  generalize m.entries = entries
  induction entries with
  | nil => simp [setEntry]
  | cons e rest ih =>
      unfold setEntry
      split
      · simp
      · split
        · rename_i heq
          simp [heq]
        · simp only [List.map_cons, List.mem_cons, ih]
          constructor
          · rintro (h | h | h)
            · exact Or.inr (Or.inl h)
            · exact Or.inl h
            · exact Or.inr (Or.inr h)
          · rintro (h | h | h)
            · exact Or.inr (Or.inl h)
            · exact Or.inl h
            · exact Or.inr (Or.inr h)

theorem find?_of_mem (h : e ∈ m.entries) :
    m.find? e.1 = some e.2 := by
  have hsorted := m.sorted
  unfold find?
  generalize m.entries = entries at h hsorted
  induction entries with
  | nil => cases h
  | cons e' rest ih =>
      rcases List.pairwise_cons.mp hsorted with ⟨hlt, hrest⟩
      rcases List.mem_cons.mp h with h | h
      · simp [h]
      · have hne : Not (e'.1 = e.1) := ne_of_lt (hlt e h)
        simpa [hne] using ih h hrest

theorem find?_none (h : k ∉ m.keys) :
    m.find? k = none := by
  unfold find?
  rw [Option.map_eq_none_iff, List.find?_eq_none]
  intro e he heq
  exact h (List.mem_map.mpr ⟨e, he, by simpa using heq⟩)

theorem find?_some (h : m.find? k = some v) : k ∈ m.keys := by
  by_contra hnot
  rw [find?_none hnot] at h
  cases h

theorem mem_keys_filterKeys {keep : key -> Bool} :
    k ∈ (m.filterKeys keep).keys <-> k ∈ m.keys ∧ keep k = true := by
  constructor
  · intro h
    rcases List.mem_map.mp h with ⟨e, he, rfl⟩
    rcases List.mem_filter.mp he with ⟨hmem, hkeep⟩
    exact ⟨List.mem_map_of_mem hmem, hkeep⟩
  · intro ⟨hmem, hkeep⟩
    rcases List.mem_map.mp hmem with ⟨e, he, rfl⟩
    exact List.mem_map_of_mem (List.mem_filter.mpr ⟨he, hkeep⟩)

theorem mem_keys_erase {k k' : key} (h : k' ∈ (m.erase k).keys) : k' ∈ m.keys ∧ k' ≠ k := by
  rcases mem_keys_filterKeys.mp h with ⟨hmem, hne⟩
  exact ⟨hmem, by simpa using hne⟩

theorem keys_sorted (m : SortedMap key value) : m.keys.Pairwise (· < ·) :=
  List.pairwise_map.mpr m.sorted

theorem entries_eq_map {f : key -> value} (h : forall e, e ∈ m.entries -> e.2 = f e.1) :
    m.entries = m.keys.map (fun k => (k, f k)) := by
  rw [keys, List.map_map]
  calc
    m.entries = m.entries.map id := (List.map_id _).symm
    _ = m.entries.map ((fun k => (k, f k)) ∘ Prod.fst) :=
      List.map_congr_left (fun e he => Prod.ext rfl (h e he))

variable {m m' : SortedMap key value}

theorem ext (h : m.entries = m'.entries) : m = m' := by
  cases m
  cases m'
  cases h
  rfl

/-!
# Maps of pairs
-/

/-- `std::map::insert` keeps the value of a key that is there. -/
def insertNew (m : SortedMap key value) (e : key × value) : SortedMap key value :=
  if e.1 ∈ m.keys then m else m.set e.1 e.2

def ofPairs (pairs : List (key × value)) : SortedMap key value :=
  pairs.foldl insertNew empty

theorem setEntry_last (h : forall e, e ∈ entries -> e.1 < k) :
    setEntry k v entries = entries ++ [(k, v)] := by
  induction entries with
  | nil => rfl
  | cons e rest ih =>
      have hlt : e.1 < k := h e (by simp)
      unfold setEntry
      rw [if_neg (not_lt.mpr (le_of_lt hlt)), if_neg (ne_of_gt hlt),
        ih (fun e' he' => h e' (List.mem_cons_of_mem e he'))]
      rfl

theorem foldl_insertNew (pairs : List (key × value)) (m : SortedMap key value)
    (h : (m.entries ++ pairs).Pairwise (fun e e' => e.1 < e'.1)) :
    (pairs.foldl insertNew m).entries = m.entries ++ pairs := by
  induction pairs generalizing m with
  | nil => simp
  | cons e rest ih =>
      have hlast : forall e', e' ∈ m.entries -> e'.1 < e.1 := fun e' he' =>
        (List.pairwise_append.mp h).2.2 e' he' e (by simp)
      have hnew : e.1 ∉ m.keys := by
        intro hmem
        rcases List.mem_map.mp hmem with ⟨e', he', hkey⟩
        exact lt_irrefl e.1 (hkey ▸ hlast e' he')
      have hentries : (insertNew m e).entries = m.entries ++ [e] := by
        unfold insertNew
        rw [if_neg hnew]
        exact setEntry_last hlast
      have hrest : ((insertNew m e).entries ++ rest).Pairwise (fun e e' => e.1 < e'.1) := by
        rw [hentries, List.append_assoc]
        exact h
      rw [List.foldl_cons, ih _ hrest, hentries, List.append_assoc]
      rfl

variable {pairs : List (key × value)}

theorem entries_ofPairs
    (h : pairs.Pairwise (fun e e' => e.1 < e'.1)) : (ofPairs pairs).entries = pairs :=
  foldl_insertNew pairs empty h

theorem ofPairs_entries (m : SortedMap key value) : ofPairs m.entries = m :=
  ext (entries_ofPairs m.sorted)

theorem foldl_set (pairs : List (key × value)) (m : SortedMap key value)
    (h : (m.entries ++ pairs).Pairwise (fun e e' => e.1 < e'.1)) :
    (pairs.foldl (fun m e => m.set e.1 e.2) m).entries = m.entries ++ pairs := by
  induction pairs generalizing m with
  | nil => simp
  | cons e rest ih =>
      have hlast : forall e', e' ∈ m.entries -> e'.1 < e.1 := fun e' he' =>
        (List.pairwise_append.mp h).2.2 e' he' e (by simp)
      have hentries : (m.set e.1 e.2).entries = m.entries ++ [e] := setEntry_last hlast
      have hrest : ((m.set e.1 e.2).entries ++ rest).Pairwise (fun e e' => e.1 < e'.1) := by
        rw [hentries, List.append_assoc]
        exact h
      rw [List.foldl_cons, ih _ hrest, hentries, List.append_assoc]
      rfl

theorem foldl_set_entries (m : SortedMap key value) :
    m.entries.foldl (fun m e => m.set e.1 e.2) empty = m :=
  ext (foldl_set m.entries empty m.sorted)

theorem find?_foldl_set_of_notMem (h : k ∉ pairs.map Prod.fst) (m : SortedMap key value) :
    (pairs.foldl (fun m e => m.set e.1 e.2) m).find? k = m.find? k := by
  induction pairs generalizing m with
  | nil => rfl
  | cons e rest ih =>
      rw [List.map_cons, List.mem_cons, not_or] at h
      rw [List.foldl_cons, ih h.2, find?_set_of_ne m e.2 h.1]

theorem find?_foldl_set (hnodup : (pairs.map Prod.fst).Nodup)
    (he : e ∈ pairs) (m : SortedMap key value) :
    (pairs.foldl (fun m e => m.set e.1 e.2) m).find? e.1 = some e.2 := by
  induction pairs generalizing m with
  | nil => cases he
  | cons first rest ih =>
      rw [List.map_cons, List.nodup_cons] at hnodup
      rw [List.foldl_cons]
      rcases List.mem_cons.mp he with heq | hrest
      · rw [heq, find?_foldl_set_of_notMem hnodup.1, find?_set_self]
      · exact ih hnodup.2 hrest _

theorem keys_eq (h : forall k, k ∈ m.keys <-> k ∈ m'.keys) :
    m.keys = m'.keys := by
  have hperm : m.keys.Perm m'.keys :=
    (List.perm_ext_iff_of_nodup (m.keys_sorted.imp ne_of_lt) (m'.keys_sorted.imp ne_of_lt)).mpr h
  exact hperm.eq_of_pairwise (fun _ _ _ _ hab hba => absurd hab (lt_asymm hba))
    m.keys_sorted m'.keys_sorted

theorem ext_values {m' : SortedMap key value} (f : key -> value)
    (hkeys : forall k, k ∈ m.keys <-> k ∈ m'.keys) (h : forall e, e ∈ m.entries -> e.2 = f e.1)
    (h' : forall e, e ∈ m'.entries -> e.2 = f e.1) : m = m' := by
  apply ext
  rw [entries_eq_map h, entries_eq_map h', keys_eq hkeys]

theorem length_entries (m : SortedMap key value) : m.entries.length = m.keys.length :=
  List.length_map Prod.fst |>.symm

theorem length_lt_of_subset (hsub : forall k, k ∈ m.keys -> k ∈ m'.keys) (hk : k ∈ m'.keys)
    (hnot : k ∉ m.keys) : m.keys.length < m'.keys.length := by
  have hnodup : (k :: m.keys).Nodup :=
    List.nodup_cons.mpr ⟨hnot, m.keys_sorted.imp ne_of_lt⟩
  have hsubset : k :: m.keys ⊆ m'.keys := by
    intro k' hk'
    rcases List.mem_cons.mp hk' with heq | hmem
    · rw [heq]
      exact hk
    · exact hsub k' hmem
  exact (hnodup.subperm hsubset).length_le

/-!
# Entries that are kept, values that are changed
-/

def filter (keep : key × value -> Bool) (m : SortedMap key value) : SortedMap key value :=
  ⟨m.entries.filter keep, m.sorted.filter _⟩

def mapValues (f : key -> value -> value) (m : SortedMap key value) : SortedMap key value :=
  ⟨m.entries.map (fun e => (e.1, f e.1 e.2)), List.pairwise_map.mpr m.sorted⟩

theorem mem_of_find? (h : m.find? k = some v) : (k, v) ∈ m.entries := by
  unfold find? at h
  rcases Option.map_eq_some_iff.mp h with ⟨e, he, hv⟩
  have hk : e.1 = k := by simpa using List.find?_some he
  have hmem := List.mem_of_find?_eq_some he
  rw [← hk, ← hv]
  exact hmem

theorem find?_eq_some_iff :
    m.find? k = some v <-> (k, v) ∈ m.entries :=
  ⟨mem_of_find?, fun h => find?_of_mem (e := (k, v)) h⟩

theorem find?_isSome_iff :
    (m.find? k).isSome = true <-> k ∈ m.keys := by
  constructor
  · intro h
    rcases Option.isSome_iff_exists.mp h with ⟨v, hv⟩
    exact find?_some hv
  · intro h
    by_contra hnot
    rw [Option.not_isSome_iff_eq_none] at hnot
    rcases List.mem_map.mp h with ⟨e, he, hk⟩
    rw [← hk, find?_of_mem he] at hnot
    cases hnot

theorem find?_filter (keep : key × value -> Bool) (m : SortedMap key value) (k : key) :
    (m.filter keep).find? k = (m.find? k).filter (fun v => keep (k, v)) := by
  apply Option.ext
  intro v
  rw [find?_eq_some_iff, Option.filter_eq_some_iff, find?_eq_some_iff]
  exact List.mem_filter

theorem find?_mapValues (f : key -> value -> value) (m : SortedMap key value) (k : key) :
    (m.mapValues f).find? k = (m.find? k).map (f k) := by
  unfold find? mapValues
  dsimp only
  generalize m.entries = entries
  induction entries with
  | nil => rfl
  | cons e rest ih =>
      by_cases hk : e.1 = k
      · simp [hk]
      · simpa [hk] using ih

theorem ext_find? (h : forall k, m.find? k = m'.find? k) :
    m = m' := by
  have hkeys : m.keys = m'.keys := by
    apply keys_eq
    intro k
    rw [← find?_isSome_iff, ← find?_isSome_iff, h k]
  have hpairs : forall m : SortedMap key value,
      m.entries.map (fun e => (e.1, some e.2)) = m.keys.map (fun k => (k, m.find? k)) := by
    intro m
    rw [keys, List.map_map]
    apply List.map_congr_left
    intro e he
    simp only [Function.comp_apply]
    rw [find?_of_mem he]
  have hmap : m.entries.map (fun e => (e.1, some e.2)) =
      m'.entries.map (fun e => (e.1, some e.2)) := by
    rw [hpairs, hpairs, hkeys]
    exact List.map_congr_left (fun k _ => by rw [h k])
  apply ext
  refine List.map_injective_iff.mpr ?_ hmap
  rintro ⟨k, v⟩ ⟨k', v'⟩ heq
  cases heq
  rfl

theorem nodup_entries (m : SortedMap key value) : m.entries.Nodup :=
  m.sorted.imp (fun hlt heq => ne_of_lt hlt (congrArg Prod.fst heq))

theorem foldl_set_perm
    (h : pairs.Perm m.entries) : pairs.foldl (fun m e => m.set e.1 e.2) empty = m := by
  apply ext_find?
  intro k
  by_cases hk : k ∈ m.keys
  case pos =>
    rcases List.mem_map.mp hk with ⟨e, he, rfl⟩
    have hnodup : (pairs.map Prod.fst).Nodup :=
      ((h.map Prod.fst).nodup_iff).mpr (m.keys_sorted.imp ne_of_lt)
    rw [find?_of_mem he, find?_foldl_set hnodup (h.mem_iff.mpr he)]
  case neg =>
    have hpairs : k ∉ pairs.map Prod.fst := fun hmem => hk ((h.map Prod.fst).mem_iff.mp hmem)
    rw [find?_foldl_set_of_notMem hpairs, find?_none hk]
    rfl

/-!
# A value for each of some keys
-/

def tabulate (ks : List key) (f : key -> value) : SortedMap key value :=
  ks.foldl (fun m k => m.set k (f k)) empty

theorem find?_foldl_set_keys (ks : List key) (f : key -> value) (m : SortedMap key value)
    (k : key) : (ks.foldl (fun m k => m.set k (f k)) m).find? k =
      if k ∈ ks then some (f k) else m.find? k := by
  induction ks generalizing m with
  | nil => simp
  | cons first rest ih =>
      rw [List.foldl_cons, ih]
      by_cases hrest : k ∈ rest
      · simp [hrest]
      · by_cases hk : k = first
        · simp [hk, find?_set_self]
        · simp [hrest, hk, find?_set_of_ne m (f first) hk]

theorem find?_tabulate (ks : List key) (f : key -> value) (k : key) :
    (tabulate ks f).find? k = if k ∈ ks then some (f k) else none :=
  find?_foldl_set_keys ks f empty k

/-!
# Maps that agree at the visible keys
-/

/-- The same key, and at a visible key the same value. -/
def SimilarEntry (visible : key -> Prop) (e e' : key × value) : Prop :=
  e.1 = e'.1 ∧ (visible e.1 -> e.2 = e'.2)

def Similar (visible : key -> Prop) (m m' : SortedMap key value) : Prop :=
  List.Forall₂ (SimilarEntry visible) m.entries m'.entries

section Similar

variable {visible : key -> Prop} {m m' : SortedMap key value}

theorem similar_empty : Similar visible (empty : SortedMap key value) empty :=
  List.Forall₂.nil

theorem similar_setEntry {v v' : value} {entries entries' : List (key × value)}
    (hentries : List.Forall₂ (SimilarEntry visible) entries entries')
    (hvalue : visible k -> v = v') :
    List.Forall₂ (SimilarEntry visible) (setEntry k v entries)
      (setEntry k v' entries') := by
  induction hentries with
  | nil => exact List.Forall₂.cons ⟨rfl, hvalue⟩ List.Forall₂.nil
  | cons hfirst hrest ih =>
      unfold setEntry
      rw [← hfirst.1]
      split
      · exact List.Forall₂.cons ⟨rfl, hvalue⟩ (List.Forall₂.cons hfirst hrest)
      · split
        · exact List.Forall₂.cons ⟨rfl, hvalue⟩ hrest
        · exact List.Forall₂.cons hfirst ih

theorem Similar.set (h : Similar visible m m') {v v' : value}
    (hvalue : visible k -> v = v') : Similar visible (m.set k v) (m'.set k v') :=
  similar_setEntry h hvalue

theorem Similar.filterKeys (h : Similar visible m m') (keep : key -> Bool) :
    Similar visible (m.filterKeys keep) (m'.filterKeys keep) := by
  change List.Forall₂ (SimilarEntry visible) (m.entries.filter _) (m'.entries.filter _)
  unfold Similar at h
  generalize m.entries = entries at h ⊢
  generalize m'.entries = entries' at h ⊢
  induction h with
  | nil => exact List.Forall₂.nil
  | cons hfirst hrest ih =>
      simp only [List.filter_cons, hfirst.1]
      split
      · exact List.Forall₂.cons hfirst ih
      · exact ih

theorem Similar.eq (h : Similar visible m m')
    (hvisible : forall e, e ∈ m.entries -> visible e.1) : m = m' := by
  apply ext
  unfold Similar at h
  generalize m.entries = entries at h hvisible ⊢
  generalize m'.entries = entries' at h ⊢
  induction h with
  | nil => rfl
  | cons hfirst hrest ih =>
      rename_i e e' rest rest'
      have hvalue := hfirst.2 (hvisible e (by simp))
      rw [Prod.ext hfirst.1 hvalue,
        ih (fun e'' he'' => hvisible e'' (List.mem_cons_of_mem e he''))]

theorem Similar.filterKeys_eq (h : Similar visible m m') {keep : key -> Bool}
    (hkeep : forall k, keep k = true -> visible k) :
    m.filterKeys keep = m'.filterKeys keep := by
  apply (h.filterKeys keep).eq
  intro e he
  exact hkeep e.1 (List.mem_filter.mp he).2

theorem Similar.find?_eq (h : Similar visible m m') (hk : visible k) :
    m.find? k = m'.find? k := by
  unfold find?
  unfold Similar at h
  generalize m.entries = entries at h ⊢
  generalize m'.entries = entries' at h ⊢
  induction h with
  | nil => rfl
  | cons hfirst hrest ih =>
      rename_i e e' rest rest'
      simp only [List.find?_cons, ← hfirst.1]
      by_cases hsame : e.1 = k
      · simp [hsame, hfirst.2 (by rw [hsame]; exact hk)]
      · simpa [hsame] using ih

theorem Similar.keys_eq (h : Similar visible m m') : m.keys = m'.keys := by
  unfold keys
  unfold Similar at h
  generalize m.entries = entries at h ⊢
  generalize m'.entries = entries' at h ⊢
  induction h with
  | nil => rfl
  | cons hfirst hrest ih => simp [hfirst.1, ih]

end Similar

end SortedMap

end Relational
end ServerComponents
