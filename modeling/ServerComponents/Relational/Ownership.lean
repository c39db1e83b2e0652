import Mathlib.Data.List.Nodup
import Mathlib.Data.List.Perm.Basic

/-!
# Rows that hold keys

Every key of one table is held by exactly one row of another one, and every such row holds a
key.  While rows come and go some keys are held by none; they are listed until a row holds
them, or until they go too.
-/

namespace ServerComponents
namespace Relational

variable {key row : Type}

/-- Each key is held by one row and by no second one, or it is loose. -/
structure Owned (keys : List key) (rows : List row) (held : row -> key) (loose : List key) :
    Prop where
  nodup : keys.Nodup
  perm : keys.Perm (rows.map held ++ loose)

namespace Owned

section Rules

variable {keys loose : List key} {rows : List row} {held : row -> key} {r r' : row} {k : key}

theorem nil (held : row -> key) : Owned [] [] held [] :=
  ⟨List.nodup_nil, List.Perm.refl []⟩

theorem nodup_held (h : Owned keys rows held loose) : (rows.map held ++ loose).Nodup :=
  h.perm.nodup_iff.mp h.nodup

theorem held_mem (h : Owned keys rows held loose) (hr : r ∈ rows) : held r ∈ keys :=
  h.perm.mem_iff.mpr (List.mem_append_left loose (List.mem_map_of_mem hr))

theorem loose_mem (h : Owned keys rows held loose) (hk : k ∈ loose) : k ∈ keys :=
  h.perm.mem_iff.mpr (List.mem_append_right _ hk)

theorem held_ne_loose (h : Owned keys rows held loose) (hr : r ∈ rows) (hk : k ∈ loose) :
    held r ≠ k := by
  rcases List.nodup_append.mp h.nodup_held with ⟨_, _, hne⟩
  exact hne (held r) (List.mem_map_of_mem hr) k hk

theorem countP_eq_one [DecidableEq key] (h : Owned keys rows held []) (hk : k ∈ keys) :
    rows.countP (fun r => held r == k) = 1 := by
  have hperm : keys.Perm (rows.map held) := by
    have happend := h.perm
    rwa [List.append_nil] at happend
  have hcount : (rows.map held).count k = 1 :=
    List.count_eq_one_of_mem (hperm.nodup_iff.mp h.nodup) (hperm.mem_iff.mp hk)
  rw [← hcount, List.count, List.countP_map]
  rfl

theorem add_key (h : Owned keys rows held loose) (hk : Not (k ∈ keys)) :
    Owned (keys ++ [k]) rows held (k :: loose) := by
  constructor
  · rw [List.nodup_append]
    refine ⟨h.nodup, List.nodup_singleton k, ?_⟩
    intro a ha b hb heq
    rw [heq, List.mem_singleton.mp hb] at ha
    exact hk ha
  · have hmiddle : (rows.map held ++ k :: loose).Perm (k :: (rows.map held ++ loose)) :=
      List.perm_middle
    exact (List.perm_append_singleton k keys).trans ((h.perm.cons k).trans hmiddle.symm)

theorem add_row (h : Owned keys rows held (held r :: loose)) :
    Owned keys (rows ++ [r]) held loose := by
  refine ⟨h.nodup, ?_⟩
  rw [List.map_append, List.map_singleton, List.append_assoc]
  exact h.perm

theorem of_perm {rows' : List row} (h : Owned keys rows held loose)
    (hrows : (rows'.map held).Perm (rows.map held)) : Owned keys rows' held loose :=
  ⟨h.nodup, h.perm.trans (hrows.symm.append_right loose)⟩

theorem delete_rows (h : Owned keys rows held loose) (sel : row -> Bool) :
    Owned keys (rows.filter (fun r => ! sel r)) held
      ((rows.filter sel).map held ++ loose) := by
  have hsplit : (rows.filter sel ++ rows.filter (fun r => ! sel r)).Perm rows :=
    List.filter_append_perm sel rows
  have hheld := hsplit.map held
  rw [List.map_append] at hheld
  refine ⟨h.nodup, h.perm.trans ?_⟩
  rw [← List.append_assoc]
  exact (hheld.symm.trans List.perm_append_comm).append_right loose

theorem delete_key [DecidableEq key] (h : Owned keys rows held (k :: loose)) :
    Owned (keys.filter (fun k' => ! (k' == k))) rows held loose := by
  refine ⟨h.nodup.filter _, ?_⟩
  have hmiddle : (rows.map held ++ k :: loose).Perm (k :: (rows.map held ++ loose)) :=
    List.perm_middle
  have hperm := h.perm.trans hmiddle
  have hfresh : Not (k ∈ rows.map held ++ loose) :=
    (List.nodup_cons.mp (hperm.nodup_iff.mp h.nodup)).1
  have hfilter := hperm.filter (fun k' => ! (k' == k))
  have hrest : (rows.map held ++ loose).filter (fun k' => ! (k' == k)) =
      rows.map held ++ loose := by
    rw [List.filter_eq_self]
    intro k' hk'
    have hne : k' ≠ k := by
      intro heq
      rw [heq] at hk'
      exact hfresh hk'
    simpa using hne
  rw [List.filter_cons_of_neg (by simp), hrest] at hfilter
  exact hfilter

end Rules

end Owned

end Relational
end ServerComponents
