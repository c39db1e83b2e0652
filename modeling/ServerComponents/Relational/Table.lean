import Mathlib.Data.List.Find
import Mathlib.Data.List.Pairwise

/-!
# Tables with uniqueness constraints

A table is a list of rows no two of which clash.  The clash relation of a
table collects its primary key and its unique constraints, so a table that
breaks a constraint cannot be built, and a statement that would break one
fails.
-/

namespace ServerComponents
namespace Relational

structure Table (row : Type) (clash : row -> row -> Prop) where
  rows : List row
  nextId : Nat
  noClash : rows.Pairwise (fun r r' => Not (clash r r'))
  deriving DecidableEq

namespace Table

variable {row : Type} {clash : row -> row -> Prop} [DecidableRel clash]

def empty : Table row clash where
  rows := []
  nextId := 1
  noClash := List.Pairwise.nil

/-- `INSERT ... RETURNING`: the new row is made from the next primary key. -/
def insert? (t : Table row clash) (make : Nat -> row) :
    Option (row × Table row clash) :=
  if h : (t.rows ++ [make t.nextId]).Pairwise (fun r r' => Not (clash r r')) then
    some (make t.nextId,
      { rows := t.rows ++ [make t.nextId], nextId := t.nextId + 1, noClash := h })
  else
    none

/-- `UPDATE ... WHERE ... RETURNING`, with the rewritten rows as the answer. -/
def update? (t : Table row clash) (sel : row -> Bool) (change : row -> row) :
    Option (List row × Table row clash) :=
  if h : (t.rows.map (fun r => if sel r then change r else r)).Pairwise
      (fun r r' => Not (clash r r')) then
    some ((t.rows.filter sel).map change,
      { rows := t.rows.map (fun r => if sel r then change r else r)
        nextId := t.nextId, noClash := h })
  else
    none

/-- `DELETE ... WHERE`. -/
def delete (t : Table row clash) (sel : row -> Bool) : Table row clash where
  rows := t.rows.filter (fun r => ! sel r)
  nextId := t.nextId
  noClash := t.noClash.filter (fun r => ! sel r)

/-- `SELECT ... WHERE` of at most one row. -/
def find? (t : Table row clash) (sel : row -> Bool) : Option row :=
  t.rows.find? sel

variable {t : Table row clash}

omit [DecidableRel clash] in
theorem eq_of_clash (hsymm : forall {r r'}, clash r r' -> clash r' r)
    {r r' : row} (hr : r ∈ t.rows) (hr' : r' ∈ t.rows) (hclash : clash r r') : r = r' := by
  have : Std.Symm (fun r r' => Not (clash r r')) :=
    ⟨fun _ _ hnot hc => hnot (hsymm hc)⟩
  by_contra hne
  exact t.noClash.forall hr hr' hne hclash

variable {t t' : Table row clash}

theorem insert?_some {make : Nat -> row} {r : row} (hinsert : t.insert? make = some (r, t')) :
    r = make t.nextId ∧ t'.rows = t.rows ++ [r] ∧ t'.nextId = t.nextId + 1 := by
  unfold insert? at hinsert
  split at hinsert
  · cases hinsert
    exact ⟨rfl, rfl, rfl⟩
  · cases hinsert

theorem insert?_isSome_iff (t : Table row clash) (make : Nat -> row) :
    (t.insert? make).isSome = true <-> forall r, r ∈ t.rows -> Not (clash r (make t.nextId)) := by
  have hpairwise : (t.rows ++ [make t.nextId]).Pairwise (fun r r' => Not (clash r r')) <->
      forall r, r ∈ t.rows -> Not (clash r (make t.nextId)) := by
    rw [List.pairwise_append]
    constructor
    · intro h r hr
      exact h.2.2 r hr _ (List.mem_singleton_self _)
    · intro h
      refine ⟨t.noClash, List.pairwise_singleton _ _, ?_⟩
      intro r hr r' hr'
      rw [List.mem_singleton.mp hr']
      exact h r hr
  unfold insert?
  split
  · rename_i hclash
    simpa using hpairwise.mp hclash
  · rename_i hclash
    simpa using fun h => hclash (hpairwise.mpr h)

variable {sel : row -> Bool}

theorem update?_some {change : row -> row} {changed : List row}
    (hupdate : t.update? sel change = some (changed, t')) :
    changed = (t.rows.filter sel).map change ∧
      t'.rows = t.rows.map (fun r => if sel r then change r else r) ∧
      t'.nextId = t.nextId := by
  unfold update? at hupdate
  split at hupdate
  · cases hupdate
    exact ⟨rfl, rfl, rfl⟩
  · cases hupdate

/-- Rewriting rows so that no two of them newly clash cannot fail. -/
theorem update?_isSome (sel : row -> Bool) (change : row -> row)
    (hkeep : forall r r', r ∈ t.rows -> r' ∈ t.rows ->
      clash (if sel r then change r else r) (if sel r' then change r' else r') ->
        clash r r') :
    exists changed t', t.update? sel change = some (changed, t') := by
  have hpairwise : (t.rows.map (fun r => if sel r then change r else r)).Pairwise
      (fun r r' => Not (clash r r')) := by
    rw [List.pairwise_map]
    exact t.noClash.imp_of_mem
      (fun hr hr' hnot hc => hnot (hkeep _ _ hr hr' hc))
  unfold update?
  rw [dif_pos hpairwise]
  exact ⟨_, _, rfl⟩

theorem mem_update? {change : row -> row} {changed : List row}
    (hupdate : t.update? sel change = some (changed, t')) (r : row) :
    r ∈ t'.rows <->
      (r ∈ t.rows ∧ sel r = false) ∨
        exists r0, r0 ∈ t.rows ∧ sel r0 = true ∧ change r0 = r := by
  rw [(update?_some hupdate).2.1, List.mem_map]
  constructor
  · intro h
    rcases h with ⟨r0, hmem, hr⟩
    cases hsel : sel r0 with
    | true => exact Or.inr ⟨r0, hmem, hsel, by simpa [hsel] using hr⟩
    | false =>
        have hr0 : r0 = r := by simpa [hsel] using hr
        exact Or.inl ⟨hr0 ▸ hmem, hr0 ▸ hsel⟩
  · intro h
    rcases h with ⟨hmem, hsel⟩ | ⟨r0, hmem, hsel, hr⟩
    · exact ⟨r, hmem, by simp [hsel]⟩
    · exact ⟨r0, hmem, by simp [hsel, hr]⟩

omit [DecidableRel clash] in
theorem eq_of_rows (hrows : t.rows = t'.rows) (hnextId : t.nextId = t'.nextId) : t = t' := by
  cases t
  cases t'
  simp only at hrows hnextId
  simp [hrows, hnextId]

omit [DecidableRel clash] in
@[simp] theorem mem_delete (t : Table row clash) (sel : row -> Bool) (r : row) :
    r ∈ (t.delete sel).rows <-> r ∈ t.rows ∧ sel r = false := by
  simp [delete]

omit [DecidableRel clash] in
theorem find?_some {r : row} (hfind : t.find? sel = some r) : r ∈ t.rows ∧ sel r = true :=
  ⟨List.mem_of_find?_eq_some hfind, List.find?_some hfind⟩

omit [DecidableRel clash] in
theorem find?_map {change : row -> row} (hrows : t'.rows = t.rows.map change)
    (hsel : forall r, r ∈ t.rows -> sel (change r) = sel r) :
    t'.find? sel = (t.find? sel).map change := by
  unfold find?
  rw [hrows, List.find?_map]
  congr 1
  exact List.find?_congr hsel

omit [DecidableRel clash] in
theorem find?_none (hfind : t.find? sel = none) {r : row} (hr : r ∈ t.rows) : sel r = false := by
  have h := List.find?_eq_none.mp hfind r hr
  simpa using h

omit [DecidableRel clash] in
theorem delete_of_none (h : forall r, r ∈ t.rows -> sel r = false) : t.delete sel = t := by
  apply eq_of_rows
  · rw [delete, List.filter_eq_self]
    intro r hr
    rw [h r hr]
    rfl
  · rfl

omit [DecidableRel clash] in
theorem filter_eq_singleton {r : row}
    (hclash : forall r r', sel r = true -> sel r' = true -> clash r r')
    (hfind : t.find? sel = some r) : t.rows.filter sel = [r] := by
  rcases find?_some hfind with ⟨hmem, hsel⟩
  have hr : r ∈ t.rows.filter sel := List.mem_filter.mpr ⟨hmem, hsel⟩
  have hpairwise : (t.rows.filter sel).Pairwise (fun r r' => Not (clash r r')) :=
    t.noClash.filter sel
  have hselected : forall r', r' ∈ t.rows.filter sel -> sel r' = true :=
    fun r' hr' => (List.mem_filter.mp hr').2
  rcases hrows : t.rows.filter sel with _ | ⟨a, _ | ⟨b, rest⟩⟩
  · rw [hrows] at hr
    cases hr
  · rw [hrows] at hr
    rw [List.mem_singleton.mp hr]
  · rw [hrows] at hpairwise hselected
    have hnot := (List.pairwise_cons.mp hpairwise).1 b List.mem_cons_self
    exact absurd (hclash a b (hselected a List.mem_cons_self)
      (hselected b (List.mem_cons_of_mem a List.mem_cons_self))) hnot

end Table

end Relational
end ServerComponents
