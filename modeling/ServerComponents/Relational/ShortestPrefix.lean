import Mathlib.Data.List.Sort

/-!
# Shortest prefixes of an order

Rows are taken one at a time, the smallest first, until enough is left off or nothing is
left.  What enough is depends on the rows that are left, in whatever order.
-/

namespace ServerComponents
namespace Relational

variable {row : Type} {le : row -> row -> Prop} {enough : List row -> Prop}

/-- The rows that are taken stand first in an order of all rows, and with one row less
taken there is not enough. -/
structure ShortestPrefix (le : row -> row -> Prop) (enough : List row -> Prop)
    (rows taken kept : List row) : Prop where
  perm : (taken ++ kept).Perm rows
  sorted : (taken ++ kept).Pairwise le
  settled : enough kept ∨ kept = []
  shortest : forall pre post, taken = pre ++ post -> post ≠ [] -> Not (enough (post ++ kept))

namespace ShortestPrefix

theorem stop [DecidableRel le] [Std.Total le] [IsTrans row le]
    (henough : forall rows rows' : List row, rows.Perm rows' -> enough rows -> enough rows')
    {rows : List row} (h : enough rows ∨ rows = []) :
    ShortestPrefix le enough rows [] (rows.insertionSort le) where
  perm := List.perm_insertionSort le rows
  sorted := List.pairwise_insertionSort le rows
  settled := by
    cases h with
    | inl h => exact Or.inl (henough _ _ (List.perm_insertionSort le rows).symm h)
    | inr h =>
        rw [h]
        exact Or.inr rfl
  shortest := by
    intro pre post hnil hpost
    exact absurd (List.append_eq_nil_iff.mp hnil.symm).2 hpost

theorem cons (henough : forall rows rows' : List row, rows.Perm rows' -> enough rows ->
      enough rows') {r : row} {rows rest taken kept : List row} (hrows : (r :: rest).Perm rows)
    (hleast : forall r', r' ∈ rest -> le r r') (hmore : Not (enough rows))
    (h : ShortestPrefix le enough rest taken kept) :
    ShortestPrefix le enough rows (r :: taken) kept where
  perm := (h.perm.cons r).trans hrows
  sorted := by
    rw [List.cons_append, List.pairwise_cons]
    exact ⟨fun r' hr' => hleast r' (h.perm.mem_iff.mp hr'), h.sorted⟩
  settled := h.settled
  shortest := by
    intro pre post htaken hpost hless
    cases pre with
    | nil =>
        rw [List.nil_append] at htaken
        rw [← htaken] at hless
        exact hmore (henough _ _ ((h.perm.cons r).trans hrows) hless)
    | cons r' pre =>
        exact h.shortest pre post (List.cons.inj htaken).2 hpost hless

theorem mem_of_kept {rows taken kept : List row} (h : ShortestPrefix le enough rows taken kept)
    {r : row} (hr : r ∈ kept) : r ∈ rows :=
  h.perm.mem_iff.mp (List.mem_append_right taken hr)

theorem congr {enough' : List row -> Prop} {rows taken kept : List row}
    (h : ShortestPrefix le enough rows taken kept)
    (hsame : forall some : List row, (forall r, r ∈ some -> r ∈ rows) ->
      (enough some <-> enough' some)) :
    ShortestPrefix le enough' rows taken kept where
  perm := h.perm
  sorted := h.sorted
  settled := h.settled.imp (hsame kept (fun _ hr => h.mem_of_kept hr)).mp id
  shortest := by
    intro pre post htaken hpost hless
    apply h.shortest pre post htaken hpost
    apply (hsame _ _).mpr hless
    intro r hr
    apply h.perm.mem_iff.mp
    rw [htaken, List.append_assoc]
    exact List.mem_append_right pre hr

end ShortestPrefix

end Relational
end ServerComponents
