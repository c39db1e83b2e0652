import ServerComponents.Relational.Table

/-!
# Tables that have lost dead rows

A list is a thinned copy of another when it lacks some of its dead rows and nothing else.
Selections that see no dead row answer alike over both, and writes that touch none keep
the two copies together.
-/

namespace ServerComponents
namespace Relational

variable {row : Type}

inductive Thinned (dead : row -> Prop) : List row -> List row -> Prop
  | nil : Thinned dead [] []
  | keep {r : row} {rows rows' : List row} (h : Thinned dead rows rows') :
      Thinned dead (r :: rows) (r :: rows')
  | drop {r : row} {rows rows' : List row} (hdead : dead r) (h : Thinned dead rows rows') :
      Thinned dead (r :: rows) rows'

variable {sel : row -> Bool}

namespace Thinned

variable {dead dead' : row -> Prop} {rows rows' : List row}

theorem refl (dead : row -> Prop) (rows : List row) : Thinned dead rows rows := by
  induction rows with
  | nil => exact nil
  | cons r rows ih => exact keep ih

theorem mono (h : Thinned dead rows rows') (himp : forall r, dead r -> dead' r) :
    Thinned dead' rows rows' := by
  induction h with
  | nil => exact nil
  | keep _ ih => exact keep ih
  | drop hdead _ ih => exact drop (himp _ hdead) ih

theorem sublist (h : Thinned dead rows rows') : List.Sublist rows' rows := by
  induction h with
  | nil => exact List.Sublist.refl _
  | keep _ ih => exact ih.cons_cons _
  | drop _ _ ih => exact ih.cons _

theorem mem_or_dead (h : Thinned dead rows rows') {r : row} (hr : r ∈ rows) :
    r ∈ rows' ∨ dead r := by
  induction h with
  | nil => cases hr
  | keep _ ih =>
      rcases List.mem_cons.mp hr with hr | hr
      · exact Or.inl (by simp [hr])
      · exact (ih hr).imp (List.mem_cons_of_mem _) id
  | drop hdead _ ih =>
      rcases List.mem_cons.mp hr with hr | hr
      · exact Or.inr (hr ▸ hdead)
      · exact ih hr

theorem append (h : Thinned dead rows rows') (more : List row) :
    Thinned dead (rows ++ more) (rows' ++ more) := by
  induction h with
  | nil => exact refl dead more
  | keep _ ih => exact keep ih
  | drop hdead _ ih => exact drop hdead ih

theorem filter (h : Thinned dead rows rows') (sel : row -> Bool) :
    Thinned dead (rows.filter sel) (rows'.filter sel) := by
  induction h with
  | nil => exact nil
  | @keep r _ _ _ ih =>
      cases hsel : sel r with
      | true =>
          rw [List.filter_cons_of_pos hsel, List.filter_cons_of_pos hsel]
          exact keep ih
      | false =>
          rw [List.filter_cons_of_neg (by simp [hsel]),
            List.filter_cons_of_neg (by simp [hsel])]
          exact ih
  | @drop r _ _ hdead _ ih =>
      cases hsel : sel r with
      | true =>
          rw [List.filter_cons_of_pos hsel]
          exact drop hdead ih
      | false =>
          rw [List.filter_cons_of_neg (by simp [hsel])]
          exact ih

theorem filter_right (h : Thinned dead rows rows') (hsel : forall r, sel r = false -> dead r) :
    Thinned dead rows (rows'.filter sel) := by
  induction h with
  | nil => exact nil
  | @keep r _ _ _ ih =>
      cases hr : sel r with
      | true =>
          rw [List.filter_cons_of_pos hr]
          exact keep ih
      | false =>
          rw [List.filter_cons_of_neg (by simp [hr])]
          exact drop (hsel r hr) ih
  | drop hdead _ ih => exact drop hdead ih

theorem filter_eq (h : Thinned dead rows rows')
    (hsel : forall r, r ∈ rows -> sel r = true -> Not (dead r)) :
    rows.filter sel = rows'.filter sel := by
  induction h with
  | nil => rfl
  | keep _ ih =>
      rw [List.filter_cons, List.filter_cons, ih (fun r hr => hsel r (List.mem_cons_of_mem _ hr))]
  | @drop r _ _ hdead _ ih =>
      have hnot : Not (sel r = true) := fun hr => hsel r List.mem_cons_self hr hdead
      rw [List.filter_cons_of_neg hnot, ih (fun r hr => hsel r (List.mem_cons_of_mem _ hr))]

theorem find?_eq (h : Thinned dead rows rows')
    (hsel : forall r, r ∈ rows -> sel r = true -> Not (dead r)) :
    rows.find? sel = rows'.find? sel := by
  rw [← List.head?_filter, ← List.head?_filter, h.filter_eq hsel]

theorem map (h : Thinned dead rows rows') {f : row -> row}
    (hf : forall r, r ∈ rows -> dead r -> dead (f r)) :
    Thinned dead (rows.map f) (rows'.map f) := by
  induction h with
  | nil => exact nil
  | keep _ ih => exact keep (ih (fun r hr => hf r (List.mem_cons_of_mem _ hr)))
  | drop hdead _ ih =>
      exact drop (hf _ List.mem_cons_self hdead)
        (ih (fun r hr => hf r (List.mem_cons_of_mem _ hr)))

theorem pairwise {related : row -> row -> Prop} (h : Thinned dead rows rows')
    (hleft : rows'.Pairwise related)
    (hdead : rows.Pairwise (fun r r' => dead r ∨ dead r' -> related r r')) :
    rows.Pairwise related := by
  induction h with
  | nil => exact hleft
  | @keep r rows rows' hrest ih =>
      rcases List.pairwise_cons.mp hleft with ⟨hfirst, hleft⟩
      rcases List.pairwise_cons.mp hdead with ⟨hfirst', hdead⟩
      refine List.pairwise_cons.mpr ⟨?_, ih hleft hdead⟩
      intro r' hr'
      rcases hrest.mem_or_dead hr' with hr' | hdead'
      · exact hfirst r' hr'
      · exact hfirst' r' hr' (Or.inr hdead')
  | drop hr hrest ih =>
      rcases List.pairwise_cons.mp hdead with ⟨hfirst, hdead⟩
      exact List.pairwise_cons.mpr ⟨fun r' hr' => hfirst r' hr' (Or.inl hr), ih hleft hdead⟩

end Thinned

/-!
# The statements of a table
-/

section Tables

variable {clash : row -> row -> Prop} {id : row -> Nat} {dead : row -> Prop}
  {t t' : Table row clash}

/-- The copy of a table without some dead rows.  The keys of the table are drawn from its
counter, which both share. -/
structure ThinnedTable (id : row -> Nat) (dead : row -> Prop) (t t' : Table row clash) :
    Prop where
  rows : Thinned dead t.rows t'.rows
  nextId : t'.nextId = t.nextId
  serial : forall r, r ∈ t.rows -> id r < t.nextId

namespace ThinnedTable

theorem refl (hserial : forall r, r ∈ t.rows -> id r < t.nextId) :
    ThinnedTable id dead t t :=
  ⟨Thinned.refl dead t.rows, rfl, hserial⟩

theorem mono {dead' : row -> Prop} (h : ThinnedTable id dead t t')
    (himp : forall r, dead r -> dead' r) : ThinnedTable id dead' t t' :=
  ⟨h.rows.mono himp, h.nextId, h.serial⟩

theorem delete (h : ThinnedTable id dead t t') (sel : row -> Bool) :
    ThinnedTable id dead (t.delete sel) (t'.delete sel) :=
  ⟨h.rows.filter _, h.nextId, fun r hr => h.serial r (List.mem_filter.mp hr).1⟩

theorem delete_right (h : ThinnedTable id dead t t')
    (hsel : forall r, sel r = true -> dead r) : ThinnedTable id dead t (t'.delete sel) := by
  refine ⟨h.rows.filter_right ?_, h.nextId, h.serial⟩
  intro r hr
  exact hsel r (by simpa using hr)

variable [DecidableRel clash]

theorem insert? (h : ThinnedTable id dead t t') {make : Nat -> row}
    (hid : forall n, id (make n) = n)
    (hdead : forall r, r ∈ t.rows -> dead r -> Not (clash r (make t.nextId))) :
    (t.insert? make = none ∧ t'.insert? make = none) ∨
      exists table table', t.insert? make = some (make t.nextId, table) ∧
        t'.insert? make = some (make t.nextId, table') ∧ ThinnedTable id dead table table' ∧
        table.rows = t.rows ++ [make t.nextId] ∧
        table'.rows = t'.rows ++ [make t.nextId] := by
  have hiff : (t.rows ++ [make t.nextId]).Pairwise (fun r r' => Not (clash r r')) <->
      (t'.rows ++ [make t.nextId]).Pairwise (fun r r' => Not (clash r r')) := by
    constructor
    · intro hpairwise
      exact hpairwise.sublist (h.rows.append _).sublist
    · intro hpairwise
      rw [List.pairwise_append] at hpairwise ⊢
      refine ⟨t.noClash, List.pairwise_singleton _ _, ?_⟩
      intro r hr r' hr'
      rcases h.rows.mem_or_dead hr with hleft | hr''
      · exact hpairwise.2.2 r hleft r' hr'
      · rw [List.mem_singleton.mp hr']
        exact hdead r hr hr''
  unfold Table.insert?
  rw [h.nextId]
  by_cases hpairwise : (t.rows ++ [make t.nextId]).Pairwise (fun r r' => Not (clash r r'))
  · right
    rw [dif_pos hpairwise, dif_pos (hiff.mp hpairwise)]
    refine ⟨_, _, rfl, rfl, ⟨h.rows.append _, rfl, ?_⟩, rfl, rfl⟩
    intro r hr
    show id r < t.nextId + 1
    rcases List.mem_append.mp hr with hr | hr
    · exact Nat.lt_succ_of_lt (h.serial r hr)
    · rw [List.mem_singleton.mp hr, hid]
      exact Nat.lt_succ_self _
  · left
    rw [dif_neg hpairwise, dif_neg (fun h' => hpairwise (hiff.mpr h'))]
    exact ⟨rfl, rfl⟩

omit [DecidableRel clash] in
theorem map (h : ThinnedTable id dead t t') {table table' : Table row clash}
    {f : row -> row} (hid : forall r, id (f r) = id r)
    (hf : forall r, r ∈ t.rows -> dead r -> dead (f r)) (hrows : table.rows = t.rows.map f)
    (hnextId : table.nextId = t.nextId) (hrows' : table'.rows = t'.rows.map f)
    (hnextId' : table'.nextId = t'.nextId) : ThinnedTable id dead table table' := by
  refine ⟨?_, ?_, ?_⟩
  · rw [hrows, hrows']
    exact h.rows.map hf
  · rw [hnextId, hnextId', h.nextId]
  · intro r hr
    rw [hrows] at hr
    rcases List.mem_map.mp hr with ⟨r0, hr0, hr⟩
    rw [← hr, hid, hnextId]
    exact h.serial r0 hr0

/-- An update that selects no dead row, and makes no row clash with one, succeeds in both
or in neither. -/
theorem update? (h : ThinnedTable id dead t t') {change : row -> row}
    (hid : forall r, id (change r) = id r)
    (hsel : forall r, r ∈ t.rows -> sel r = true -> Not (dead r))
    (hclash : forall r r', r ∈ t.rows -> r' ∈ t.rows -> sel r = true -> dead r' ->
      Not (clash (change r) r') ∧ Not (clash r' (change r))) :
    (t.update? sel change = none ∧ t'.update? sel change = none) ∨
      exists changed table table', t.update? sel change = some (changed, table) ∧
        t'.update? sel change = some (changed, table') ∧
        ThinnedTable id dead table table' := by
  have hfixed : forall r, r ∈ t.rows -> dead r -> (if sel r then change r else r) = r := by
    intro r hmem hr
    rw [if_neg (fun hsel' => hsel r hmem hsel' hr)]
  have hrows : Thinned dead (t.rows.map (fun r => if sel r then change r else r))
      (t'.rows.map (fun r => if sel r then change r else r)) := by
    apply h.rows.map
    intro r hmem hr
    rw [hfixed r hmem hr]
    exact hr
  have hiff : (t.rows.map (fun r => if sel r then change r else r)).Pairwise
        (fun r r' => Not (clash r r')) <->
      (t'.rows.map (fun r => if sel r then change r else r)).Pairwise
        (fun r r' => Not (clash r r')) := by
    constructor
    · intro hpairwise
      exact hpairwise.sublist hrows.sublist
    · intro hpairwise
      rw [List.pairwise_map] at hpairwise ⊢
      apply h.rows.pairwise hpairwise
      apply t.noClash.imp_of_mem
      intro r r' hr hr' hnot hdead
      by_cases hselr : sel r = true
      · have hr'dead : dead r' := hdead.resolve_left (hsel r hr hselr)
        rw [if_pos hselr, hfixed r' hr' hr'dead]
        exact (hclash r r' hr hr' hselr hr'dead).1
      · rw [if_neg hselr]
        by_cases hselr' : sel r' = true
        · have hrdead : dead r := hdead.resolve_right (hsel r' hr' hselr')
          rw [if_pos hselr']
          exact (hclash r' r hr' hr hselr' hrdead).2
        · rw [if_neg hselr']
          exact hnot
  unfold Table.update?
  by_cases hpairwise : (t.rows.map (fun r => if sel r then change r else r)).Pairwise
      (fun r r' => Not (clash r r'))
  · right
    rw [dif_pos hpairwise, dif_pos (hiff.mp hpairwise), h.rows.filter_eq hsel]
    refine ⟨_, _, _, rfl, rfl, h.map ?_ ?_ rfl rfl rfl rfl⟩
    · intro r
      split
      · exact hid r
      · rfl
    · intro r hmem hr
      rw [hfixed r hmem hr]
      exact hr
  · left
    rw [dif_neg hpairwise, dif_neg (fun h' => hpairwise (hiff.mpr h'))]
    exact ⟨rfl, rfl⟩

omit [DecidableRel clash] in
theorem find?_eq (h : ThinnedTable id dead t t')
    (hsel : forall r, r ∈ t.rows -> sel r = true -> Not (dead r)) :
    t.find? sel = t'.find? sel :=
  h.rows.find?_eq hsel

end ThinnedTable

end Tables

end Relational
end ServerComponents
