import ServerComponents.Basics

/-!
# Pages of an order with ties

A list is read in pages of `p` rows, every page from an arrangement of its own.  The
arrangements agree up to the rows that the order does not tell apart.  Whether the pages
make up the list again depends on where the boundaries of pages fall between such rows.
-/

namespace ServerComponents
namespace Relational

structure RowOrder (a : Type) where
  le : a -> a -> Bool
  total : forall x y, le x y = true ∨ le y x = true
  trans : forall x y z, le x y = true -> le y z = true -> le x z = true

namespace RowOrder

variable {a b : Type} (order : RowOrder a)

theorem refl (x : a) : order.le x x = true := (order.total x x).elim id id

def reversed : RowOrder a where
  le := fun x y => order.le y x
  total := fun x y => order.total y x
  trans := fun x y z hxy hyz => order.trans z y x hyz hxy

/-- Rows ordered by what one of their columns holds. -/
def on {row : Type} (cell : row -> a) : RowOrder row where
  le := fun x y => order.le (cell x) (cell y)
  total := fun x y => order.total (cell x) (cell y)
  trans := fun x y z hxy hyz => order.trans (cell x) (cell y) (cell z) hxy hyz

def Tied (x y : a) : Prop := order.le x y = true ∧ order.le y x = true

theorem tied_refl (x : a) : order.Tied x x := ⟨order.refl x, order.refl x⟩

structure Arranges (rows arranged : List a) : Prop where
  perm : arranged.Perm rows
  sorted : arranged.Pairwise (fun x y => order.le x y = true)

/-- How many rows come before all those tied with this one. -/
def before (x : a) (rows : List a) : Nat := rows.countP (fun y => !order.le x y)

/-- How many rows come before the first one that is after this one. -/
def upTo (x : a) (rows : List a) : Nat := rows.countP (fun y => order.le y x)

/-- The boundary lies between two rows that are tied with this one. -/
def Splits (rows : List a) (boundary : Nat) (x : a) : Prop :=
  order.before x rows < boundary ∧ boundary < order.upTo x rows

/-- The boundary lies between no two rows that are tied and look different. -/
def Unsplit (shown : a -> b) (rows : List a) (boundary : Nat) : Prop :=
  forall x y, x ∈ rows -> y ∈ rows -> order.Tied x y -> shown x ≠ shown y ->
    Not (order.Splits rows boundary x)

theorem exists_arranges (rows : List a) : exists arranged, order.Arranges rows arranged := by
  refine ⟨rows.mergeSort order.le, List.mergeSort_perm rows order.le, ?_⟩
  apply List.pairwise_mergeSort
  · exact order.trans
  · intro x y
    simpa using order.total x y

/-!
# Sorted lists
-/

theorem filter_append_of_closed {arranged : List a} {low : a -> Bool}
    (hsorted : arranged.Pairwise (fun x y => order.le x y = true))
    (hlow : forall x y, order.le x y = true -> low y = true -> low x = true) :
    arranged.filter low ++ arranged.filter (fun x => !low x) = arranged := by
  induction arranged with
  | nil => rfl
  | cons x rest ih =>
      rcases List.pairwise_cons.mp hsorted with ⟨hfirst, hrest⟩
      cases hx : low x with
      | true =>
          rw [List.filter_cons_of_pos hx, List.filter_cons_of_neg (by simp [hx]),
            List.cons_append, ih hrest]
      | false =>
          have hnone : forall y, y ∈ x :: rest -> Not (low y = true) := by
            intro y hy hlowy
            have hxlow : low x = true := by
              rcases List.mem_cons.mp hy with rfl | hy
              · exact hlowy
              · exact hlow x y (hfirst y hy) hlowy
            rw [hx] at hxlow
            cases hxlow
          rw [List.filter_eq_nil_iff.mpr hnone, List.nil_append]
          apply List.filter_eq_self.mpr
          intro y hy
          simpa using hnone y hy

theorem take_count_of_closed {rows arranged : List a} {low : a -> Bool}
    (h : order.Arranges rows arranged)
    (hlow : forall x y, order.le x y = true -> low y = true -> low x = true) :
    arranged.take (rows.countP low) = arranged.filter low ∧
      arranged.drop (rows.countP low) = arranged.filter (fun x => !low x) := by
  have hlength : rows.countP low = (arranged.filter low).length := by
    rw [← List.countP_eq_length_filter, h.perm.countP_eq]
  have hparts := order.filter_append_of_closed h.sorted hlow
  generalize arranged.filter low = front at hlength hparts
  generalize arranged.filter (fun x => !low x) = back at hparts
  rw [hlength, ← hparts]
  exact ⟨List.take_left, List.drop_left⟩

theorem closed_before (x : a) : forall y z, order.le y z = true -> (!order.le x z) = true ->
    (!order.le x y) = true := by
  intro y z hyz hz
  have hxz : order.le x z = false := by simpa using hz
  cases hxy : order.le x y with
  | false => rfl
  | true =>
      rw [order.trans x y z hxy hyz] at hxz
      cases hxz

theorem closed_upTo (x : a) : forall y z, order.le y z = true -> order.le z x = true ->
    order.le y x = true :=
  fun y z hyz hzx => order.trans y z x hyz hzx

variable {rows arranged arranged' : List a}

theorem take_before (h : order.Arranges rows arranged) (x : a) :
    arranged.take (order.before x rows) = arranged.filter (fun y => !order.le x y) :=
  (order.take_count_of_closed h (order.closed_before x)).1

theorem le_of_mem_drop_before (h : order.Arranges rows arranged) {x y : a}
    (hy : y ∈ arranged.drop (order.before x rows)) : order.le x y = true := by
  have hdrop := (order.take_count_of_closed h (order.closed_before x)).2
  rw [show order.before x rows = rows.countP (fun z => !order.le x z) from rfl, hdrop] at hy
  simpa using (List.mem_filter.mp hy).2

theorem le_of_mem_take_upTo (h : order.Arranges rows arranged) {x y : a}
    (hy : y ∈ arranged.take (order.upTo x rows)) : order.le y x = true := by
  have htake := (order.take_count_of_closed h (order.closed_upTo x)).1
  rw [show order.upTo x rows = rows.countP (fun z => order.le z x) from rfl, htake] at hy
  exact (List.mem_filter.mp hy).2

theorem not_le_of_mem_drop_upTo (h : order.Arranges rows arranged) {x y : a}
    (hy : y ∈ arranged.drop (order.upTo x rows)) : order.le y x = false := by
  have hdrop := (order.take_count_of_closed h (order.closed_upTo x)).2
  rw [show order.upTo x rows = rows.countP (fun z => order.le z x) from rfl, hdrop] at hy
  simpa using (List.mem_filter.mp hy).2

theorem position_between (h : order.Arranges rows arranged) {i : Nat} {x y : a}
    (hy : arranged[i]? = some y) (htied : order.Tied x y) :
    order.before x rows ≤ i ∧ i < order.upTo x rows := by
  constructor
  · apply Nat.le_of_not_lt
    intro hlt
    have hget : (arranged.take (order.before x rows))[i]? = some y := by
      rw [List.getElem?_take_of_lt hlt, hy]
    have hmem := List.mem_of_getElem? hget
    rw [order.take_before h] at hmem
    have hnot := (List.mem_filter.mp hmem).2
    rw [htied.1] at hnot
    cases hnot
  · apply Nat.lt_of_not_le
    intro hge
    have hget : (arranged.drop (order.upTo x rows))[i - order.upTo x rows]? = some y := by
      rw [List.getElem?_drop, Nat.add_sub_cancel' hge, hy]
    have hnot := order.not_le_of_mem_drop_upTo h (List.mem_of_getElem? hget)
    rw [htied.2] at hnot
    cases hnot

theorem perm_take {shown : a -> b} {boundary : Nat} (hunsplit : order.Unsplit shown rows boundary)
    (h : order.Arranges rows arranged) (h' : order.Arranges rows arranged') :
    ((arranged.take boundary).map shown).Perm ((arranged'.take boundary).map shown) := by
  have hperm : arranged.Perm arranged' := h.perm.trans h'.perm.symm
  cases hx : arranged[boundary]? with
  | none =>
      have hlength : arranged.length ≤ boundary := List.getElem?_eq_none_iff.mp hx
      rw [List.take_of_length_le hlength, List.take_of_length_le (hperm.length_eq ▸ hlength)]
      exact hperm.map shown
  | some x =>
      rcases order.position_between h hx (order.tied_refl x) with ⟨hbefore, hupTo⟩
      have hfirst : (arranged.take (order.before x rows)).Perm
          (arranged'.take (order.before x rows)) := by
        rw [order.take_before h, order.take_before h']
        exact hperm.filter _
      have hmem : x ∈ rows := h.perm.mem_iff.mp (List.mem_of_getElem? hx)
      -- What stands between the first tied row and the boundary looks like `x`.
      have htied : forall sorted, order.Arranges rows sorted ->
          ((sorted.drop (order.before x rows)).take (boundary - order.before x rows)).map shown =
            List.replicate (boundary - order.before x rows) (shown x) := by
        intro sorted hsorted
        apply List.eq_replicate_iff.mpr
        constructor
        · rw [List.length_map, List.length_take, List.length_drop, hsorted.perm.length_eq,
            ← h.perm.length_eq]
          have := (List.getElem?_eq_some_iff.mp hx).1
          omega
        · intro value hvalue
          rcases List.mem_map.mp hvalue with ⟨y, hy, rfl⟩
          have hge := order.le_of_mem_drop_before hsorted (List.mem_of_mem_take hy)
          have hle : order.le y x = true := by
            apply order.le_of_mem_take_upTo hsorted
            rw [← List.drop_take] at hy
            exact List.take_subset_take_left _ (by omega) (List.mem_of_mem_drop hy)
          have hrow : y ∈ rows := hsorted.perm.mem_iff.mp
            (List.mem_of_mem_drop (List.mem_of_mem_take hy))
          apply Classical.byContradiction
          intro hne
          have hlt : Not (order.before x rows = boundary) := by
            intro heq
            rw [heq, Nat.sub_self, List.take_zero] at hy
            exact List.not_mem_nil hy
          exact hunsplit x y hmem hrow ⟨hge, hle⟩ (fun heq => hne heq.symm)
            ⟨by omega, hupTo⟩
      have hsplit : forall sorted : List a, sorted.take boundary =
          sorted.take (order.before x rows) ++
            (sorted.drop (order.before x rows)).take (boundary - order.before x rows) := by
        intro sorted
        rw [← List.take_add, Nat.add_sub_cancel' hbefore]
      rw [hsplit arranged, hsplit arranged', List.map_append, List.map_append,
        htied arranged h, htied arranged' h']
      exact (hfirst.map shown).append_right _

/-!
# Pages
-/

/-- The first `m` pages of `p` rows, page `k` from the arrangement `k`. -/
def pages (arrangements : Nat -> List a) (p m : Nat) : List a :=
  (List.range m).flatMap (fun k => ((arrangements k).drop (k * p)).take p)

omit order in
theorem pages_succ (arrangements : Nat -> List a) (p m : Nat) :
    pages arrangements p (m + 1) =
      pages arrangements p m ++ ((arrangements m).drop (m * p)).take p := by
  unfold pages
  rw [List.range_succ, List.flatMap_append, List.flatMap_singleton]

omit order in
theorem take_page (l : List a) (p m : Nat) :
    l.take ((m + 1) * p) = l.take (m * p) ++ (l.drop (m * p)).take p := by
  rw [← List.take_add, Nat.succ_mul]

theorem perm_pages {shown : a -> b} {p m : Nat} {arrangements : Nat -> List a}
    (hunsplit : forall k, order.Unsplit shown rows (k * p))
    (harranges : forall k, order.Arranges rows (arrangements k))
    (h : order.Arranges rows arranged) :
    ((pages arrangements p m).map shown).Perm ((arranged.take (m * p)).map shown) := by
  induction m with
  | zero => simp [pages]
  | succ m ih =>
      have hfirst : ((pages arrangements p m).map shown).Perm
          (((arrangements m).take (m * p)).map shown) :=
        ih.trans (order.perm_take (hunsplit m) h (harranges m))
      calc
        ((pages arrangements p (m + 1)).map shown).Perm
            (((arrangements m).take ((m + 1) * p)).map shown) := by
          rw [pages_succ, take_page, List.map_append, List.map_append]
          exact hfirst.append_right _
        List.Perm _ ((arranged.take ((m + 1) * p)).map shown) :=
          order.perm_take (hunsplit (m + 1)) (harranges m) h

omit order in
theorem pages_switch {first second : List a} (p k m : Nat) (hm : k ≤ m) :
    pages (fun i => if i < k then first else second) p m =
      first.take (k * p) ++ (second.drop (k * p)).take ((m - k) * p) := by
  have hfirst : forall n, n ≤ k ->
      pages (fun i => if i < k then first else second) p n = first.take (n * p) := by
    intro n hn
    induction n with
    | zero => simp [pages]
    | succ n ih => rw [pages_succ, ih (by omega), if_pos (by omega), take_page]
  induction m with
  | zero =>
      have hk : k = 0 := by omega
      subst hk
      simp [pages]
  | succ m ih =>
      rcases Nat.lt_or_eq_of_le hm with hlt | heq
      · rw [pages_succ, ih (by omega), if_neg (by omega), Nat.sub_add_comm (by omega),
          take_page, List.drop_drop, ← Nat.add_mul, Nat.add_sub_cancel' (by omega),
          List.append_assoc]
      · rw [← heq, hfirst k (Nat.le_refl k), Nat.sub_self, Nat.zero_mul, List.take_zero,
          List.append_nil]

theorem arranges_of_perm_tied {front group group' back : List a}
    (h : order.Arranges rows (front ++ (group ++ back))) (hperm : group'.Perm group)
    (htied : forall x y, x ∈ group -> y ∈ group -> order.le x y = true) :
    order.Arranges rows (front ++ (group' ++ back)) := by
  constructor
  · exact ((hperm.append_right back).append_left front).trans h.perm
  · rcases List.pairwise_append.mp h.sorted with ⟨hfront, hrest, hcross⟩
    rcases List.pairwise_append.mp hrest with ⟨-, hback, hcross'⟩
    refine List.pairwise_append.mpr ⟨hfront, List.pairwise_append.mpr ⟨?_, hback, ?_⟩, ?_⟩
    · apply List.pairwise_iff_forall_sublist.mpr
      intro x y hsub
      have hx : x ∈ group' := hsub.subset (by simp)
      have hy : y ∈ group' := hsub.subset (by simp)
      exact htied x y (hperm.mem_iff.mp hx) (hperm.mem_iff.mp hy)
    · intro x hx y hy
      exact hcross' x (hperm.mem_iff.mp hx) y hy
    · intro x hx y hy
      apply hcross x hx y
      rcases List.mem_append.mp hy with hy | hy
      · exact List.mem_append_left back (hperm.mem_iff.mp hy)
      · exact List.mem_append_right group hy

omit order in
theorem perm_cons_cons_of_mem {l : List a} {x y : a} (hx : x ∈ l) (hy : y ∈ l) (hne : x ≠ y) :
    exists rest, l.Perm (x :: y :: rest) := by
  rcases List.append_of_mem hx with ⟨s, t, rfl⟩
  have hperm : (s ++ x :: t).Perm (x :: (s ++ t)) := List.perm_middle
  have hrest : y ∈ s ++ t := by
    rcases List.mem_cons.mp (hperm.mem_iff.mp hy) with heq | hmem
    · exact absurd heq.symm hne
    · exact hmem
  rcases List.append_of_mem hrest with ⟨s', t', hst⟩
  refine ⟨s' ++ t', hperm.trans (List.Perm.cons x ?_)⟩
  rw [hst]
  exact List.perm_middle

theorem exists_groups {x : a} (hx : x ∈ rows) :
    exists lower group higher, order.Arranges rows (lower ++ (group ++ higher)) ∧
      lower.length = order.before x rows ∧
      lower.length + group.length = order.upTo x rows ∧
      forall z, z ∈ group <-> z ∈ rows ∧ order.Tied x z := by
  rcases order.exists_arranges rows with ⟨arranged, h⟩
  rcases List.mem_iff_getElem?.mp (h.perm.mem_iff.mpr hx) with ⟨i, hi⟩
  rcases order.position_between h hi (order.tied_refl x) with ⟨hbefore, hupTo⟩
  have hlength : order.upTo x rows ≤ arranged.length := by
    rw [h.perm.length_eq]
    exact List.countP_le_length
  have hgroup : (arranged.take (order.upTo x rows)).drop (order.before x rows) =
      (arranged.drop (order.before x rows)).take (order.upTo x rows - order.before x rows) :=
    List.drop_take
  refine ⟨arranged.take (order.before x rows),
    (arranged.take (order.upTo x rows)).drop (order.before x rows),
    arranged.drop (order.upTo x rows), ?_, ?_, ?_, ?_⟩
  · have hparts : arranged.take (order.before x rows) ++
        ((arranged.take (order.upTo x rows)).drop (order.before x rows) ++
          arranged.drop (order.upTo x rows)) = arranged := by
      have htake : arranged.take (order.before x rows) =
          (arranged.take (order.upTo x rows)).take (order.before x rows) := by
        rw [List.take_take, Nat.min_eq_left (by omega)]
      rw [← List.append_assoc, htake, List.take_append_drop, List.take_append_drop]
    rw [hparts]
    exact h
  · rw [List.length_take, Nat.min_eq_left (by omega)]
  · simp only [List.length_take, List.length_drop]
    omega
  · intro z
    constructor
    · intro hz
      have hz' := hz
      rw [hgroup] at hz'
      exact ⟨h.perm.mem_iff.mp (List.mem_of_mem_take (List.mem_of_mem_drop hz)),
        order.le_of_mem_drop_before h (List.mem_of_mem_take hz'),
        order.le_of_mem_take_upTo h (List.mem_of_mem_drop hz)⟩
    · rintro ⟨hz, htied⟩
      rcases List.mem_iff_getElem?.mp (h.perm.mem_iff.mpr hz) with ⟨j, hj⟩
      rcases order.position_between h hj htied with ⟨hge, hlt⟩
      have hget : ((arranged.take (order.upTo x rows)).drop
          (order.before x rows))[j - order.before x rows]? = some z := by
        rw [List.getElem?_drop, Nat.add_sub_cancel' hge, List.getElem?_take_of_lt hlt, hj]
      exact List.mem_of_getElem? hget

omit order in
theorem eq_of_perm_cons {l : List b} {u v : b} (h : (u :: l).Perm (v :: l)) : u = v := by
  classical
  apply Classical.byContradiction
  intro hne
  have hcount := h.countP_eq (fun w => decide (w = u))
  rw [List.countP_cons_of_pos (by simp), List.countP_cons_of_neg] at hcount
  · omega
  · simpa using fun heq => hne (Eq.symm heq)

theorem exists_swapped {boundary : Nat} {x y : a} (hx : x ∈ rows) (hy : y ∈ rows)
    (htied : order.Tied x y) (hne : x ≠ y) (hsplits : order.Splits rows boundary x) :
    exists front back, front.length + 1 = boundary ∧
      order.Arranges rows (front ++ x :: y :: back) ∧
      order.Arranges rows (front ++ y :: x :: back) := by
  rcases order.exists_groups hx with ⟨lower, group, higher, h, hlower, hupper, hgroup⟩
  rcases perm_cons_cons_of_mem ((hgroup x).mpr ⟨hx, order.tied_refl x⟩)
    ((hgroup y).mpr ⟨hy, htied⟩) hne with ⟨others, hperm⟩
  have hlength : group.length = others.length + 2 := hperm.length_eq
  have hall : forall z z', z ∈ group -> z' ∈ group -> order.le z z' = true := by
    intro z z' hz hz'
    exact order.trans z x z' ((hgroup z).mp hz).2.2 ((hgroup z').mp hz').2.1
  rcases hsplits with ⟨hbefore, hupTo⟩
  -- As many of the others go before the two as the boundary asks for.
  let moved := boundary - order.before x rows - 1
  have harranged : forall u v, (x :: y :: others).Perm (u :: v :: others) ->
      order.Arranges rows
        (lower ++ others.take moved ++ u :: v :: (others.drop moved ++ higher)) := by
    intro u v huv
    have hmoved : (others.take moved ++ u :: v :: others.drop moved).Perm group := by
      refine List.Perm.trans ?_ (huv.symm.trans hperm.symm)
      refine List.perm_middle.trans (List.Perm.cons u ?_)
      refine List.perm_middle.trans (List.Perm.cons v ?_)
      rw [List.take_append_drop]
    simpa using order.arranges_of_perm_tied h hmoved hall
  refine ⟨lower ++ others.take moved, others.drop moved ++ higher, ?_,
    harranged x y (List.Perm.refl _), harranged y x (List.Perm.swap y x others)⟩
  simp only [List.length_append, List.length_take]
  omega

/-- The pages make up the list, however tied rows are arranged on each of them, when and only
when no boundary lies between tied rows that look different. -/
theorem perm_pages_iff {shown : a -> b} {p m : Nat}
    (hall : rows.length ≤ m * p) :
    (forall arrangements : Nat -> List a, (forall k, order.Arranges rows (arrangements k)) ->
        ((pages arrangements p m).map shown).Perm (rows.map shown)) <->
      forall k, order.Unsplit shown rows (k * p) := by
  constructor
  · intro hcovers k x y hx hy htied hshown hsplits
    have hne : x ≠ y := fun heq => hshown (congrArg shown heq)
    rcases order.exists_swapped hx hy htied hne hsplits with ⟨front, back, hfront, h, h'⟩
    have hk : k ≤ m := by
      have hupTo : order.upTo x rows ≤ rows.length := List.countP_le_length
      have hlt : k * p < m * p := Nat.lt_of_lt_of_le hsplits.2 (Nat.le_trans hupTo hall)
      exact Nat.le_of_lt (Nat.lt_of_mul_lt_mul_right hlt)
    have hpages := hcovers
      (fun i => if i < k then front ++ x :: y :: back else front ++ y :: x :: back)
      (by
        intro i
        split
        · exact h
        · exact h')
    have hfirst : (front ++ x :: y :: back).take (k * p) = front ++ [x] := by
      rw [← hfront]
      exact List.take_length_add_append 1
    have hsecond : (front ++ y :: x :: back).drop (k * p) = x :: back := by
      rw [← hfront]
      exact List.drop_length_add_append 1
    have hlong : (x :: back).length ≤ (m - k) * p := by
      have hlength := h.perm.length_eq
      simp only [List.length_append, List.length_cons] at hlength ⊢
      rw [Nat.sub_mul]
      omega
    rw [pages_switch p k m hk, hfirst, hsecond, List.take_of_length_le hlong] at hpages
    -- The pages show `x` twice and `y` not at all.
    have hdoubled : (front ++ [x] ++ x :: back).Perm (x :: x :: (front ++ back)) := by
      refine List.perm_middle.trans (List.Perm.cons x ?_)
      rw [List.append_assoc]
      exact List.perm_middle
    have hrows : rows.Perm (y :: x :: (front ++ back)) := by
      refine h'.perm.symm.trans (List.perm_middle.trans (List.Perm.cons y ?_))
      exact List.perm_middle
    have hshows := ((hdoubled.map shown).symm.trans hpages).trans (hrows.map shown)
    exact hshown (eq_of_perm_cons hshows)
  · intro hunsplit arrangements harranges
    rcases order.exists_arranges rows with ⟨arranged, h⟩
    have hlength : arranged.length ≤ m * p := by
      rw [h.perm.length_eq]
      exact hall
    refine (order.perm_pages hunsplit harranges h).trans ?_
    rw [List.take_of_length_le hlength]
    exact h.perm.map shown

end RowOrder
end Relational
end ServerComponents
