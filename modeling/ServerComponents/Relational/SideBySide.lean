import ServerComponents.Relational.SortedMap

/-!
# Lists and maps side by side

Two lists in the order of a key correspond item by item when each item of the one has its
partner in the other.  Two maps whose keys are related, in the same order, stay so under the
same changes.
-/

namespace ServerComponents
namespace Relational

/-!
# Lists
-/

section Lists

variable {a b : Type} {R : a -> b -> Prop} {f : a -> Nat} {g : b -> Nat}

theorem forall₂_of_sorted {l : List a} {l' : List b}
    (hl : l.Pairwise (fun x y => f x < f y)) (hl' : l'.Pairwise (fun x y => g x < g y))
    (hkey : forall x y, R x y -> f x = g y)
    (hleft : forall x, x ∈ l -> exists y, y ∈ l' ∧ R x y)
    (hright : forall y, y ∈ l' -> exists x, x ∈ l ∧ R x y) : List.Forall₂ R l l' := by
  induction l generalizing l' with
  | nil =>
      rcases l' with _ | ⟨y, rest'⟩
      · exact List.Forall₂.nil
      · rcases hright y (by simp) with ⟨x, hx, _⟩
        cases hx
  | cons x rest ih =>
      rcases List.pairwise_cons.mp hl with ⟨hfirst, hrest⟩
      rcases l' with _ | ⟨y, rest'⟩
      · rcases hleft x (by simp) with ⟨y, hy, _⟩
        cases hy
      · rcases List.pairwise_cons.mp hl' with ⟨hfirst', hrest'⟩
        rcases hleft x (by simp) with ⟨y₁, hy₁, hxy₁⟩
        rcases hright y (by simp) with ⟨x₁, hx₁, hxy⟩
        have hle : f x ≤ f x₁ := by
          rcases List.mem_cons.mp hx₁ with heq | hmem
          · rw [heq]
          · exact le_of_lt (hfirst x₁ hmem)
        have hfirsts : R x y := by
          rcases List.mem_cons.mp hy₁ with heq | hmem
          · rw [← heq]
            exact hxy₁
          · have hlt := hfirst' y₁ hmem
            rw [← hkey x y₁ hxy₁, ← hkey x₁ y hxy] at hlt
            exact absurd hle (not_le.mpr hlt)
        refine List.Forall₂.cons hfirsts (ih hrest hrest' ?_ ?_)
        · intro x₂ hx₂
          rcases hleft x₂ (List.mem_cons_of_mem x hx₂) with ⟨y₂, hy₂, hxy₂⟩
          rcases List.mem_cons.mp hy₂ with heq | hmem
          · have hlt := hfirst x₂ hx₂
            rw [hkey x₂ y₂ hxy₂, heq, hkey x y hfirsts] at hlt
            exact absurd hlt (lt_irrefl _)
          · exact ⟨y₂, hmem, hxy₂⟩
        · intro y₂ hy₂
          rcases hright y₂ (List.mem_cons_of_mem y hy₂) with ⟨x₂, hx₂, hxy₂⟩
          rcases List.mem_cons.mp hx₂ with heq | hmem
          · have hlt := hfirst' y₂ hy₂
            rw [← hkey x₂ y₂ hxy₂, heq, ← hkey x y hfirsts] at hlt
            exact absurd hlt (lt_irrefl _)
          · exact ⟨x₂, hmem, hxy₂⟩

theorem foldl_sideBySide {c d : Type} {S : c -> d -> Prop} {step : c -> a -> c}
    {step' : d -> b -> d} (hstep : forall s s' x y, S s s' -> R x y ->
      S (step s x) (step' s' y)) {l : List a} {l' : List b} (h : List.Forall₂ R l l')
    {s : c} {s' : d} (hs : S s s') : S (l.foldl step s) (l'.foldl step' s') := by
  induction h generalizing s s' with
  | nil => exact hs
  | cons hfirst _ ih => exact ih (hstep s s' _ _ hs hfirst)

theorem find?_sideBySide {sel : a -> Bool} {sel' : b -> Bool}
    (hsel : forall x y, R x y -> sel x = sel' y) {l : List a} {l' : List b}
    (h : List.Forall₂ R l l') : (l.find? sel = none ∧ l'.find? sel' = none) ∨
      exists x y, l.find? sel = some x ∧ l'.find? sel' = some y ∧ R x y := by
  induction h with
  | nil => exact Or.inl ⟨rfl, rfl⟩
  | @cons x y rest rest' hfirst _ ih =>
      have heq := hsel x y hfirst
      cases hx : sel x with
      | true =>
          rw [hx] at heq
          exact Or.inr ⟨x, y, by simp [hx], by simp [← heq], hfirst⟩
      | false =>
          rw [hx] at heq
          simpa [hx, ← heq] using ih

theorem pairwise_sideBySide {S : a -> a -> Prop} {S' : b -> b -> Prop}
    (hS : forall x x' y y', R x y -> R x' y' -> (S x x' <-> S' y y')) {l : List a}
    {l' : List b} (h : List.Forall₂ R l l') : l.Pairwise S <-> l'.Pairwise S' := by
  induction h with
  | nil => simp
  | @cons x y rest rest' hfirst hrest ih =>
      rw [List.pairwise_cons, List.pairwise_cons, ih]
      have hheads : (forall x', x' ∈ rest -> S x x') <-> forall y', y' ∈ rest' -> S' y y' := by
        clear ih
        induction hrest with
        | nil => simp
        | cons hnext _ ih => simp only [List.forall_mem_cons, hS _ _ _ _ hfirst hnext, ih]
      rw [hheads]

theorem foldl_filter_of_skip {c : Type} {step : c -> a -> c} {keep : a -> Bool}
    (hskip : forall s x, keep x = false -> step s x = s) (l : List a) (s : c) :
    (l.filter keep).foldl step s = l.foldl step s := by
  induction l generalizing s with
  | nil => rfl
  | cons x rest ih =>
      rw [List.filter_cons]
      split
      · exact ih (step s x)
      · rename_i hx
        rw [ih, List.foldl_cons, hskip s x (by simpa using hx)]

end Lists

/-!
# Maps with related keys
-/

section Maps

variable {key key' value : Type} [LinearOrder key] [LinearOrder key']

def OrderAlike (rel : key -> key' -> Prop) : Prop :=
  forall k l k' l', rel k k' -> rel l l' -> (k < l <-> k' < l')

def RelatedEntry (rel : key -> key' -> Prop) (e : key × value) (e' : key' × value) : Prop :=
  rel e.1 e'.1 ∧ e.2 = e'.2

def SideBySide (rel : key -> key' -> Prop) (m : SortedMap key value)
    (m' : SortedMap key' value) : Prop :=
  List.Forall₂ (RelatedEntry rel) m.entries m'.entries

variable {rel : key -> key' -> Prop} {m : SortedMap key value} {m' : SortedMap key' value}

theorem OrderAlike.eq_iff (horder : OrderAlike rel) {k l : key} {k' l' : key'}
    (hk : rel k k') (hl : rel l l') : k = l <-> k' = l' := by
  have hlt := horder k l k' l' hk hl
  have hgt := horder l k l' k' hl hk
  constructor
  · intro heq
    rw [heq] at hlt hgt
    exact le_antisymm (not_lt.mp (fun h => lt_irrefl l (hgt.mpr h)))
      (not_lt.mp (fun h => lt_irrefl l (hlt.mpr h)))
  · intro heq
    rw [heq] at hlt hgt
    exact le_antisymm (not_lt.mp (fun h => lt_irrefl l' (hgt.mp h)))
      (not_lt.mp (fun h => lt_irrefl l' (hlt.mp h)))

theorem sideBySide_empty : SideBySide rel (SortedMap.empty : SortedMap key value)
    (SortedMap.empty : SortedMap key' value) :=
  List.Forall₂.nil

theorem SideBySide.set (horder : OrderAlike rel) (h : SideBySide rel m m') {k : key}
    {k' : key'} (hk : rel k k') (v : value) : SideBySide rel (m.set k v) (m'.set k' v) := by
  unfold SideBySide SortedMap.set at *
  dsimp only
  generalize m.entries = entries at h ⊢
  generalize m'.entries = entries' at h ⊢
  induction h with
  | nil => exact List.Forall₂.cons ⟨hk, rfl⟩ List.Forall₂.nil
  | @cons e e' rest rest' hfirst hrest ih =>
      unfold SortedMap.setEntry
      have hlt := horder k e.1 k' e'.1 hk hfirst.1
      have heq := horder.eq_iff hk hfirst.1
      split
      · rename_i h
        rw [if_pos (hlt.mp h)]
        exact List.Forall₂.cons ⟨hk, rfl⟩ (List.Forall₂.cons hfirst hrest)
      · rename_i h
        rw [if_neg (fun h' => h (hlt.mpr h'))]
        split
        · rename_i hsame
          rw [if_pos (heq.mp hsame)]
          exact List.Forall₂.cons ⟨hk, rfl⟩ hrest
        · rename_i hsame
          rw [if_neg (fun h' => hsame (heq.mpr h'))]
          exact List.Forall₂.cons hfirst ih

theorem SideBySide.find? (horder : OrderAlike rel) (h : SideBySide rel m m') {k : key}
    {k' : key'} (hk : rel k k') : m.find? k = m'.find? k' := by
  unfold SideBySide at h
  unfold SortedMap.find?
  generalize m.entries = entries at h ⊢
  generalize m'.entries = entries' at h ⊢
  induction h with
  | nil => rfl
  | @cons e e' rest rest' hfirst hrest ih =>
      have heq := horder.eq_iff hfirst.1 hk
      by_cases hsame : e.1 = k
      · simp [hsame, heq.mp hsame, hfirst.2]
      · have hsame' : Not (e'.1 = k') := fun h => hsame (heq.mpr h)
        simpa [hsame, hsame'] using ih

end Maps

end Relational
end ServerComponents
