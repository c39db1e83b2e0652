import ServerComponents.Text.Fields

/-!
# Pieces of a text

A text is cut at every separator, and the pieces are joined again.  The empty pieces at the
end may be dropped.
-/

namespace ServerComponents
namespace Text

variable {symbol : Type}

section Pieces

variable [DecidableEq symbol] {separator : symbol}

def after (separator : symbol) (text : List symbol) : List symbol :=
  (text.dropWhile (fun a => a != separator)).drop 1

theorem after_append {first rest : List symbol} (h : separator ∉ first) :
    after separator (first ++ separator :: rest) = rest := by
  unfold after
  rw [List.dropWhile_append_of_pos]
  · simp
  · intro a ha
    have hne : a ≠ separator := fun heq => h (heq ▸ ha)
    simp [hne]

theorem after_of_not_mem {text : List symbol} (h : separator ∉ text) :
    after separator text = [] := by
  unfold after
  rw [List.dropWhile_eq_nil_iff.mpr]
  · rfl
  · intro a ha
    have hne : a ≠ separator := fun heq => h (heq ▸ ha)
    simp [hne]

theorem before_after {text : List symbol} (h : separator ∈ text) :
    before separator text ++ separator :: after separator text = text := by
  induction text with
  | nil => cases h
  | cons a text ih =>
      by_cases heq : a = separator
      · simp [before, after, heq]
      · have hmem : separator ∈ text := by
          rcases List.mem_cons.mp h with h | h
          · exact absurd h.symm heq
          · exact h
        have hcons := ih hmem
        unfold before after at hcons ⊢
        rw [List.takeWhile_cons_of_pos (by simp [heq]), List.dropWhile_cons_of_pos
          (by simp [heq]), List.cons_append, hcons]

theorem mem_of_mem_after {a : symbol} {text : List symbol} (h : a ∈ after separator text) :
    a ∈ text :=
  (List.dropWhile_sublist _).subset (List.mem_of_mem_drop h)

theorem mem_splitOn {text piece : List symbol} (h : piece ∈ text.splitOn separator) :
    separator ∉ piece ∧ forall a, a ∈ piece -> a ∈ text := by
  unfold List.splitOn at h
  induction text generalizing piece with
  | nil =>
      rw [List.splitOnP_nil, List.mem_singleton] at h
      rw [h]
      exact ⟨List.not_mem_nil, fun a ha => absurd ha List.not_mem_nil⟩
  | cons c text ih =>
      rw [List.splitOnP_cons_eq_if_modifyHead] at h
      split at h
      · rcases List.mem_cons.mp h with heq | hrest
        · rw [heq]
          exact ⟨List.not_mem_nil, fun a ha => absurd ha List.not_mem_nil⟩
        · rcases ih hrest with ⟨hnot, hmem⟩
          exact ⟨hnot, fun a ha => List.mem_cons_of_mem c (hmem a ha)⟩
      · rename_i hother
        have hne : separator ≠ c := fun heq => hother (by simp [heq])
        cases hpieces : text.splitOnP (fun a => a == separator) with
        | nil => exact absurd hpieces (List.splitOnP_ne_nil _ _)
        | cons first rest =>
            rw [hpieces] at h ih
            rw [List.modifyHead_cons] at h
            rcases List.mem_cons.mp h with heq | hrest
            · rcases ih List.mem_cons_self with ⟨hnot, hmem⟩
              rw [heq]
              constructor
              · intro hsep
                rcases List.mem_cons.mp hsep with hsep | hsep
                · exact hne hsep
                · exact hnot hsep
              · intro a ha
                rcases List.mem_cons.mp ha with ha | ha
                · rw [ha]
                  exact List.mem_cons_self
                · exact List.mem_cons_of_mem c (hmem a ha)
            · rcases ih (List.mem_cons_of_mem first hrest) with ⟨hnot, hmem⟩
              exact ⟨hnot, fun a ha => List.mem_cons_of_mem c (hmem a ha)⟩

omit [DecidableEq symbol] in
theorem intercalate_concat {init : List (List symbol)} (h : init ≠ []) (last : List symbol) :
    [separator].intercalate (init ++ [last]) =
      [separator].intercalate init ++ separator :: last := by
  induction init with
  | nil => exact absurd rfl h
  | cons first rest ih =>
      cases rest with
      | nil => simp [List.intercalate_cons_cons, List.intercalate_singleton]
      | cons second rest =>
          rw [List.cons_append, List.cons_append, List.intercalate_cons_cons,
            List.intercalate_cons_cons, ← List.cons_append, ih (by simp)]
          simp

omit [DecidableEq symbol] in
theorem mem_intercalate {a : symbol} {pieces : List (List symbol)}
    (h : a ∈ [separator].intercalate pieces) :
    a = separator ∨ exists piece, piece ∈ pieces ∧ a ∈ piece := by
  induction pieces with
  | nil => simp at h
  | cons first rest ih =>
      cases rest with
      | nil =>
          rw [List.intercalate_singleton] at h
          exact Or.inr ⟨first, List.mem_cons_self, h⟩
      | cons second rest =>
          rw [List.intercalate_cons_cons, List.mem_append, List.mem_append,
            List.mem_singleton] at h
          rcases h with (h | h) | h
          · exact Or.inr ⟨first, List.mem_cons_self, h⟩
          · exact Or.inl h
          · rcases ih h with hsep | ⟨piece, hpiece, ha⟩
            · exact Or.inl hsep
            · exact Or.inr ⟨piece, List.mem_cons_of_mem first hpiece, ha⟩

theorem rdropWhile_splitOn {text : List symbol} (hne : text ≠ [])
    (hlast : text.getLast? ≠ some separator) :
    (text.splitOn separator).rdropWhile List.isEmpty = text.splitOn separator := by
  rw [List.rdropWhile_eq_self_iff]
  intro hpieces hempty
  have hjoin := @List.intercalate_splitOn _ text _ _ separator
  rw [← List.dropLast_append_getLast hpieces, List.isEmpty_iff.mp hempty] at hjoin
  by_cases hone : (text.splitOn separator).dropLast = []
  · rw [hone, List.nil_append, List.intercalate_singleton] at hjoin
    exact hne hjoin.symm
  · rw [intercalate_concat hone] at hjoin
    refine hlast ?_
    rw [← hjoin]
    simp

theorem intercalate_injective {pieces pieces' : List (List symbol)}
    (hpieces : forall piece, piece ∈ pieces -> separator ∉ piece)
    (hpieces' : forall piece, piece ∈ pieces' -> separator ∉ piece)
    (hne : pieces ≠ []) (hne' : pieces' ≠ [])
    (h : [separator].intercalate pieces = [separator].intercalate pieces') :
    pieces = pieces' := by
  rw [← List.splitOn_intercalate separator hpieces hne,
    ← List.splitOn_intercalate separator hpieces' hne', h]

end Pieces

/-!
# The end of a list
-/

section Trailing

variable {item item' : Type}

theorem mem_rdropWhile {test : item -> Bool} {items : List item} {a : item} (h : a ∈ items)
    (htest : test a = false) : a ∈ items.rdropWhile test := by
  rw [← @List.rdropWhile_append_rtakeWhile _ test items] at h
  rcases List.mem_append.mp h with h | h
  · exact h
  · have htrue := List.mem_rtakeWhile_imp h
    rw [htest] at htrue
    cases htrue

theorem rdropWhile_map (f : item -> item') (test : item' -> Bool) (items : List item) :
    (items.map f).rdropWhile test = (items.rdropWhile (fun a => test (f a))).map f := by
  unfold List.rdropWhile
  rw [← List.map_reverse, List.dropWhile_map, ← List.map_reverse]
  rfl

end Trailing

end Text
end ServerComponents
