import Mathlib.Data.List.DropRight
import Mathlib.Data.List.Basic

/-!
# Fields of a text

A text is cut at separators into fields, and a field is stripped of the blanks at its
ends.  What counts as a blank may differ from reader to reader.
-/

namespace ServerComponents
namespace Text

variable {symbol : Type}

def trim (blank : symbol -> Bool) (text : List symbol) : List symbol :=
  (text.dropWhile blank).rdropWhile blank

structure Trimmed (blank : symbol -> Bool) (text : List symbol) : Prop where
  front : forall a, text.head? = some a -> blank a = false
  back : forall a, text.getLast? = some a -> blank a = false

section Trim

variable {blank blank' : symbol -> Bool} {text : List symbol}

theorem Trimmed.mono (h : Trimmed blank text)
    (himp : forall a, blank' a = true -> blank a = true) : Trimmed blank' text := by
  constructor
  · intro a ha
    have hfront := h.front a ha
    cases hblank : blank' a with
    | false => rfl
    | true =>
        rw [himp a hblank] at hfront
        cases hfront
  · intro a ha
    have hback := h.back a ha
    cases hblank : blank' a with
    | false => rfl
    | true =>
        rw [himp a hblank] at hback
        cases hback

theorem dropWhile_of_front {test : symbol -> Bool}
    (h : forall a, text.head? = some a -> test a = false) : text.dropWhile test = text := by
  cases text with
  | nil => rfl
  | cons a rest => rw [List.dropWhile_cons_of_neg (by simp [h a rfl])]

theorem trim_of_trimmed (h : Trimmed blank text) : trim blank text = text := by
  unfold trim
  rw [dropWhile_of_front h.front, List.rdropWhile_eq_self_iff]
  intro hne
  rw [h.back _ (List.getLast?_eq_some_getLast hne)]
  simp

theorem mem_of_mem_trim {a : symbol} (h : a ∈ trim blank text) : a ∈ text := by
  have hsub := ((List.rdropWhile_prefix blank (text.dropWhile blank)).sublist.trans
    (List.dropWhile_sublist blank))
  exact hsub.subset h

theorem trim_cons_blank {a : symbol} (h : blank a = true) :
    trim blank (a :: text) = trim blank text := by
  unfold trim
  rw [List.dropWhile_cons_of_pos h]

theorem head?_rdropWhile {a : symbol} (h : (text.rdropWhile blank).head? = some a) :
    text.head? = some a := by
  rcases List.rdropWhile_prefix blank text with ⟨rest, hrest⟩
  rw [← hrest, List.head?_append, h]
  rfl

theorem trimmed_trim : Trimmed blank (trim blank text) := by
  unfold trim
  constructor
  · intro a ha
    have hhead := head?_rdropWhile ha
    have hne : text.dropWhile blank ≠ [] := by
      intro hnil
      rw [hnil] at hhead
      cases hhead
    have hnot := List.head_dropWhile_not blank hne
    rw [List.head?_eq_some_head hne] at hhead
    cases hhead
    exact hnot
  · intro a ha
    have hne : (text.dropWhile blank).rdropWhile blank ≠ [] := by
      intro hnil
      rw [hnil] at ha
      cases ha
    have hnot := List.rdropWhile_last_not blank (text.dropWhile blank) hne
    rw [List.getLast?_eq_some_getLast hne] at ha
    cases ha
    simpa using hnot

theorem trim_surrounded {left right : List symbol} (h : Trimmed blank text)
    (hblank : forall a, a ∈ left ++ right -> blank a = true) :
    trim blank (left ++ text ++ right) = text := by
  have hleft : forall a, a ∈ left -> blank a = true :=
    fun a ha => hblank a (List.mem_append_left _ ha)
  have hright : forall a, a ∈ right.reverse -> blank a = true :=
    fun a ha => hblank a (List.mem_append_right _ (List.mem_reverse.mp ha))
  unfold trim
  rw [List.append_assoc, List.dropWhile_append_of_pos hleft]
  cases text with
  | nil =>
      rw [List.nil_append, List.dropWhile_eq_nil_iff.mpr (fun a ha =>
        hright a (List.mem_reverse.mpr ha))]
      rfl
  | cons first rest =>
      have hfront : (first :: rest ++ right).dropWhile blank = first :: rest ++ right :=
        dropWhile_of_front h.front
      rw [hfront, List.rdropWhile, List.reverse_append, List.dropWhile_append_of_pos hright]
      have htrim := trim_of_trimmed h
      rwa [trim, dropWhile_of_front h.front] at htrim

theorem exists_surrounds (blank : symbol -> Bool) (text : List symbol) :
    exists left right, text = left ++ trim blank text ++ right ∧
      forall a, a ∈ left ++ right -> blank a = true := by
  refine ⟨text.takeWhile blank, (text.dropWhile blank).rtakeWhile blank, ?_, ?_⟩
  · unfold trim
    rw [List.append_assoc, List.rdropWhile_append_rtakeWhile, List.takeWhile_append_dropWhile]
  · intro a ha
    rcases List.mem_append.mp ha with ha | ha
    · exact List.mem_takeWhile_imp ha
    · exact List.mem_rtakeWhile_imp ha

end Trim

section Cut

variable [DecidableEq symbol] {separator : symbol}

def before (separator : symbol) (text : List symbol) : List symbol :=
  text.takeWhile (fun a => a != separator)

def cut (separator : symbol) (text : List symbol) : Option (List symbol × List symbol) :=
  if separator ∈ text then
    some (before separator text, (text.dropWhile (fun a => a != separator)).tail)
  else none

theorem before_of_not_mem {text : List symbol} (h : separator ∉ text) :
    before separator text = text := by
  unfold before
  rw [List.takeWhile_eq_self_iff]
  intro a ha
  have hne : a ≠ separator := fun heq => h (heq ▸ ha)
  simp [hne]

theorem before_append {first rest : List symbol} (h : separator ∉ first) :
    before separator (first ++ separator :: rest) = first := by
  unfold before
  rw [List.takeWhile_append_of_pos]
  · simp
  · intro a ha
    have hne : a ≠ separator := fun heq => h (heq ▸ ha)
    simp [hne]

theorem before_append_of_mem {text rest : List symbol} (h : separator ∈ text) :
    before separator (text ++ rest) = before separator text := by
  unfold before
  induction text with
  | nil => cases h
  | cons a text ih =>
      by_cases heq : a = separator
      · simp [heq]
      · have hmem : separator ∈ text := by
          rcases List.mem_cons.mp h with h | h
          · exact absurd h.symm heq
          · exact h
        simp [heq, ih hmem]

theorem not_mem_before {text : List symbol} : separator ∉ before separator text := by
  intro h
  have htest := List.mem_takeWhile_imp h
  simp at htest

theorem mem_of_mem_before {a : symbol} {text : List symbol} (h : a ∈ before separator text) :
    a ∈ text :=
  (List.takeWhile_sublist _).subset h

theorem cut_append {first rest : List symbol} (h : separator ∉ first) :
    cut separator (first ++ separator :: rest) = some (first, rest) := by
  unfold cut
  have htest : forall a, a ∈ first -> (a != separator) = true := by
    intro a ha
    have hne : a ≠ separator := fun heq => h (heq ▸ ha)
    simp [hne]
  rw [if_pos (by simp), before_append h, List.dropWhile_append_of_pos htest]
  simp

theorem cut_some {text first rest : List symbol} (h : cut separator text = some (first, rest)) :
    separator ∉ first ∧ (forall a, a ∈ first -> a ∈ text) ∧
      (forall a, a ∈ rest -> a ∈ text) := by
  unfold cut at h
  split at h
  · cases h
    refine ⟨not_mem_before, fun a ha => mem_of_mem_before ha, fun a ha => ?_⟩
    exact (List.dropWhile_sublist _).subset (List.mem_of_mem_tail ha)
  · cases h

end Cut

end Text
end ServerComponents
