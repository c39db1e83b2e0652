import Mathlib.Data.List.Basic

/-!
# Content lines

An iCalendar text is a sequence of content lines, folded where they are long.
A line break and a blank after it continue the line before them.
-/

namespace ServerComponents
namespace Text
namespace ContentLines

abbrev Bytes : Type :=
  List UInt8

def ascii (text : String) : Bytes :=
  text.toList.map fun c => UInt8.ofNat c.toNat

def crlf : Bytes :=
  [13, 10]

/-!
## Unfolding
-/

/-- A byte goes to the front of the first line. -/
def push (c : UInt8) : List Bytes -> List Bytes
  | [] => [[c]]
  | line :: lines => (c :: line) :: lines

def onFirst (text : Bytes) : List Bytes -> List Bytes
  | [] => [text]
  | line :: lines => (text ++ line) :: lines

/-- The unfolded lines. The last one is what follows the last line break. -/
def contentLines : Bytes -> List Bytes
  | [] => [[]]
  | 13 :: 10 :: 32 :: rest => contentLines rest
  | 13 :: 10 :: 9 :: rest => contentLines rest
  | 13 :: 10 :: rest => [] :: contentLines rest
  | c :: rest => push c (contentLines rest)

def hasCrlf : Bytes -> Bool
  | [] => false
  | 13 :: 10 :: _ => true
  | _ :: rest => hasCrlf rest

@[simp] theorem onFirst_nil {lines : List Bytes} (hlines : lines ≠ []) :
    onFirst [] lines = lines := by
  cases lines with
  | nil => exact absurd rfl hlines
  | cons line lines => rfl

@[simp] theorem onFirst_cons (c : UInt8) (text : Bytes) (lines : List Bytes) :
    onFirst (c :: text) lines = push c (onFirst text lines) := by
  cases lines <;> rfl

theorem onFirst_append (text text' : Bytes) (lines : List Bytes) :
    onFirst (text ++ text') lines = onFirst text (onFirst text' lines) := by
  cases lines <;> simp [onFirst]

theorem push_ne_nil (c : UInt8) (lines : List Bytes) : push c lines ≠ [] := by
  cases lines <;> simp [push]

theorem push_injective (c : UInt8) {lines lines' : List Bytes} (hne : lines ≠ [])
    (hne' : lines' ≠ []) (h : push c lines = push c lines') : lines = lines' := by
  cases lines with
  | nil => exact absurd rfl hne
  | cons line lines =>
      cases lines' with
      | nil => exact absurd rfl hne'
      | cons line' lines' =>
          simp only [push, List.cons.injEq, true_and] at h
          rw [h.1, h.2]

section

attribute [local simp] contentLines hasCrlf

theorem contentLines_ne_nil (text : Bytes) : contentLines text ≠ [] := by
  fun_induction contentLines text with
  | case1 => simp
  | case2 rest ih => exact ih
  | case3 rest ih => exact ih
  | case4 => simp
  | case5 c rest => exact push_ne_nil c _

theorem hasCrlf_cons {c : UInt8} {rest : Bytes} :
    hasCrlf (c :: rest) = false ↔ Not (c = 13 ∧ rest.head? = some 10) ∧ hasCrlf rest = false := by
  cases rest with
  | nil => simp
  | cons d rest =>
      by_cases h : c = 13 ∧ d = 10
      · rcases h with ⟨rfl, rfl⟩
        simp
      · have hstep : hasCrlf (c :: d :: rest) = hasCrlf (d :: rest) := by
          rw [hasCrlf]
          rintro r rfl hr
          exact h ⟨rfl, (List.cons.inj hr).1⟩
        rw [hstep]
        simp [h]

end

theorem contentLines_cons {c : UInt8} {rest : Bytes}
    (h : Not (c = 13 ∧ rest.head? = some 10)) :
    contentLines (c :: rest) = push c (contentLines rest) := by
  rw [contentLines]
  · rintro r rfl rfl
    exact h ⟨rfl, rfl⟩
  · rintro r rfl rfl
    exact h ⟨rfl, rfl⟩
  · rintro r rfl rfl
    exact h ⟨rfl, rfl⟩

theorem contentLines_break {rest : Bytes} (hspace : rest.head? ≠ some 32)
    (htab : rest.head? ≠ some 9) :
    contentLines (13 :: 10 :: rest) = [] :: contentLines rest := by
  rw [contentLines]
  · rintro r rfl
    exact hspace rfl
  · rintro r rfl
    exact htab rfl

theorem hasCrlf_append {text text' : Bytes} (h : hasCrlf (text ++ text') = false) :
    hasCrlf text = false ∧ hasCrlf text' = false := by
  induction text with
  | nil => exact ⟨rfl, h⟩
  | cons c text ih =>
      rw [List.cons_append, hasCrlf_cons] at h
      rcases ih h.2 with ⟨htext, htext'⟩
      refine ⟨hasCrlf_cons.mpr ⟨?_, htext⟩, htext'⟩
      rintro ⟨hc, hhead⟩
      cases text with
      | nil => exact absurd hhead (by simp)
      | cons d text => exact h.1 ⟨hc, hhead⟩

theorem contentLines_append {text rest : Bytes} (htext : hasCrlf text = false)
    (hrest : text.getLast? = some 13 -> rest.head? ≠ some 10) :
    contentLines (text ++ rest) = onFirst text (contentLines rest) := by
  induction text with
  | nil => exact (onFirst_nil (contentLines_ne_nil rest)).symm
  | cons c text ih =>
      rcases hasCrlf_cons.mp htext with ⟨hc, htail⟩
      have hnext : Not (c = 13 ∧ (text ++ rest).head? = some 10) := by
        rintro ⟨rfl, hhead⟩
        cases text with
        | nil => exact hrest rfl hhead
        | cons d text => exact hc ⟨rfl, hhead⟩
      have hlast : text.getLast? = some 13 -> rest.head? ≠ some 10 := by
        intro hl
        apply hrest
        cases text with
        | nil => exact absurd hl (by simp)
        | cons d text => rw [List.getLast?_cons_cons, hl]
      rw [List.cons_append, contentLines_cons hnext, ih htail hlast, onFirst_cons]

theorem contentLines_of_noCrlf {text : Bytes} (htext : hasCrlf text = false) :
    contentLines text = [text] := by
  have h := @contentLines_append text [] htext (fun _ => by simp)
  rw [List.append_nil] at h
  rw [h]
  simp [contentLines, onFirst]

theorem hasCrlf_of_not_mem {text : Bytes} (h : 13 ∉ text) : hasCrlf text = false := by
  induction text with
  | nil => rfl
  | cons c text ih =>
      rw [List.mem_cons, not_or] at h
      exact hasCrlf_cons.mpr ⟨fun hc => h.1 hc.1.symm, ih h.2⟩

theorem single_contentLine {text line : Bytes} (h : contentLines text = [line]) :
    line = text ∧ hasCrlf text = false ∨ line.length < text.length := by
  fun_induction contentLines text generalizing line with
  | case1 =>
      simp only [List.cons.injEq, and_true] at h
      exact Or.inl ⟨h.symm, rfl⟩
  | case2 rest ih =>
      right
      have hle : line.length ≤ rest.length := by
        rcases ih h with ⟨rfl, -⟩ | hlt
        · exact Nat.le_refl _
        · exact Nat.le_of_lt hlt
      simp only [List.length_cons]
      omega
  | case3 rest ih =>
      right
      have hle : line.length ≤ rest.length := by
        rcases ih h with ⟨rfl, -⟩ | hlt
        · exact Nat.le_refl _
        · exact Nat.le_of_lt hlt
      simp only [List.length_cons]
      omega
  | case4 rest _ _ _ =>
      exact absurd (List.cons.inj h).2 (contentLines_ne_nil rest)
  | case5 c rest hspace htab hbreak ih =>
      cases hlines : contentLines rest with
      | nil => exact absurd hlines (contentLines_ne_nil rest)
      | cons first others =>
          simp only [hlines, push, List.cons.injEq] at h
          rcases h with ⟨rfl, rfl⟩
          rcases ih hlines with ⟨rfl, hno⟩ | hlt
          · left
            refine ⟨rfl, hasCrlf_cons.mpr ⟨?_, hno⟩⟩
            rintro ⟨rfl, hhead⟩
            cases first with
            | nil => exact absurd hhead (by simp)
            | cons d r =>
                simp only [List.head?_cons, Option.some.injEq] at hhead
                subst hhead
                exact hbreak r rfl rfl
          · right
            simp only [List.length_cons]
            omega

theorem contentLines_line {text rest : Bytes} (hspace : rest.head? ≠ some 32)
    (htab : rest.head? ≠ some 9) :
    contentLines (text ++ crlf ++ rest) = contentLines text ++ contentLines rest := by
  fun_induction contentLines text with
  | case1 => exact contentLines_break hspace htab
  | case2 r ih =>
      simp only [List.cons_append, contentLines]
      exact ih
  | case3 r ih =>
      simp only [List.cons_append, contentLines]
      exact ih
  | case4 r hsp htb ih =>
      have hs : (r ++ crlf ++ rest).head? ≠ some 32 := by
        cases r with
        | nil => simp [crlf]
        | cons d r =>
            intro h
            simp only [List.cons_append, List.head?_cons, Option.some.injEq] at h
            exact hsp r (by rw [h])
      have ht : (r ++ crlf ++ rest).head? ≠ some 9 := by
        cases r with
        | nil => simp [crlf]
        | cons d r =>
            intro h
            simp only [List.cons_append, List.head?_cons, Option.some.injEq] at h
            exact htb r (by rw [h])
      simp only [List.cons_append]
      rw [contentLines_break hs ht, ih]
  | case5 c r hsp htb hbr ih =>
      have hc : Not (c = 13 ∧ (r ++ crlf ++ rest).head? = some 10) := by
        rintro ⟨rfl, hhead⟩
        cases r with
        | nil => simp [crlf] at hhead
        | cons d r =>
            simp only [List.cons_append, List.head?_cons, Option.some.injEq] at hhead
            subst hhead
            exact hbr r rfl rfl
      simp only [List.cons_append]
      rw [contentLines_cons hc, ih]
      cases hlines : contentLines r with
      | nil => exact absurd hlines (contentLines_ne_nil r)
      | cons first others => rfl

theorem contentLines_crlf {text text' : Bytes} (hlines : contentLines text = contentLines text')
    (hhead : text.head? = text'.head?) :
    contentLines (crlf ++ text) = contentLines (crlf ++ text') := by
  by_cases hspace : text.head? = some 32 ∨ text.head? = some 9
  · cases text with
    | nil => exact absurd hspace (by simp)
    | cons c text =>
        cases text' with
        | nil => exact absurd hhead (by simp)
        | cons d text' =>
            simp only [List.head?_cons, Option.some.injEq] at hhead hspace
            subst hhead
            have hc : forall r : Bytes, Not (c = 13 ∧ r.head? = some 10) := by
              rintro r ⟨rfl, -⟩
              exact absurd hspace (by decide)
            rw [contentLines_cons (hc text), contentLines_cons (hc text')] at hlines
            have hrest := push_injective c (contentLines_ne_nil text) (contentLines_ne_nil text')
              hlines
            rcases hspace with rfl | rfl
            · exact hrest
            · exact hrest
  · rw [not_or] at hspace
    have hsame := contentLines_break hspace.1 hspace.2
    rw [hhead] at hspace
    have hsame' := contentLines_break hspace.1 hspace.2
    simp only [crlf, List.cons_append, List.nil_append]
    rw [hsame, hsame', hlines]

end ContentLines
end Text
end ServerComponents
