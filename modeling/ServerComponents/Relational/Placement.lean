import Mathlib.Data.List.Basic

/-!
# Placing items behind what they need

Items are placed one after the other, each behind the items it needs.  An item that
needs one outside the list, or that needs itself over others, cannot be placed at all.
-/

namespace ServerComponents
namespace Relational

section Placement

variable {a : Type} (needs : a -> List a) (items : List a)

/-- The item can be placed: what it needs can, and nothing else holds it back. -/
inductive Placeable : a -> Prop
  | place {x : a} (hx : x ∈ items) (h : forall y, y ∈ needs x -> Placeable y) : Placeable x

/-- Every item of the list stands behind all it needs. -/
def InOrder (placed : List a) : Prop :=
  forall before x behind, placed = before ++ x :: behind ->
    forall y, y ∈ needs x -> y ∈ before

variable {needs items}

theorem Placeable.mem {x : a} (h : Placeable needs items x) : x ∈ items := by
  cases h with
  | place hx _ => exact hx

theorem Placeable.of_needs {x y : a} (h : Placeable needs items x) (hy : y ∈ needs x) :
    Placeable needs items y := by
  cases h with
  | place _ h => exact h y hy

theorem inOrder_nil : InOrder needs [] := by
  intro before x behind h
  exact absurd h.symm (List.append_ne_nil_of_right_ne_nil before (List.cons_ne_nil x behind))

theorem InOrder.append {placed : List a} {x : a} (h : InOrder needs placed)
    (hx : forall y, y ∈ needs x -> y ∈ placed) : InOrder needs (placed ++ [x]) := by
  intro before z behind heq y hy
  rcases List.eq_nil_or_concat behind with rfl | ⟨behind', last, rfl⟩
  · rcases List.append_inj' heq rfl with ⟨hbefore, hlast⟩
    rw [← (List.cons.inj hlast).1] at hy
    rw [← hbefore]
    exact hx y hy
  · rw [List.concat_eq_append, ← List.cons_append, ← List.append_assoc] at heq
    rcases List.append_inj' heq rfl with ⟨hbefore, -⟩
    exact h before z behind' hbefore y hy

theorem Placeable.placed {placed waiting : List a}
    (hcover : forall x, x ∈ items -> x ∈ placed ∨ x ∈ waiting)
    (hstuck : forall x, x ∈ waiting -> exists y, y ∈ needs x ∧ y ∉ placed) {x : a}
    (hx : Placeable needs items x) : x ∈ placed := by
  induction hx with
  | @place x hmem _ ih =>
      rcases hcover x hmem with hplaced | hwaiting
      · exact hplaced
      · rcases hstuck x hwaiting with ⟨y, hy, hnot⟩
        exact absurd (ih y hy) hnot

end Placement

end Relational
end ServerComponents
