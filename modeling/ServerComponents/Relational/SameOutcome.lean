import Mathlib.Data.List.Forall2

/-!
# Two runs side by side

Two computations have the same outcome up to a relation when both fail with the
same error or both return related values.
-/

namespace ServerComponents
namespace Relational

variable {error a a' b b' : Type}

inductive SameOutcome (related : a -> a' -> Prop) :
    Except error a -> Except error a' -> Prop
  | ok {value : a} {value' : a'} (h : related value value') :
      SameOutcome related (.ok value) (.ok value')
  | error (err : error) : SameOutcome related (.error err) (.error err)

namespace SameOutcome

variable {related : a -> a' -> Prop} {related' : b -> b' -> Prop}

theorem bind {x : Except error a} {x' : Except error a'} {f : a -> Except error b}
    {f' : a' -> Except error b'} (hx : SameOutcome related x x')
    (hf : forall value value', related value value' ->
      SameOutcome related' (f value) (f' value')) :
    SameOutcome related' (x >>= f) (x' >>= f') := by
  cases hx with
  | ok h => exact hf _ _ h
  | error err => exact SameOutcome.error err

theorem bind_same (x : Except error a) {f : a -> Except error b}
    {f' : a -> Except error b'}
    (hf : forall value, x = .ok value -> SameOutcome related' (f value) (f' value)) :
    SameOutcome related' (x >>= f) (x >>= f') := by
  cases x with
  | ok value => exact hf value rfl
  | error err => exact SameOutcome.error err

theorem bind_eq {x : Except error a} {x' : Except error a'} {f : a -> Except error b}
    {f' : a' -> Except error b} (hx : SameOutcome related x x')
    (hf : forall value value', related value value' -> f value = f' value') :
    (x >>= f) = (x' >>= f') := by
  cases hx with
  | ok h => exact hf _ _ h
  | error err => rfl

end SameOutcome

/-!
# Lists of related rows
-/

section Rows

variable {related : a -> a' -> Prop} {rows : List a} {rows' : List a'}

theorem forall₂_filter {p : a -> Bool} {p' : a' -> Bool}
    (hrows : List.Forall₂ related rows rows')
    (hp : forall row row', related row row' -> p row = p' row') :
    List.Forall₂ related (rows.filter p) (rows'.filter p') := by
  induction hrows with
  | nil => exact List.Forall₂.nil
  | cons hfirst hrest ih =>
      simp only [List.filter_cons, hp _ _ hfirst]
      split
      · exact List.Forall₂.cons hfirst ih
      · exact ih

theorem forall₂_map {related' : b -> b' -> Prop} {f : a -> b} {f' : a' -> b'}
    (hrows : List.Forall₂ related rows rows')
    (hf : forall row row', related row row' -> related' (f row) (f' row')) :
    List.Forall₂ related' (rows.map f) (rows'.map f') := by
  induction hrows with
  | nil => exact List.Forall₂.nil
  | cons hfirst hrest ih => exact List.Forall₂.cons (hf _ _ hfirst) ih

theorem map_eq_map_of_forall₂ {f : a -> b} {f' : a' -> b}
    (hrows : List.Forall₂ related rows rows')
    (hf : forall row row', related row row' -> f row = f' row') :
    rows.map f = rows'.map f' := by
  induction hrows with
  | nil => rfl
  | cons hfirst hrest ih => rw [List.map_cons, List.map_cons, hf _ _ hfirst, ih]

end Rows

end Relational
end ServerComponents
