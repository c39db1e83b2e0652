import Mathlib.Data.List.Induction

/-!
# Runs

A run is a list of events applied from left to right.  Laws about a run speak
about each event in the store that the event meets.
-/

namespace ServerComponents
namespace Statements

variable {store event : Type*}

def after (step : store -> event -> store) (s : store) (es : List event) : store :=
  es.foldl step s

@[simp] theorem after_nil (step : store -> event -> store) (s : store) :
    after step s [] = s := rfl

@[simp] theorem after_cons (step : store -> event -> store) (s : store)
    (e : event) (es : List event) :
    after step s (e :: es) = after step (step s e) es := rfl

@[simp] theorem after_append (step : store -> event -> store) (s : store)
    (es es' : List event) :
    after step s (es ++ es') = after step (after step s es) es' :=
  List.foldl_append

/-- The law holds of every event of the run, in the store that it meets. -/
def Along (step : store -> event -> store) (law : store -> event -> Prop)
    (s : store) (es : List event) : Prop :=
  forall pre e post, es = pre ++ e :: post -> law (after step s pre) e

def countAlong (step : store -> event -> store) (test : store -> event -> Bool) :
    store -> List event -> Nat
  | _, [] => 0
  | s, e :: es => (if test s e then 1 else 0) + countAlong step test (step s e) es

section Rules

variable {step : store -> event -> store} {law law' : store -> event -> Prop}
  {inv : store -> Prop} {s : store} {e : event} {es es' : List event}

theorem along_nil : Along step law s [] := by
  intro pre e post h
  exact absurd h (by simp)

theorem along_append :
    Along step law s (es ++ es') <->
      Along step law s es ∧ Along step law (after step s es) es' := by
  constructor
  · intro h
    constructor
    · intro pre e post hes
      exact h pre e (post ++ es') (by simp [hes])
    · intro pre e post hes
      have hlaw := h (es ++ pre) e post (by simp [hes])
      simpa using hlaw
  · intro h pre e post hes
    rcases List.append_eq_append_iff.mp hes with ⟨rest, hpre, hes'⟩ | ⟨rest, hes', hrest⟩
    · have hlaw := h.2 rest e post hes'
      rwa [hpre, after_append]
    · cases rest with
      | nil =>
          have hlaw := h.2 [] e post (by simpa using hrest.symm)
          simpa [hes'] using hlaw
      | cons e' rest =>
          simp only [List.cons_append, List.cons.injEq] at hrest
          rcases hrest with ⟨he, hrest⟩
          exact h.1 pre e rest (by rw [hes', he])

theorem along_singleton : Along step law s [e] <-> law s e := by
  constructor
  · intro h
    exact h [] e [] rfl
  · intro h pre e' post hes
    rcases List.singleton_eq_append_iff.mp hes with ⟨hpre, hrest⟩ | ⟨_, hrest⟩
    · cases hpre
      cases hrest
      exact h
    · cases hrest

theorem along_cons :
    Along step law s (e :: es) <-> law s e ∧ Along step law (step s e) es := by
  have h : Along step law s ([e] ++ es) <->
      Along step law s [e] ∧ Along step law (step s e) es := along_append
  rw [along_singleton] at h
  exact h

/-- A law that can be decided can be decided along a run. -/
instance decidableAlong [forall s e, Decidable (law s e)] :
    forall s es, Decidable (Along step law s es)
  | _, [] => isTrue along_nil
  | s, e :: es =>
      have : Decidable (Along step law (step s e) es) := decidableAlong (step s e) es
      decidable_of_iff _ along_cons.symm

theorem Along.mono (h : Along step law s es)
    (himp : forall s e, law s e -> law' s e) : Along step law' s es :=
  fun pre e post hes => himp _ _ (h pre e post hes)

theorem countAlong_le {test test' : store -> event -> Bool}
    (h : forall s e, test s e = true -> test' s e = true) (s : store) (es : List event) :
    countAlong step test s es ≤ countAlong step test' s es := by
  induction es generalizing s with
  | nil => exact Nat.le_refl _
  | cons e es ih =>
      have hrest := ih (step s e)
      simp only [countAlong]
      by_cases htest : test s e = true
      · simp only [htest, h s e htest, if_true]
        omega
      · rw [if_neg htest]
        omega

theorem countAlong_balance {test test' : store -> event -> Bool} {weight : store -> Nat}
    (h : Along step (fun s e => (if test s e = true then 1 else 0) + weight s =
      (if test' s e = true then 1 else 0) + weight (step s e)) s es) :
    countAlong step test s es + weight s =
      countAlong step test' s es + weight (after step s es) := by
  induction es generalizing s with
  | nil => rfl
  | cons e es ih =>
      rcases along_cons.mp h with ⟨hstep, hrest⟩
      have hsum := ih hrest
      simp only [countAlong, after_cons]
      omega

theorem invariant_after (hinv : inv s)
    (hstep : forall s e, inv s -> law s e -> inv (step s e))
    (hlaw : Along step law s es) : inv (after step s es) := by
  induction es generalizing s with
  | nil => exact hinv
  | cons e es ih =>
      have h := along_cons.mp hlaw
      exact ih (hstep s e hinv h.1) h.2

theorem invariant_run (hinv : inv s)
    (hstep : forall s e, inv s -> inv (step s e)) : inv (after step s es) := by
  have hlaw : Along step (fun _ _ => True) s es := fun _ _ _ _ => trivial
  exact invariant_after hinv (fun s e h _ => hstep s e h) hlaw

/-- A property that holds after a run and did not hold before it was
established by one of the events. -/
theorem exists_establishing (prop : store -> Prop) (hbefore : Not (prop s))
    (hafter : prop (after step s es)) :
    exists pre e post, es = pre ++ e :: post ∧
      Not (prop (after step s pre)) ∧ prop (step (after step s pre) e) := by
  induction es using List.reverseRecOn with
  | nil => exact absurd hafter hbefore
  | append_singleton es e ih =>
      by_cases hmid : prop (after step s es)
      · rcases ih hmid with ⟨pre, e', post, hes, hnot, hprop⟩
        exact ⟨pre, e', post ++ [e], by simp [hes], hnot, hprop⟩
      · exact ⟨es, e, [], rfl, hmid, by simpa using hafter⟩

end Rules

end Statements
end ServerComponents
