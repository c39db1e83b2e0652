import Mathlib.Data.List.Find
import Mathlib.Logic.Basic

/-!
# Computations with exceptions

A computation over a state answers a value or throws.  What it has done to the state
before it throws stays done.  Catch clauses are tried in their order, each on the thrown
object.
-/

namespace ServerComponents
namespace Control

/-- A computation over a state that may throw. -/
def Work (state thrown a : Type) : Type := state -> Except thrown a × state

namespace Work

variable {state thrown a b : Type}

def done (value : a) : Work state thrown a := fun s => (.ok value, s)

def bind (w : Work state thrown a) (f : a -> Work state thrown b) : Work state thrown b :=
  fun s =>
    match w s with
    | (.ok value, s') => f value s'
    | (.error t, s') => (.error t, s')

def raise (t : thrown) : Work state thrown a := fun s => (.error t, s)

def modify (change : state -> state) : Work state thrown Unit := fun s => (.ok (), change s)

def assign (s : state) : Work state thrown Unit := modify (fun _ => s)

instance : Monad (Work state thrown) where
  pure := done
  bind := bind

@[simp] theorem pure_eq (value : a) : (pure value : Work state thrown a) = done value := rfl

@[simp] theorem bind_eq (w : Work state thrown a) (f : a -> Work state thrown b) :
    w >>= f = w.bind f := rfl

end Work

/-- A catch clause: what it catches, and what it does then. -/
structure Clause (state thrown a : Type) where
  catches : thrown -> Bool
  body : thrown -> Work state thrown a

namespace Work

variable {state thrown a b : Type}

@[simp] theorem done_bind (value : a) (f : a -> Work state thrown b) :
    (done value).bind f = f value := rfl

@[simp] theorem raise_bind (t : thrown) (f : a -> Work state thrown b) :
    (raise t).bind f = raise t := rfl

@[simp] theorem done_apply (value : a) (s : state) :
    (done value : Work state thrown a) s = (.ok value, s) := rfl

@[simp] theorem raise_apply (t : thrown) (s : state) :
    (raise t : Work state thrown a) s = (.error t, s) := rfl

theorem bind_ok {w : Work state thrown a} {f : a -> Work state thrown b} {s s' : state}
    {value : a} (h : w s = (.ok value, s')) : w.bind f s = f value s' := by
  unfold Work.bind
  rw [h]

theorem bind_error {w : Work state thrown a} {f : a -> Work state thrown b} {s s' : state}
    {t : thrown} (h : w s = (.error t, s')) : w.bind f s = (.error t, s') := by
  unfold Work.bind
  rw [h]

/-- `try` with its clauses; what no clause catches is thrown on. -/
def catching (w : Work state thrown a) (clauses : List (Clause state thrown a)) :
    Work state thrown a :=
  fun s =>
    match w s with
    | (.ok value, s') => (.ok value, s')
    | (.error t, s') =>
        match clauses.find? (fun c => c.catches t) with
        | none => (.error t, s')
        | some c => c.body t s'

variable {clauses : List (Clause state thrown a)}

theorem catching_ok {w : Work state thrown a}
    {s s' : state} {value : a} (h : w s = (.ok value, s')) :
    w.catching clauses s = (.ok value, s') := by
  unfold catching
  rw [h]

theorem catching_error {w : Work state thrown a}
    {s s' : state} {t : thrown} (h : w s = (.error t, s')) :
    w.catching clauses s =
      match clauses.find? (fun c => c.catches t) with
      | none => (.error t, s')
      | some c => c.body t s' := by
  unfold catching
  rw [h]

/-!
# Computations that differ in what they throw
-/

/-- The same value or exceptions that are related, in the same state. -/
inductive SameEnd (same : thrown -> thrown -> Prop) :
    Except thrown a × state -> Except thrown a × state -> Prop
  | ok (value : a) (s : state) : SameEnd same (.ok value, s) (.ok value, s)
  | error {t t' : thrown} (s : state) (h : same t t') :
      SameEnd same (.error t, s) (.error t', s)

/-- Computations that differ in the exceptions that they throw, and only there. -/
def Alike (same : thrown -> thrown -> Prop) (w w' : Work state thrown a) : Prop :=
  forall s, SameEnd same (w s) (w' s)

section Rules

variable {same : thrown -> thrown -> Prop}

theorem Alike.refl (hsame : forall t, same t t) (w : Work state thrown a) :
    Alike same w w := by
  intro s
  rcases hw : w s with ⟨outcome, s'⟩
  cases outcome with
  | ok value => exact SameEnd.ok value s'
  | error t => exact SameEnd.error s' (hsame t)

theorem alike_done (value : a) :
    Alike same (done value : Work state thrown a) (done value) :=
  fun s => SameEnd.ok value s

theorem Alike.bind {w w' : Work state thrown a} {f f' : a -> Work state thrown b}
    (hw : Alike same w w') (hf : forall value, Alike same (f value) (f' value)) :
    Alike same (w.bind f) (w'.bind f') := by
  intro s
  have hs := hw s
  rcases hend : w s with ⟨outcome, s'⟩
  rcases hend' : w' s with ⟨outcome', s''⟩
  rw [hend, hend'] at hs
  unfold Work.bind
  rw [hend, hend']
  cases hs with
  | ok value => exact hf value s'
  | error _ h => exact SameEnd.error s' h

theorem Alike.catching {w w' : Work state thrown a} (hw : Alike same w w')
    (hclauses : forall c, c ∈ clauses -> forall t t', same t t' ->
      c.catches t = c.catches t' ∧ Alike same (c.body t) (c.body t')) :
    Alike same (w.catching clauses) (w'.catching clauses) := by
  intro s
  have hs := hw s
  rcases hend : w s with ⟨outcome, s'⟩
  rcases hend' : w' s with ⟨outcome', s''⟩
  rw [hend, hend'] at hs
  cases hs with
  | ok value =>
      rw [catching_ok hend, catching_ok hend']
      exact SameEnd.ok value s'
  | @error t t' _ h =>
      rw [catching_error hend, catching_error hend']
      have hchoice : clauses.find? (fun c => c.catches t) =
          clauses.find? (fun c => c.catches t') := by
        apply List.find?_congr
        intro c hc
        exact (hclauses c hc t t' h).1
      rw [← hchoice]
      cases hfind : clauses.find? (fun c => c.catches t) with
      | none => exact SameEnd.error s' h
      | some c => exact (hclauses c (List.mem_of_find?_eq_some hfind) t t' h).2 s'

end Rules

/-!
# Computations that record their steps

The state of such a computation holds the steps that it has done.  A computation is
described by what it adds to them, and how it ends.
-/

section Recorded

variable {state step thrown a b : Type}

/-- What is done, with the step that records how it ended. -/
def record (label : Except thrown a -> state -> step) (w : Work state thrown a) :
    Work (state × List step) thrown a :=
  fun s => ((w s.1).1, ((w s.1).2, s.2 ++ [label (w s.1).1 (w s.1).2]))

/-- What a computation adds to the steps, with the end and the state that go with it. -/
def Records (w : Work (state × List step) thrown a)
    (post : Except thrown a -> state -> List step -> Prop) : Prop :=
  forall s, exists steps, (w s).2.2 = s.2 ++ steps ∧ post (w s).1 (w s).2.1 steps

section RecordRules

variable {post post' : Except thrown a -> state -> List step -> Prop}

theorem records_raise {t : thrown} (h : forall s, post (.error t) s []) :
    (raise t : Work (state × List step) thrown a).Records post :=
  fun s => ⟨[], by simp [raise], h s.1⟩

theorem records_record {label : Except thrown a -> state -> step} {w : Work state thrown a}
    (h : forall s, post (w s).1 (w s).2 [label (w s).1 (w s).2]) :
    (record label w).Records post :=
  fun s => ⟨[label (w s.1).1 (w s.1).2], rfl, h s.1⟩

theorem records_bind {w : Work (state × List step) thrown b}
    {f : b -> Work (state × List step) thrown a}
    {first : Except thrown b -> state -> List step -> Prop}
    {second : b -> Except thrown a -> state -> List step -> Prop}
    (hw : w.Records first) (hf : forall value, (f value).Records (second value))
    (herror : forall t s steps, first (.error t) s steps -> post (.error t) s steps)
    (hok : forall value s steps outcome s' steps', first (.ok value) s steps ->
      second value outcome s' steps' -> post outcome s' (steps ++ steps')) :
    (w.bind f).Records post := by
  intro s
  rcases hw s with ⟨steps, hsteps, hfirst⟩
  rcases hend : w s with ⟨outcome, s'⟩
  rw [hend] at hsteps hfirst
  unfold Work.bind
  rw [hend]
  cases outcome with
  | error t => exact ⟨steps, hsteps, herror t _ _ hfirst⟩
  | ok value =>
      rcases hf value s' with ⟨steps', hsteps', hsecond⟩
      refine ⟨steps ++ steps', ?_, hok value _ _ _ _ _ hfirst hsecond⟩
      show (f value s').2.2 = s.2 ++ (steps ++ steps')
      rw [hsteps', hsteps, List.append_assoc]

theorem records_catching {w : Work (state × List step) thrown a}
    {c : Clause (state × List step) thrown a}
    {first : Except thrown a -> state -> List step -> Prop}
    {second : thrown -> Except thrown a -> state -> List step -> Prop}
    (hw : w.Records first) (hc : forall t, (c.body t).Records (second t))
    (hok : forall value s steps, first (.ok value) s steps -> post (.ok value) s steps)
    (hthrown : forall t s steps, c.catches t = false -> first (.error t) s steps ->
      post (.error t) s steps)
    (hcaught : forall t s steps outcome s' steps', first (.error t) s steps ->
      second t outcome s' steps' -> post outcome s' (steps ++ steps')) :
    (w.catching [c]).Records post := by
  intro s
  rcases hw s with ⟨steps, hsteps, hfirst⟩
  rcases hend : w s with ⟨outcome, s'⟩
  rw [hend] at hsteps hfirst
  cases outcome with
  | ok value =>
      rw [catching_ok hend]
      exact ⟨steps, hsteps, hok value _ _ hfirst⟩
  | error t =>
      rw [catching_error hend]
      by_cases hcatches : c.catches t = true
      · rcases hc t s' with ⟨steps', hsteps', hsecond⟩
        rw [List.find?_cons_of_pos (by exact hcatches)]
        refine ⟨steps ++ steps', ?_, hcaught t _ _ _ _ _ hfirst hsecond⟩
        show (c.body t s').2.2 = s.2 ++ (steps ++ steps')
        rw [hsteps', hsteps, List.append_assoc]
      · rw [List.find?_cons_of_neg (by exact hcatches), List.find?_nil]
        exact ⟨steps, hsteps, hthrown t _ _ (by simpa using hcatches) hfirst⟩

end RecordRules

end Recorded

end Work

end Control
end ServerComponents

/-!
# Attempts until one is the last

What is tried again after an attempt is a property of its number.
-/

namespace ServerComponents
namespace Control

/-- From the first attempt on every one is followed by another, up to the last. -/
structure Attempts (again : Nat -> Prop) (first last : Nat) : Prop where
  first_le : first ≤ last
  followed : forall k, first ≤ k -> k < last -> again k
  stopped : Not (again last)

namespace Attempts

variable {again : Nat -> Prop} {first last : Nat}

theorem stop (h : Not (again first)) : Attempts again first first where
  first_le := Nat.le_refl first
  followed := fun _ hle hlt => absurd hlt (Nat.not_lt.mpr hle)
  stopped := h

theorem next (hagain : again first) (h : Attempts again (first + 1) last) :
    Attempts again first last where
  first_le := Nat.le_trans (Nat.le_succ first) h.first_le
  followed := by
    intro k hle hlt
    rcases Nat.eq_or_lt_of_le hle with heq | hless
    · rw [← heq]
      exact hagain
    · exact h.followed k hless hlt
  stopped := h.stopped

theorem lt_iff (h : Attempts again first last) {k : Nat} (hfirst : first ≤ k) (hlast : k ≤ last) :
    k < last <-> again k := by
  constructor
  · exact h.followed k hfirst
  · intro hagain
    rcases Nat.lt_or_eq_of_le hlast with hlt | heq
    · exact hlt
    · rw [heq] at hagain
      exact absurd hagain h.stopped

theorem le_iff (h : Attempts again first last) (k : Nat) :
    k ≤ last <-> forall j, first ≤ j -> j < k -> again j := by
  constructor
  · exact fun hk j hj hlt => h.followed j hj (Nat.lt_of_lt_of_le hlt hk)
  · intro hall
    refine Nat.not_lt.mp (fun hlt => ?_)
    exact h.stopped (hall last h.first_le hlt)

end Attempts

end Control
end ServerComponents
