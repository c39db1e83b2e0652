import Mathlib.Data.List.Nodup
import Mathlib.Data.List.Perm.Basic
import Mathlib.Logic.Function.Basic
import ServerComponents.Statements.Respects
import ServerComponents.Statements.Run

/-!
# Threads

The threads of a system are a list of their states, and a step sets the state of one of
them.  What threads are counted and what they hold changes by that one thread.
-/

namespace ServerComponents
namespace Statements

variable {thread resource : Type*} {threads : List thread} {i : Nat} {t t' : thread}

theorem exists_split (h : threads[i]? = some t) :
    exists before later, threads = before ++ t :: later ∧
      forall t', threads.set i t' = before ++ t' :: later := by
  rcases List.getElem?_eq_some_iff.mp h with ⟨hi, ht⟩
  refine ⟨threads.take i, threads.drop (i + 1), ?_, ?_⟩
  · rw [← ht, List.getElem_cons_drop, List.take_append_drop]
  · intro t'
    rw [List.set_eq_take_append_cons_drop, if_pos hi]

theorem countP_set_add (test : thread -> Bool) (h : threads[i]? = some t) (t' : thread) :
    (threads.set i t').countP test + (test t).toNat =
      threads.countP test + (test t').toNat := by
  rcases exists_split h with ⟨before, later, hthreads, hset⟩
  rw [hset, hthreads]
  simp only [List.countP_append, List.countP_cons]
  cases ht : test t <;> cases ht' : test t' <;>
    simp only [Bool.toNat_true, Bool.toNat_false, Bool.false_eq_true, if_true, if_false] <;>
    omega

theorem countP_pos_of_get {test : thread -> Bool} (h : threads[i]? = some t)
    (ht : test t = true) : 0 < threads.countP test :=
  List.countP_pos_iff.mpr ⟨t, List.mem_of_getElem? h, ht⟩

def gathered (held : thread -> List resource) (threads : List thread) : List resource :=
  threads.flatMap held

section Gathered

variable {held : thread -> List resource}

theorem perm_swap_ends (first middle last : List resource) :
    (first ++ (middle ++ last)).Perm (last ++ (middle ++ first)) := by
  have hback : (first ++ (middle ++ last)).Perm ((last ++ middle) ++ first) :=
    List.perm_append_comm.trans (List.Perm.append_right first List.perm_append_comm)
  rwa [List.append_assoc] at hback

theorem gathered_set (held : thread -> List resource) (h : threads[i]? = some t)
    (t' : thread) :
    (gathered held (threads.set i t') ++ held t).Perm (gathered held threads ++ held t') := by
  rcases exists_split h with ⟨before, later, hthreads, hset⟩
  rw [hset, hthreads]
  simp only [gathered, List.flatMap_append, List.flatMap_cons, List.append_assoc]
  refine List.Perm.append_left _ ?_
  exact perm_swap_ends _ _ _

theorem gathered_append (h : held t = []) :
    gathered held (threads ++ [t]) = gathered held threads := by
  simp [gathered, h]

theorem index_unique_of_nodup {x : resource} {j : Nat} (hnodup : (gathered held threads).Nodup)
    (hi : threads[i]? = some t) (hj : threads[j]? = some t') (hx : x ∈ held t)
    (hx' : x ∈ held t') : i = j := by
  rcases List.getElem?_eq_some_iff.mp hi with ⟨hilt, hti⟩
  rcases List.getElem?_eq_some_iff.mp hj with ⟨hjlt, htj⟩
  have hdisjoint := List.pairwise_iff_getElem.mp (List.nodup_flatMap.mp hnodup).2
  rcases Nat.lt_trichotomy i j with hlt | heq | hgt
  · have hpair := hdisjoint i j hilt hjlt hlt
    rw [hti, htj] at hpair
    exact absurd hx' (hpair hx)
  · exact heq
  · have hpair := hdisjoint j i hjlt hilt hgt
    rw [hti, htj] at hpair
    exact absurd hx (hpair hx')

end Gathered

end Statements
end ServerComponents

/-!
# Interleaved programs

Every thread executes a program of its own against one store, and each statement
is atomic and takes effect at once.  A schedule is a list of turns, each with the
input that the statement reads.
-/

namespace ServerComponents
namespace Statements

namespace Prog

variable {input store error a b : Type}

def step (i : input) : Prog input store error a -> store -> store × Prog input store error a
  | done value, s => (s, done value)
  | fail err, s => (s, fail err)
  | query read next, s => (s, next (read i s))
  | update write next, s =>
      match write i s with
      | .ok (reply, s') => (s', next (.ok reply))
      | .error err => (s, next (.error err))

/--
A statement of a program under a `Respects` judgement either leaves the store
and the judgement as they are, or is one of the described writes.
-/
theorem Respects.step {admits : input -> store -> Prop} {returns : a -> Prop}
    {writes : input -> store -> store -> Prog input store error a -> Prop}
    {p : Prog input store error a} {i : input} {s : store}
    (hp : Respects admits returns writes p) (hadmits : admits i s) :
    ((p.step i s).1 = s ∧ Respects admits returns writes (p.step i s).2) ∨
      writes i s (p.step i s).1 (p.step i s).2 := by
  cases p with
  | done value => exact Or.inl ⟨rfl, hp⟩
  | fail err => exact Or.inl ⟨rfl, trivial⟩
  | query read next => exact Or.inl ⟨rfl, hp i s hadmits⟩
  | update write next =>
      have h := hp i s hadmits
      simp only [Prog.step]
      cases hwrite : write i s with
      | ok pair =>
          rw [hwrite] at h
          exact Or.inr h
      | error err =>
          rw [hwrite] at h
          exact Or.inl ⟨rfl, h⟩

theorem ReadOnly.step {p : Prog input store error a} (hp : ReadOnly p)
    (i : input) (s : store) : (p.step i s).1 = s ∧ ReadOnly (p.step i s).2 := by
  cases p with
  | done value => exact ⟨rfl, trivial⟩
  | fail err => exact ⟨rfl, trivial⟩
  | query read next => exact ⟨rfl, hp (read i s)⟩
  | update write next => exact hp.elim

end Prog

/-!
# Systems of threads
-/

structure Turn (thread input : Type) where
  thread : thread
  input : input

structure System (thread input store error result : Type) : Type 1 where
  shared : store
  prog : thread -> Prog input store error result

namespace System

variable {thread input store error result : Type} [DecidableEq thread]

def step (s : System thread input store error result) (e : Turn thread input) :
    System thread input store error result where
  shared := ((s.prog e.thread).step e.input s.shared).1
  prog := Function.update s.prog e.thread ((s.prog e.thread).step e.input s.shared).2

variable {s : System thread input store error result} {e : Turn thread input}
  {t : thread}

theorem step_prog_self :
    (s.step e).prog e.thread = ((s.prog e.thread).step e.input s.shared).2 := by
  simp [step]

theorem step_prog_ne (h : t ≠ e.thread) : (s.step e).prog t = s.prog t := by
  simp [step, h]

def Returns (s : System thread input store error result) (e : Turn thread input)
    (value : result) : Prop :=
  (s.prog e.thread).result? = none ∧ ((s.step e).prog e.thread).result? = some value

theorem forall_prog_step {keeps : thread -> Prog input store error result -> Prop}
    (h : forall t, keeps t (s.prog t))
    (hstep : keeps e.thread ((s.prog e.thread).step e.input s.shared).2) (t : thread) :
    keeps t ((s.step e).prog t) := by
  by_cases ht : t = e.thread
  · rw [ht, step_prog_self]
    exact hstep
  · rw [step_prog_ne ht]
    exact h t

end System

end Statements
end ServerComponents
