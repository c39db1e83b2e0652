import Mathlib.Logic.Basic

/-!
# Statement programs

A program over a store is a sequence of statements with a pure computation
between them.  Each statement reads its input (a clock, fresh values) and the
store at the moment it executes, and either answers or fails; the program sees
the answer or the failure and continues.  The same program can be executed in
one atomic transaction or one statement at a time.
-/

namespace ServerComponents
namespace Statements

/--
Programs over a store, with an input for each statement, errors of one type and
a result.
-/
inductive Prog (input store error result : Type) : Type 1 where
  | done (value : result)
  | fail (err : error)
  | query {answer : Type} (read : input -> store -> Except error answer)
      (next : Except error answer -> Prog input store error result)
  | update {answer : Type}
      (write : input -> store -> Except error (answer × store))
      (next : Except error answer -> Prog input store error result)

namespace Prog

variable {input store error a b : Type}

def bind : Prog input store error a -> (a -> Prog input store error b) -> Prog input store error b
  | done value, f => f value
  | fail err, _ => fail err
  | query read next, f => query read (fun reply => (next reply).bind f)
  | update write next, f => update write (fun reply => (next reply).bind f)

def tryCatch : Prog input store error a -> (error -> Prog input store error a) ->
    Prog input store error a
  | done value, _ => done value
  | fail err, handler => handler err
  | query read next, handler =>
      query read (fun reply => (next reply).tryCatch handler)
  | update write next, handler =>
      update write (fun reply => (next reply).tryCatch handler)

instance : Monad (Prog input store error) where
  pure := done
  bind := bind

instance : MonadExceptOf error (Prog input store error) where
  throw := fail
  tryCatch := tryCatch

/-- Continue with an answer, or fail with the statement's error. -/
def ofExcept : Except error a -> Prog input store error a
  | .ok value => done value
  | .error err => fail err

def ask (read : input -> store -> Except error a) : Prog input store error a :=
  query read ofExcept

def exec (write : input -> store -> Except error (a × store)) : Prog input store error a :=
  update write ofExcept

@[simp] theorem pure_eq (value : a) :
    (pure value : Prog input store error a) = done value := rfl

@[simp] theorem bind_eq (p : Prog input store error a) (f : a -> Prog input store error b) :
    p >>= f = p.bind f := rfl

@[simp] theorem throw_eq (err : error) :
    (throw err : Prog input store error a) = fail err := rfl

def result? : Prog input store error a -> Option a
  | done value => some value
  | _ => none

theorem result?_eq_some {p : Prog input store error a} {value : a} :
    p.result? = some value <-> p = done value := by
  cases p <;> simp [result?]

theorem result?_eq_none {p : Prog input store error a} :
    p.result? = none <-> forall value, p ≠ done value := by
  cases p <;> simp [result?]

theorem bind_assoc {c : Type} (p : Prog input store error a)
    (f : a -> Prog input store error b) (g : b -> Prog input store error c) :
    (p.bind f).bind g = p.bind (fun value => (f value).bind g) := by
  induction p with
  | done value => rfl
  | fail err => rfl
  | query read next ih =>
      simp only [bind]
      congr 1
      funext reply
      exact ih reply
  | update write next ih =>
      simp only [bind]
      congr 1
      funext reply
      exact ih reply

/-!
# Atomic execution

All statements of the program execute in order with one input and nothing in
between.
-/

def run (i : input) : Prog input store error a -> store -> Except error a × store
  | done value, s => (.ok value, s)
  | fail err, s => (.error err, s)
  | query read next, s => (next (read i s)).run i s
  | update write next, s =>
      match write i s with
      | .ok (reply, s') => (next (.ok reply)).run i s'
      | .error err => (next (.error err)).run i s

/-- What is asked of the answer of a write carries over, case by case. -/
theorem answered {reply : Type} {written : Except error (reply × store)}
    {success success' : reply -> store -> Prop} {failure failure' : error -> Prop} :
    (match written with
      | .ok (r, s') => success r s'
      | .error err => failure err) ->
    (forall r s', success r s' -> success' r s') ->
    (forall err, failure err -> failure' err) ->
    match written with
    | .ok (r, s') => success' r s'
    | .error err => failure' err := by
  intro h hok herror
  cases written with
  | ok pair => exact hok _ _ h
  | error err => exact herror err h

/-- Atomic execution that keeps the old store when the program fails. -/
def transact (i : input) (p : Prog input store error a) (s : store) :
    Except error a × store :=
  match p.run i s with
  | (.ok value, s') => (.ok value, s')
  | (.error err, _) => (.error err, s)

@[simp] theorem run_done (i : input) (value : a) (s : store) :
    (done value : Prog input store error a).run i s = (.ok value, s) := rfl

@[simp] theorem run_fail (i : input) (err : error) (s : store) :
    (fail err : Prog input store error a).run i s = (.error err, s) := rfl

@[simp] theorem run_ofExcept (i : input) (reply : Except error a) (s : store) :
    (ofExcept reply : Prog input store error a).run i s = (reply, s) := by
  cases reply <;> rfl

@[simp] theorem run_ask (i : input) (read : input -> store -> Except error a)
    (s : store) : (ask read).run i s = (read i s, s) := by
  simp [ask, run]

theorem run_exec (i : input) (write : input -> store -> Except error (a × store))
    (s : store) :
    (exec write).run i s =
      match write i s with
      | .ok (reply, s') => (.ok reply, s')
      | .error err => (.error err, s) := by
  simp only [exec, run]
  cases write i s with
  | ok pair => rfl
  | error err => rfl

theorem run_bind (i : input) (p : Prog input store error a)
    (f : a -> Prog input store error b) (s : store) :
    (p.bind f).run i s =
      match p.run i s with
      | (.ok value, s') => (f value).run i s'
      | (.error err, s') => (.error err, s') := by
  induction p generalizing s with
  | done value => rfl
  | fail err => rfl
  | query read next ih =>
      simp only [bind, run]
      exact ih (read i s) s
  | update write next ih =>
      simp only [bind, run]
      cases write i s with
      | ok pair => exact ih (.ok pair.1) pair.2
      | error err => exact ih (.error err) s

theorem run_tryCatch (i : input) (p : Prog input store error a)
    (handler : error -> Prog input store error a) (s : store) :
    (p.tryCatch handler).run i s =
      match p.run i s with
      | (.ok value, s') => (.ok value, s')
      | (.error err, s') => (handler err).run i s' := by
  induction p generalizing s with
  | done value => rfl
  | fail err => rfl
  | query read next ih =>
      simp only [tryCatch, run]
      exact ih (read i s) s
  | update write next ih =>
      simp only [tryCatch, run]
      cases write i s with
      | ok pair => exact ih (.ok pair.1) pair.2
      | error err => exact ih (.error err) s

/-!
# Postconditions of atomic executions

A postcondition speaks about the outcome, an answer or an error, and the store
left behind.  The rules below take a program apart from its first statement on.
-/

/-- The postcondition holds after the program has run from this store. -/
def wp (i : input) (p : Prog input store error a)
    (post : Except error a -> store -> Prop) (s : store) : Prop :=
  post (p.run i s).1 (p.run i s).2

section Rules

variable {i : input} {s : store} {post : Except error a -> store -> Prop}
variable {p : Prog input store error a}

theorem wp_run {outcome : Except error a}
    {s' : store} (hwp : wp i p post s) (hrun : p.run i s = (outcome, s')) :
    post outcome s' := by
  unfold wp at hwp
  rw [hrun] at hwp
  exact hwp

theorem wp_mono {post' : Except error a -> store -> Prop}
    (himp : forall outcome s', post outcome s' -> post' outcome s')
    (hwp : wp i p post s) : wp i p post' s :=
  himp _ _ hwp

theorem transact_of_wp (hwp : wp i p post s)
    (hrollback : forall err s', post (.error err) s' -> post (.error err) s) :
    post (transact i p s).1 (transact i p s).2 := by
  unfold wp at hwp
  unfold transact
  rcases hrun : p.run i s with ⟨outcome, s'⟩
  rw [hrun] at hwp
  cases outcome with
  | ok value => exact hwp
  | error err => exact hrollback err s' hwp

@[simp] theorem wp_done {value : a} :
    wp i (done value) post s <-> post (.ok value) s := Iff.rfl

@[simp] theorem wp_ofExcept {reply : Except error a} :
    wp i (ofExcept reply) post s <-> post reply s := by
  simp [wp]

@[simp] theorem wp_ask {read : input -> store -> Except error a} :
    wp i (ask read) post s <-> post (read i s) s := by
  simp [wp]

theorem wp_exec {write : input -> store -> Except error (a × store)} :
    wp i (exec write) post s <->
      match write i s with
      | .ok (reply, s') => post (.ok reply) s'
      | .error err => post (.error err) s := by
  unfold wp
  rw [run_exec]
  cases write i s <;> exact Iff.rfl

theorem transact_error {err : error}
    (h : (transact i p s).1 = .error err) : (transact i p s).2 = s := by
  unfold transact at h ⊢
  rcases hrun : p.run i s with ⟨outcome, s'⟩
  rw [hrun] at h
  cases outcome with
  | ok value => cases h
  | error err' => rfl

theorem exec_of_wp {write : input -> store -> Except error (a × store)} {reply : a}
    {s' : store} (hwp : wp i (exec write) post s) (hwrite : write i s = .ok (reply, s')) :
    post (.ok reply) s' := by
  rw [wp_exec, hwrite] at hwp
  exact hwp

theorem wp_bind {p : Prog input store error b}
    {f : b -> Prog input store error a} :
    wp i (p.bind f) post s <->
      wp i p (fun outcome s' =>
        match outcome with
        | .ok value => wp i (f value) post s'
        | .error err => post (.error err) s') s := by
  unfold wp
  rw [run_bind]
  rcases p.run i s with ⟨outcome, s'⟩
  cases outcome <;> exact Iff.rfl

theorem wp_tryCatch {handler : error -> Prog input store error a} :
    wp i (p.tryCatch handler) post s <->
      wp i p (fun outcome s' =>
        match outcome with
        | .ok value => post (.ok value) s'
        | .error err => wp i (handler err) post s') s := by
  unfold wp
  rw [run_tryCatch]
  rcases p.run i s with ⟨outcome, s'⟩
  cases outcome <;> exact Iff.rfl

end Rules

end Prog

end Statements
end ServerComponents
