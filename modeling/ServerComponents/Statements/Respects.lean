import ServerComponents.Statements.Prog

/-!
# What a program may do, statement by statement

`Respects` follows a program through every reply that its statements can get
from admissible stores.  It bounds the results that the program can return
without having written, and it relates each successful write to the program that
is left after it.
-/

namespace ServerComponents
namespace Statements
namespace Prog

variable {input store error a b : Type}

/--
From admissible inputs and stores, results are as `returns` says and every
successful write, with the program that follows it, is as `writes` says.
-/
def Respects (admits : input -> store -> Prop) (returns : a -> Prop)
    (writes : input -> store -> store -> Prog input store error a -> Prop) :
    Prog input store error a -> Prop
  | done value => returns value
  | fail _ => True
  | query read next =>
      forall i s, admits i s -> Respects admits returns writes (next (read i s))
  | update write next =>
      forall i s, admits i s ->
        match write i s with
        | .ok (reply, s') => writes i s s' (next (.ok reply))
        | .error err => Respects admits returns writes (next (.error err))

variable {p : Prog input store error a}

section Rules

variable {admits admits' : input -> store -> Prop} {returns : a -> Prop}
  {writes : input -> store -> store -> Prog input store error a -> Prop}

@[simp] theorem respects_done {value : a} :
    Respects admits returns writes (done value : Prog input store error a) <->
      returns value := Iff.rfl

theorem respects_ask {read : input -> store -> Except error a}
    (h : forall i s value, admits i s -> read i s = .ok value -> returns value) :
    Respects admits returns writes (ask read) := by
  intro i s hadmits
  cases hread : read i s with
  | ok value => exact h i s value hadmits hread
  | error err => exact trivial

variable {f : b -> Prog input store error a}

theorem respects_bind {p : Prog input store error b}
    (hp : Respects admits (fun value => Respects admits returns writes (f value))
      (fun _ _ _ _ => False) p) :
    Respects admits returns writes (p.bind f) := by
  induction p with
  | done value => exact hp
  | fail err => exact trivial
  | query read next ih =>
      intro i s hadmits
      exact ih (read i s) (hp i s hadmits)
  | update write next ih =>
      intro i s hadmits
      exact answered (hp i s hadmits) (fun _ _ h => h.elim) (fun err => ih (.error err))

theorem respects_exec_bind {write : input -> store -> Except error (b × store)}
    (h : forall i s reply s', admits i s -> write i s = .ok (reply, s') ->
      writes i s s' (f reply)) :
    Respects admits returns writes ((exec write).bind f) := by
  intro i s hadmits
  cases hwrite : write i s with
  | ok pair => exact h i s pair.1 pair.2 hadmits hwrite
  | error err => exact trivial

/-- A handler sees the failures before the write; what follows the write is
still under it. -/
theorem respects_tryCatch {handler : error -> Prog input store error a}
    (hp : Respects admits returns
      (fun i s s' rest => writes i s s' (rest.tryCatch handler)) p)
    (hhandler : forall err, Respects admits returns writes (handler err)) :
    Respects admits returns writes (p.tryCatch handler) := by
  induction p with
  | done value => exact hp
  | fail err => exact hhandler err
  | query read next ih =>
      intro i s hadmits
      exact ih (read i s) (hp i s hadmits)
  | update write next ih =>
      intro i s hadmits
      exact answered (hp i s hadmits) (fun _ _ h => h) (fun err => ih (.error err))

theorem respects_ofExcept {value : Except error a}
    (h : forall v, value = .ok v -> returns v) :
    Respects admits returns writes (ofExcept value) := by
  cases value with
  | ok v => exact h v rfl
  | error err => exact trivial

theorem respects_bind_writes {p : Prog input store error b}
    (hp : Respects admits (fun value => Respects admits returns writes (f value))
      (fun i s s' rest => writes i s s' (rest.bind f)) p) :
    Respects admits returns writes (p.bind f) := by
  induction p with
  | done value => exact hp
  | fail err => exact trivial
  | query read next ih =>
      intro i s hadmits
      exact ih (read i s) (hp i s hadmits)
  | update write next ih =>
      intro i s hadmits
      exact answered (hp i s hadmits) (fun _ _ h => h) (fun err => ih (.error err))

end Rules

/-!
# Programs that only read
-/

def ReadOnly : Prog input store error a -> Prop
  | done _ => True
  | fail _ => True
  | query _ next => forall reply, ReadOnly (next reply)
  | update _ _ => False

@[simp] theorem readOnly_ask {read : input -> store -> Except error a} :
    ReadOnly (ask read) := by
  intro reply
  cases reply <;> exact trivial

theorem ReadOnly.bind {p : Prog input store error b}
    {f : b -> Prog input store error a} (hp : ReadOnly p)
    (hf : forall value, ReadOnly (f value)) : ReadOnly (p.bind f) := by
  induction p with
  | done value => exact hf value
  | fail err => exact trivial
  | query read next ih => exact fun reply => ih reply (hp reply)
  | update write next ih => exact hp.elim

theorem ReadOnly.tryCatch {handler : error -> Prog input store error a} (hp : ReadOnly p)
    (hhandler : forall err, ReadOnly (handler err)) :
    ReadOnly (p.tryCatch handler) := by
  induction p with
  | done value => exact trivial
  | fail err => exact hhandler err
  | query read next ih => exact fun reply => ih reply (hp reply)
  | update write next ih => exact hp.elim

@[simp] theorem readOnly_ofExcept {value : Except error a} :
    ReadOnly (ofExcept value : Prog input store error a) := by
  cases value <;> exact trivial

theorem ReadOnly.run_store (hp : ReadOnly p) (i : input) (s : store) : (p.run i s).2 = s := by
  induction p with
  | done value => rfl
  | fail err => rfl
  | query read next ih => exact ih (read i s) (hp (read i s))
  | update write next ih => exact hp.elim

theorem ReadOnly.wp (hp : ReadOnly p) {i : input}
    {s : store} {post : Except error a -> store -> Prop}
    (hpost : forall outcome, post outcome s) : wp i p post s := by
  unfold Prog.wp
  rw [hp.run_store]
  exact hpost _

theorem ReadOnly.respects (hp : ReadOnly p) {admits : input -> store -> Prop} {returns : a -> Prop}
    {writes : input -> store -> store -> Prog input store error a -> Prop}
    (hreturns : forall value, returns value) :
    Respects admits returns writes p := by
  induction p with
  | done value => exact hreturns value
  | fail err => exact trivial
  | query read next ih => exact fun i s _ => ih (read i s) (hp (read i s))
  | update write next ih => exact hp.elim

end Prog
end Statements
end ServerComponents
