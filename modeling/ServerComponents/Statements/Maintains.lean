import ServerComponents.Statements.Transacts

/-!
# Invariants of every statement

A program maintains an invariant when each of its writes does, from any store in which
the invariant holds.  Nothing is lost when other programs run between its statements, and
nothing when it fails half way.
-/

namespace ServerComponents
namespace Statements
namespace Prog

variable {input store error a b : Type}

/-- Every write maintains the invariant, and the results are as `returns` says. -/
def Maintains (inv : store -> Prop) (returns : a -> Prop) : Prog input store error a -> Prop
  | done value => returns value
  | fail _ => True
  | query read next => forall i s, inv s -> Maintains inv returns (next (read i s))
  | update write next =>
      forall i s, inv s ->
        match write i s with
        | .ok (reply, s') => inv s' ∧ Maintains inv returns (next (.ok reply))
        | .error err => Maintains inv returns (next (.error err))

section Rules

variable {inv : store -> Prop} {returns : a -> Prop}

theorem maintains_ofExcept {value : Except error a} (h : forall v, value = .ok v -> returns v) :
    Maintains inv returns (ofExcept value : Prog input store error a) := by
  cases value with
  | ok v => exact h v rfl
  | error err => exact trivial

theorem maintains_ask {read : input -> store -> Except error a}
    (h : forall i s value, inv s -> read i s = .ok value -> returns value) :
    Maintains inv returns (ask read) := by
  intro i s hinv
  exact maintains_ofExcept (fun value hread => h i s value hinv hread)

theorem maintains_exec {write : input -> store -> Except error (a × store)}
    (h : forall i s reply s', inv s -> write i s = .ok (reply, s') ->
      inv s' ∧ returns reply) :
    Maintains inv returns (exec write) := by
  intro i s hinv
  cases hwrite : write i s with
  | error err => exact trivial
  | ok pair => exact h i s pair.1 pair.2 hinv hwrite

theorem Maintains.bind {returns' : b -> Prop} {p : Prog input store error b}
    {f : b -> Prog input store error a} (hp : Maintains inv returns' p)
    (hf : forall value, returns' value -> Maintains inv returns (f value)) :
    Maintains inv returns (p.bind f) := by
  induction p with
  | done value => exact hf value hp
  | fail err => exact trivial
  | query read next ih =>
      intro i s hinv
      exact ih (read i s) (hp i s hinv)
  | update write next ih =>
      intro i s hinv
      exact answered (hp i s hinv) (fun _ _ h => ⟨h.1, ih _ h.2⟩) (fun _ => ih _)

theorem Maintains.bind_any {p : Prog input store error b} {f : b -> Prog input store error a}
    (hp : Maintains inv (fun _ => True) p) (hf : forall value, Maintains inv returns (f value)) :
    Maintains inv returns (p.bind f) :=
  hp.bind (fun value _ => hf value)

variable {p : Prog input store error a}

theorem Maintains.tryCatch
    {handler : error -> Prog input store error a} (hp : Maintains inv returns p)
    (hhandler : forall err, Maintains inv returns (handler err)) :
    Maintains inv returns (p.tryCatch handler) := by
  induction p with
  | done value => exact hp
  | fail err => exact hhandler err
  | query read next ih =>
      intro i s hinv
      exact ih (read i s) (hp i s hinv)
  | update write next ih =>
      intro i s hinv
      exact answered (hp i s hinv) (fun _ _ h => ⟨h.1, ih _ h.2⟩) (fun _ => ih _)

theorem ReadOnly.maintains (hp : ReadOnly p) :
    Maintains inv (fun _ => True) p := by
  induction p with
  | done value => exact trivial
  | fail err => exact trivial
  | query read next ih =>
      intro i s _
      exact ih (read i s) (hp (read i s))
  | update write next ih => exact hp.elim

theorem Keeps.maintains {key : Type} {view : store -> key} {outcomes : Except error a -> Prop}
    {invariant : key -> Prop} (hp : Keeps view outcomes p) :
    Maintains (fun s => invariant (view s)) (fun _ => True) p := by
  induction p with
  | done value => exact trivial
  | fail err => exact trivial
  | query read next ih =>
      intro i s _
      exact ih (read i s) (hp i s)
  | update write next ih =>
      intro i s hinv
      refine answered (hp i s) (fun _ s' h => ⟨?_, ih _ h.2⟩) (fun _ => ih _)
      show invariant (view s')
      rw [h.1]
      exact hinv

theorem Maintains.run (hp : Maintains inv returns p) (i : input)
    {s : store} (hinv : inv s) : inv (p.run i s).2 := by
  induction p generalizing s with
  | done value => exact hinv
  | fail err => exact hinv
  | query read next ih => exact ih (read i s) (hp i s hinv) hinv
  | update write next ih =>
      have hwrites := hp i s hinv
      unfold Prog.run
      cases hwrite : write i s with
      | error err =>
          rw [hwrite] at hwrites
          exact ih (.error err) hwrites hinv
      | ok pair =>
          rw [hwrite] at hwrites
          exact ih (.ok pair.1) hwrites.2 hwrites.1

theorem Maintains.transact (hp : Maintains inv returns p) (i : input)
    {s : store} (hinv : inv s) : inv (transact i p s).2 := by
  have hrun := hp.run i hinv
  unfold Prog.transact
  rcases houtcome : p.run i s with ⟨outcome, s'⟩
  rw [houtcome] at hrun
  cases outcome with
  | ok value => exact hrun
  | error err => exact hinv

end Rules

end Prog
end Statements
end ServerComponents
