import ServerComponents.Statements.Prog

/-!
# Transactions on a connection

A transaction runs its statements on a connection that may fail, and acts outside of
the database as it goes.  A failed statement aborts the transaction: the statements
after it are rejected, and the commit does not commit.  What was done outside of the
database is not taken back.
-/

namespace ServerComponents
namespace Statements

/-- Which errors abort a transaction, and the error of a rejected statement. -/
structure Failures (error : Type) where
  aborts : error -> Bool
  rejected : error
  aborts_rejected : aborts rejected = true

structure Txn (store outside : Type) where
  store : store
  outside : outside
  aborted : Bool
  /-- The number of statements that the connection still executes, if it fails at all. -/
  outage : Option Nat

/-- The connection executes this many statements more. -/
def Outlasts (outage : Option Nat) (n : Nat) : Prop := forall k, outage = some k -> n ≤ k

instance (outage : Option Nat) (n : Nat) : Decidable (Outlasts outage n) :=
  match outage with
  | none => isTrue (fun _ h => nomatch h)
  | some k => decidable_of_iff (n ≤ k) (by simp [Outlasts])

def elapse (outage : Option Nat) (n : Nat) : Option Nat := outage.map (fun k => k - n)

section Outage

variable {outage : Option Nat} {m n : Nat}

theorem outlasts_none (n : Nat) : Outlasts none n := by
  intro k h
  cases h

theorem outlasts_add : Outlasts outage (m + n) <->
    Outlasts outage m ∧ Outlasts (elapse outage m) n := by
  cases outage with
  | none => exact iff_of_true (outlasts_none _) ⟨outlasts_none _, outlasts_none _⟩
  | some k =>
      simp only [Outlasts, elapse, Option.map_some, Option.some.injEq, forall_eq']
      omega

theorem elapse_elapse : elapse (elapse outage m) n = elapse outage (m + n) := by
  cases outage with
  | none => rfl
  | some k => simp [elapse, Nat.sub_sub]

@[simp] theorem elapse_zero : elapse outage 0 = outage := by
  cases outage <;> rfl

@[simp] theorem elapse_none (n : Nat) : elapse none n = none := rfl

theorem Outlasts.mono (h : Outlasts outage n) (hle : m ≤ n) : Outlasts outage m :=
  fun k hk => Nat.le_trans hle (h k hk)

theorem not_outlasts_one : Not (Outlasts outage 1) <-> outage = some 0 := by
  cases outage with
  | none => simp [Outlasts]
  | some k => simp [Outlasts]

end Outage

namespace Txn

variable {store outside error answer : Type} (f : Failures error)

def statement (t : Txn store outside) (outcome : Except error (answer × store)) :
    Except error answer × Txn store outside :=
  if t.aborted = true ∨ t.outage = some 0 then
    (.error f.rejected, { t with aborted := true })
  else
    match outcome with
    | .ok (reply, s) => (.ok reply, { t with store := s, outage := elapse t.outage 1 })
    | .error err =>
        (.error err, { t with aborted := f.aborts err, outage := elapse t.outage 1 })

end Txn

namespace Prog

variable {input store outside error a b : Type} (f : Failures error)

def within : Prog input store error a -> Prog input (Txn store outside) error a
  | done value => done value
  | fail err => fail err
  | query read next =>
      update
        (fun i t => .ok (t.statement f ((read i t.store).map (fun reply => (reply, t.store)))))
        (fun reply => within (next (reply.bind id)))
  | update write next =>
      update (fun i t => .ok (t.statement f (write i t.store)))
        (fun reply => within (next (reply.bind id)))

def act (change : outside -> outside) : Prog input (Txn store outside) error Unit :=
  exec (fun _ t => .ok ((), { t with outside := change t.outside }))

/-- `BEGIN`, the program, and `COMMIT` or the roll-back of an escaped error. -/
def runInTransaction (i : input) (outage : Option Nat)
    (p : Prog input (Txn store outside) error a) (s : store) (o : outside) :
    Except error a × store × outside :=
  if outage = some 0 then (.error f.rejected, s, o)
  else
    match p.run i ⟨s, o, false, elapse outage 1⟩ with
    | (.error err, t) => (.error err, s, t.outside)
    | (.ok value, t) =>
        if t.aborted = true then (.ok value, s, t.outside)
        else if t.outage = some 0 then (.error f.rejected, s, t.outside)
        else (.ok value, t.store, t.outside)

/-!
# Programs that stop at a failed statement
-/

/-- Every failed statement ends the program with its error, and the other errors are no
failures. -/
def Propagates : Prog input store error a -> Prop
  | done _ => True
  | fail err => f.aborts err = false
  | query _ next =>
      (forall reply, Propagates (next (.ok reply))) ∧ forall err, next (.error err) = fail err
  | update _ next =>
      (forall reply, Propagates (next (.ok reply))) ∧ forall err, next (.error err) = fail err

section Propagates

variable {f}

theorem propagates_ask (read : input -> store -> Except error a) :
    (ask read).Propagates f := ⟨fun _ => trivial, fun _ => rfl⟩

theorem propagates_exec (write : input -> store -> Except error (a × store)) :
    (exec write).Propagates f := ⟨fun _ => trivial, fun _ => rfl⟩

theorem Propagates.bind {p : Prog input store error b} {g : b -> Prog input store error a}
    (hp : p.Propagates f) (hg : forall value, (g value).Propagates f) :
    (p.bind g).Propagates f := by
  induction p with
  | done value => exact hg value
  | fail err => exact hp
  | query read next ih =>
      refine ⟨fun reply => ih _ (hp.1 reply), fun err => ?_⟩
      show (next (.error err)).bind g = fail err
      rw [hp.2 err]
      rfl
  | update write next ih =>
      refine ⟨fun reply => ih _ (hp.1 reply), fun err => ?_⟩
      show (next (.error err)).bind g = fail err
      rw [hp.2 err]
      rfl

end Propagates

def statements (i : input) : Prog input store error a -> store -> Nat
  | done _, _ => 0
  | fail _, _ => 0
  | query read next, s => 1 + (next (read i s)).statements i s
  | update write next, s =>
      match write i s with
      | .ok (reply, s') => 1 + (next (.ok reply)).statements i s'
      | .error err => 1 + (next (.error err)).statements i s

/-- An error of this outcome aborts the transaction. -/
def abortsWith : Except error a -> Bool
  | .ok _ => false
  | .error err => f.aborts err

section Runs

variable {f} {p : Prog input store error a} {i : input} {t : Txn store outside}

theorem statement_live {answer : Type} (hlive : t.aborted = false) {n : Nat}
    (h : Outlasts t.outage (1 + n)) (outcome : Except error (answer × store)) :
    t.statement f outcome =
      match outcome with
      | .ok (reply, s) => (.ok reply, { t with store := s, outage := elapse t.outage 1 })
      | .error err =>
          (.error err, { t with aborted := f.aborts err, outage := elapse t.outage 1 }) := by
  have hone : Outlasts t.outage 1 := h.mono (Nat.le_add_right 1 n)
  have hnot : Not (t.aborted = true ∨ t.outage = some 0) := by
    intro hrejected
    rcases hrejected with haborted | houtage
    · rw [hlive] at haborted
      cases haborted
    · exact (not_outlasts_one.mpr houtage) hone
  unfold Txn.statement
  rw [if_neg hnot]

theorem run_within (hp : p.Propagates f) (hlive : t.aborted = false)
    (h : Outlasts t.outage (p.statements i t.store)) :
    (within f p).run i t = ((p.run i t.store).1,
      { store := (p.run i t.store).2, outside := t.outside
        aborted := abortsWith f (p.run i t.store).1
        outage := elapse t.outage (p.statements i t.store) }) := by
  induction p generalizing t with
  | done value => cases t; simp_all [within, statements, abortsWith]
  | fail err => cases t; simp_all [within, statements, abortsWith, Propagates]
  | query read next ih =>
      simp only [within, run, statements] at h ⊢
      rw [statement_live hlive h]
      cases hread : read i t.store with
      | ok reply =>
          have hnext := @ih (.ok reply) { t with outage := elapse t.outage 1 }
            (hp.1 reply) hlive (by rw [hread] at h; exact (outlasts_add.mp h).2)
          simpa [Except.map, Except.bind, elapse_elapse] using hnext
      | error err =>
          simp [Except.map, Except.bind, hp.2 err, within, abortsWith, statements]
  | update write next ih =>
      simp only [within, run, statements] at h ⊢
      cases hwrite : write i t.store with
      | ok pair =>
          rw [hwrite] at h
          rw [statement_live hlive h]
          have hnext := @ih (.ok pair.1)
            { t with store := pair.2, outage := elapse t.outage 1 }
            (hp.1 pair.1) hlive (outlasts_add.mp h).2
          simpa [Except.bind, elapse_elapse] using hnext
      | error err =>
          rw [hwrite] at h
          rw [statement_live hlive h]
          simp [Except.bind, hp.2 err, within, abortsWith, statements]

end Runs

end Prog

end Statements
end ServerComponents
