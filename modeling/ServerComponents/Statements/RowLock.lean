import Mathlib.Logic.Function.Basic
import ServerComponents.Statements.Run
import ServerComponents.Statements.Transacts

/-!
# Interleaved transactions that compete for one row

Every thread executes a program in a transaction of its own, one statement at a
time.  A statement sees the committed store, or the version of the row that its
own transaction holds.  The first write that changes anything takes the lock;
while another transaction holds it, such a write waits.  A transaction ends with
a commit when its program has returned, and with a rollback when it has failed.
-/

namespace ServerComponents
namespace Statements

/-- The transaction that holds the row: the committed store and the input of the
statement that took the lock, and its own version. -/
structure Held (thread input store : Type) where
  thread : thread
  base : store
  taken : input
  version : store

/-- The committed store, the holder of the row, and each thread's program. -/
structure RowSystem (thread input store error result : Type) : Type 1 where
  committed : store
  held : Option (Held thread input store)
  prog : thread -> Prog input store error result
  ended : thread -> Bool

inductive RowEvent (thread input store : Type) where
  | statement (t : thread) (i : input)
  | commit (t : thread)
  | rollback (t : thread)
  | outside (change : store -> store)

namespace RowSystem

variable {thread input store error result : Type} [DecidableEq thread]

def start (s : store) (prog : thread -> Prog input store error result) :
    RowSystem thread input store error result where
  committed := s
  held := none
  prog := prog
  ended := fun _ => false

def holds? (s : RowSystem thread input store error result) (t : thread) :
    Option (Held thread input store) :=
  s.held.filter (fun h => h.thread = t)

def resume (s : RowSystem thread input store error result) (t : thread)
    (p : Prog input store error result) : RowSystem thread input store error result :=
  { s with prog := Function.update s.prog t p }

/-- A write of a thread that does not hold the row. -/
def take (s : RowSystem thread input store error result) (t : thread) (i : input)
    (version : store) (p : Prog input store error result) :
    RowSystem thread input store error result :=
  match s.held with
  | none => { s.resume t p with
      held := some { thread := t, base := s.committed, taken := i, version := version } }
  | some _ => s

/-- The next statement of a thread.  A write that changes nothing needs no lock, and
one that has to wait does nothing yet. -/
def statementStep [DecidableEq store] (s : RowSystem thread input store error result)
    (t : thread) (i : input) : RowSystem thread input store error result :=
  if s.ended t then s
  else
    match s.prog t, s.holds? t with
    | .done _, _ => s
    | .fail _, _ => s
    | .query read next, none => s.resume t (next (read i s.committed))
    | .query read next, some h => s.resume t (next (read i h.version))
    | .update write next, none =>
        match write i s.committed with
        | .error err => s.resume t (next (.error err))
        | .ok (reply, version) =>
            if version = s.committed then s.resume t (next (.ok reply))
            else s.take t i version (next (.ok reply))
    | .update write next, some h =>
        match write i h.version with
        | .error err => s.resume t (next (.error err))
        | .ok (reply, version) =>
            { s.resume t (next (.ok reply)) with held := some { h with version := version } }

/-- The end of a transaction; a commit publishes the version that it holds. -/
def finish (s : RowSystem thread input store error result) (t : thread)
    (publish : Bool) : RowSystem thread input store error result :=
  match s.holds? t with
  | none => { s with ended := Function.update s.ended t true }
  | some h =>
      { s with
        committed := if publish then h.version else s.committed
        held := none
        ended := Function.update s.ended t true }

def step [DecidableEq store] (s : RowSystem thread input store error result) :
    RowEvent thread input store -> RowSystem thread input store error result
  | .statement t i => s.statementStep t i
  | .commit t =>
      if s.ended t then s
      else
        match s.prog t with
        | .done _ => s.finish t true
        | _ => s
  | .rollback t =>
      if s.ended t then s
      else
        match s.prog t with
        | .fail _ => s.finish t false
        | _ => s
  | .outside change =>
      { s with
        committed := change s.committed
        held := s.held.map (fun h => { h with version := change h.version }) }

/-- Everything about the holder but its version. -/
def holder? (s : RowSystem thread input store error result) :
    Option (thread × store × input) :=
  s.held.map (fun h => (h.thread, h.base, h.taken))

theorem statementStep_frame [DecidableEq store]
    (s : RowSystem thread input store error result) (t : thread) (i : input) :
    (s.statementStep t i).committed = s.committed ∧
      (s.statementStep t i).ended = s.ended ∧
      ((s.statementStep t i).holder? = s.holder? ∨
        (s.held = none ∧ (s.statementStep t i).holder? = some (t, s.committed, i))) := by
  unfold statementStep
  split
  · exact ⟨rfl, rfl, Or.inl rfl⟩
  split
  · exact ⟨rfl, rfl, Or.inl rfl⟩
  · exact ⟨rfl, rfl, Or.inl rfl⟩
  · exact ⟨rfl, rfl, Or.inl rfl⟩
  · exact ⟨rfl, rfl, Or.inl rfl⟩
  · split
    · exact ⟨rfl, rfl, Or.inl rfl⟩
    · split
      · exact ⟨rfl, rfl, Or.inl rfl⟩
      · unfold take
        cases hheld : s.held with
        | none => exact ⟨rfl, rfl, Or.inr ⟨rfl, rfl⟩⟩
        | some h => exact ⟨rfl, rfl, Or.inl rfl⟩
  · rename_i h _ hholds
    have hheld : s.held = some h := by
      simp only [holds?, Option.filter_eq_some_iff] at hholds
      exact hholds.1
    split
    · exact ⟨rfl, rfl, Or.inl rfl⟩
    · exact ⟨rfl, rfl, Or.inl (by simp [holder?, hheld])⟩

/-- The event ends this thread's transaction with this outcome. -/
def Ends (s : RowSystem thread input store error result)
    (e : RowEvent thread input store) (t : thread) (outcome : Except error result) : Prop :=
  s.ended t = false ∧
    match outcome with
    | .ok value => e = .commit t ∧ s.prog t = .done value
    | .error err => e = .rollback t ∧ s.prog t = .fail err

theorem step_commit [DecidableEq store] (s : RowSystem thread input store error result)
    (t : thread) :
    s.step (.commit t) = s ∨
      exists value, s.Ends (.commit t) t (.ok value) ∧
        s.step (.commit t) = s.finish t true := by
  simp only [step]
  split
  · exact Or.inl rfl
  · rename_i hended
    split
    · rename_i value hprog
      exact Or.inr ⟨value, ⟨by simpa using hended, rfl, hprog⟩, rfl⟩
    · exact Or.inl rfl

theorem step_rollback [DecidableEq store] (s : RowSystem thread input store error result)
    (t : thread) :
    s.step (.rollback t) = s ∨
      exists err, s.Ends (.rollback t) t (.error err) ∧
        s.step (.rollback t) = s.finish t false := by
  simp only [step]
  split
  · exact Or.inl rfl
  · rename_i hended
    split
    · rename_i err hprog
      exact Or.inr ⟨err, ⟨by simpa using hended, rfl, hprog⟩, rfl⟩
    · exact Or.inl rfl

variable {s : RowSystem thread input store error result} {t : thread}
  {e : RowEvent thread input store}

theorem Ends.step_eq [DecidableEq store] {outcome : Except error result}
    (h : s.Ends e t outcome) : s.step e = s.finish t outcome.isOk := by
  rcases h with ⟨hended, hout⟩
  cases outcome with
  | ok value => simp [hout.1, step, hended, hout.2, Except.isOk, Except.toBool]
  | error err => simp [hout.1, step, hended, hout.2, Except.isOk, Except.toBool]

def Returned (s : RowSystem thread input store error result) (t : thread) : Prop :=
  s.ended t = false ∧ (s.prog t).result?.isSome = true

instance : Decidable (s.Returned t) := inferInstanceAs (Decidable (_ ∧ _))

omit [DecidableEq thread] in
theorem Returned.ends (h : s.Returned t) :
    exists value, s.Ends (.commit t) t (.ok value) := by
  rcases Option.isSome_iff_exists.mp h.2 with ⟨value, hvalue⟩
  exact ⟨value, h.1, rfl, Prog.result?_eq_some.mp hvalue⟩

theorem step_commit_of_not [DecidableEq store] (h : Not (s.Returned t)) :
    s.step (.commit t) = s := by
  rcases s.step_commit t with hstep | ⟨value, hends, _⟩
  · exact hstep
  · exact absurd ⟨hends.1, by simp [hends.2.2, Prog.result?]⟩ h

theorem finish_of_none {publish : Bool} (h : s.holds? t = none) :
    s.finish t publish = { s with ended := Function.update s.ended t true } := by
  simp [finish, h]

theorem finish_of_some {publish : Bool} {held : Held thread input store}
    (h : s.holds? t = some held) :
    s.finish t publish =
      { s with
        committed := if publish then held.version else s.committed
        held := none
        ended := Function.update s.ended t true } := by
  simp [finish, h]

theorem step_ended [DecidableEq store] (h : s.ended t = true) :
    (s.step e).ended t = true := by
  have hfinish : forall u publish, (s.finish u publish).ended t = true := by
    intro u publish
    by_cases hut : t = u
    · unfold finish
      split <;> simp [hut]
    · unfold finish
      split <;> simp [hut, h]
  cases e with
  | statement u i =>
      change (s.statementStep u i).ended t = true
      rw [(statementStep_frame s u i).2.1]
      exact h
  | commit u =>
      rcases step_commit s u with hstep | ⟨value, _, hstep⟩
      · rw [hstep]
        exact h
      · rw [hstep]
        exact hfinish u true
  | rollback u =>
      rcases step_rollback s u with hstep | ⟨err, _, hstep⟩
      · rw [hstep]
        exact h
      · rw [hstep]
        exact hfinish u false
  | outside change => exact h

end RowSystem

/-!
# Contracts

A contract says of every thread what its transaction does.  If the programs keep
it, so does every interleaving.
-/

/-- What the threads do to the key of the store. -/
structure Contract (thread input store error result κ : Type) where
  key : store -> κ
  admits : store -> Prop
  effect : thread -> store -> input -> Except error result -> store -> Prop
  idle : thread -> Except error result -> Prop
  admits_of_key : forall s s', key s' = key s -> admits s -> admits s'
  admits_of_effect : forall t s i outcome s', admits s -> effect t s i outcome s' ->
    admits s'

namespace Contract

variable {thread input store error result κ : Type} [DecidableEq thread]
  [DecidableEq store] (c : Contract thread input store error result κ)

/-- The invariant of a run of lawful programs. -/
structure Sound (s : RowSystem thread input store error result) : Prop where
  admits : c.admits s.committed
  waiting : forall t, s.ended t = false -> s.holds? t = none ->
    Prog.Transacts c.key c.admits (c.effect t) (c.idle t) (s.prog t)
  holding : forall h, s.held = some h ->
    s.ended h.thread = false ∧ c.admits h.base ∧ c.key s.committed = c.key h.base ∧
      Prog.Locked c.key (c.effect h.thread h.base h.taken) (s.prog h.thread) h.version

/-- The changes from outside leave the key alone. -/
def Lawful : RowEvent thread input store -> Prop
  | .outside change => forall s, c.key (change s) = c.key s
  | _ => True

variable {c} {s : RowSystem thread input store error result} {t : thread} {i : input}
  {e : RowEvent thread input store}

omit [DecidableEq store] in
theorem holds?_eq_some {h : Held thread input store} :
    s.holds? t = some h <-> s.held = some h ∧ h.thread = t := by
  simp [RowSystem.holds?, Option.filter_eq_some_iff]

omit [DecidableEq store] in
theorem holds?_eq_none :
    s.holds? t = none <-> forall h, s.held = some h -> h.thread ≠ t := by
  simp [RowSystem.holds?, Option.filter_eq_none_iff]

omit [DecidableEq store] in
theorem sound_start {db : store} {prog : thread -> Prog input store error result}
    (hadmits : c.admits db)
    (hprog : forall t, Prog.Transacts c.key c.admits (c.effect t) (c.idle t) (prog t)) :
    c.Sound (RowSystem.start db prog) := by
  refine ⟨hadmits, fun t _ _ => hprog t, ?_⟩
  intro h hheld
  cases hheld

omit [DecidableEq store] in
theorem Sound.resume (hs : c.Sound s) {p : Prog input store error result}
    (hnone : s.holds? t = none)
    (hp : Prog.Transacts c.key c.admits (c.effect t) (c.idle t) p) :
    c.Sound (s.resume t p) := by
  refine ⟨hs.admits, ?_, ?_⟩
  · intro u hended hholds
    by_cases hut : u = t
    · rw [hut]
      simpa [RowSystem.resume] using hp
    · have hprog : (s.resume t p).prog u = s.prog u := by simp [RowSystem.resume, hut]
      rw [hprog]
      exact hs.waiting u hended hholds
  · intro h hheld
    have hne : h.thread ≠ t := holds?_eq_none.mp hnone h hheld
    have hprog : (s.resume t p).prog h.thread = s.prog h.thread := by
      simp [RowSystem.resume, hne]
    rw [hprog]
    exact hs.holding h hheld

omit [DecidableEq store] in
theorem Sound.hold (hs : c.Sound s) {h : Held thread input store} {version : store}
    {p : Prog input store error result} (hheld : s.held = some h)
    (hp : Prog.Locked c.key (c.effect h.thread h.base h.taken) p version) :
    c.Sound { s.resume h.thread p with held := some { h with version := version } } := by
  rcases hs.holding h hheld with ⟨hended, hbase, hkey, _⟩
  refine ⟨hs.admits, ?_, ?_⟩
  · intro u hu hholds
    have hut : u ≠ h.thread := fun hut => holds?_eq_none.mp hholds _ rfl hut.symm
    have hprog : (s.resume h.thread p).prog u = s.prog u := by
      simp [RowSystem.resume, hut]
    change Prog.Transacts _ _ _ _ ((s.resume h.thread p).prog u)
    rw [hprog]
    apply hs.waiting u hu
    apply holds?_eq_none.mpr
    intro h' hheld' hu'
    rw [hheld] at hheld'
    cases hheld'
    exact hut hu'.symm
  · intro h' hheld'
    cases hheld'
    exact ⟨hended, hbase, hkey, by simpa [RowSystem.resume] using hp⟩

omit [DecidableEq store] in
theorem Sound.take (hs : c.Sound s) {version : store}
    {p : Prog input store error result} (hended : s.ended t = false)
    (hp : Prog.Locked c.key (c.effect t s.committed i) p version) :
    c.Sound (s.take t i version p) := by
  unfold RowSystem.take
  cases hheld : s.held with
  | some h => exact hs
  | none =>
      refine ⟨hs.admits, ?_, ?_⟩
      · intro u hu hholds
        have hut : u ≠ t := fun hut => holds?_eq_none.mp hholds _ rfl hut.symm
        have hprog : (s.resume t p).prog u = s.prog u := by simp [RowSystem.resume, hut]
        change Prog.Transacts _ _ _ _ ((s.resume t p).prog u)
        rw [hprog]
        apply hs.waiting u hu
        simp [RowSystem.holds?, hheld]
      · intro h hheld'
        cases hheld'
        exact ⟨hended, hs.admits, rfl, by simpa [RowSystem.resume] using hp⟩

theorem Sound.statement (hs : c.Sound s) : c.Sound (s.statementStep t i) := by
  unfold RowSystem.statementStep
  cases hended : s.ended t with
  | true => exact hs
  | false =>
      simp only [Bool.false_eq_true, if_false]
      cases hholds : s.holds? t with
      | none =>
          have hp := hs.waiting t hended hholds
          cases hprog : s.prog t with
          | done value => exact hs
          | fail err => exact hs
          | query read next =>
              rw [hprog] at hp
              exact hs.resume hholds (hp i s.committed hs.admits)
          | update write next =>
              rw [hprog] at hp
              have h := hp i s.committed hs.admits
              dsimp only
              cases hwrite : write i s.committed with
              | error err =>
                  rw [hwrite] at h
                  exact hs.resume hholds h
              | ok pair =>
                  rw [hwrite] at h
                  dsimp only
                  split
                  · rename_i hsame
                    exact hs.resume hholds (h.1 hsame)
                  · rename_i hne
                    exact hs.take hended (h.2 hne)
      | some h =>
          rcases holds?_eq_some.mp hholds with ⟨hheld, ht⟩
          have hp := (hs.holding h hheld).2.2.2
          rw [ht] at hp
          have hgo : forall version p,
              Prog.Locked c.key (c.effect t h.base h.taken) p version ->
              c.Sound { s.resume t p with
                held := some { h with version := version } } := by
            intro version p hlocked
            rw [← ht] at hlocked ⊢
            exact hs.hold hheld hlocked
          have hstay : forall p, Prog.Locked c.key (c.effect t h.base h.taken) p h.version ->
              c.Sound (s.resume t p) := by
            intro p hlocked
            have hsame : s.resume t p = { s.resume t p with
                held := some { h with version := h.version } } := by
              simp [RowSystem.resume, hheld]
            rw [hsame]
            exact hgo h.version p hlocked
          cases hprog : s.prog t with
          | done value => exact hs
          | fail err => exact hs
          | query read next =>
              rw [hprog] at hp
              exact hstay _ (hp i h.version rfl)
          | update write next =>
              rw [hprog] at hp
              have hlocked := hp i h.version rfl
              dsimp only
              cases hwrite : write i h.version with
              | error err =>
                  rw [hwrite] at hlocked
                  exact hstay _ hlocked
              | ok pair =>
                  rw [hwrite] at hlocked
                  exact hgo _ _ hlocked

omit [DecidableEq store] in
theorem Sound.ends {outcome : Except error result} (hs : c.Sound s)
    (hends : s.Ends e t outcome) :
    (s.holds? t = none ∧ c.idle t outcome) ∨
      exists h, s.held = some h ∧ h.thread = t ∧ c.admits h.base ∧
        c.key s.committed = c.key h.base ∧ c.effect t h.base h.taken outcome h.version := by
  rcases hends with ⟨hended, hout⟩
  cases hholds : s.holds? t with
  | none =>
      have hp := hs.waiting t hended hholds
      left
      refine ⟨rfl, ?_⟩
      cases outcome with
      | ok value =>
          rw [hout.2] at hp
          exact hp
      | error err =>
          rw [hout.2] at hp
          exact hp
  | some h =>
      rcases holds?_eq_some.mp hholds with ⟨hheld, ht⟩
      rcases hs.holding h hheld with ⟨_, hbase, hkey, hp⟩
      rw [ht] at hp
      right
      refine ⟨h, hheld, ht, hbase, hkey, ?_⟩
      cases outcome with
      | ok value =>
          rw [hout.2] at hp
          exact hp h.version rfl
      | error err =>
          rw [hout.2] at hp
          exact hp h.version rfl

omit [DecidableEq store] in
theorem Sound.finish {publish : Bool} (hs : c.Sound s)
    (hadmits : publish = true -> forall h, s.held = some h -> h.thread = t ->
      c.admits h.version) : c.Sound (s.finish t publish) := by
  unfold RowSystem.finish
  cases hholds : s.holds? t with
  | none =>
      refine ⟨hs.admits, ?_, ?_⟩
      · intro u hu hnone
        by_cases hut : u = t
        · simp [hut] at hu
        · exact hs.waiting u (by simpa [hut] using hu) hnone
      · intro h hheld
        rcases hs.holding h hheld with ⟨hended, hrest⟩
        have hne : h.thread ≠ t := holds?_eq_none.mp hholds h hheld
        exact ⟨by simpa [hne] using hended, hrest⟩
  | some h =>
      rcases holds?_eq_some.mp hholds with ⟨hheld, ht⟩
      refine ⟨?_, ?_, ?_⟩
      · cases publish with
        | true => exact hadmits rfl h hheld ht
        | false => exact hs.admits
      · intro u hu _
        by_cases hut : u = t
        · simp [hut] at hu
        · apply hs.waiting u (by simpa [hut] using hu)
          apply holds?_eq_none.mpr
          intro h' hheld' hu'
          rw [hheld] at hheld'
          cases hheld'
          exact hut (hu'.symm.trans ht)
      · intro h' hheld'
        cases hheld'

theorem Sound.step (hs : c.Sound s) (hlawful : c.Lawful e) : c.Sound (s.step e) := by
  cases e with
  | statement t i => exact hs.statement
  | commit t =>
      simp only [RowSystem.step]
      split
      · exact hs
      · rename_i hended
        split
        · rename_i value hprog
          apply hs.finish
          intro _ h hheld ht
          have hends : s.Ends (.commit t) t (.ok value) :=
            ⟨by simpa using hended, rfl, hprog⟩
          rcases hs.ends hends with
            ⟨hnone, _⟩ | ⟨h', hheld', _, hbase, _, heffect⟩
          · exact absurd ht (holds?_eq_none.mp hnone h hheld)
          · rw [hheld] at hheld'
            cases hheld'
            exact c.admits_of_effect _ _ _ _ _ hbase heffect
        · exact hs
  | rollback t =>
      simp only [RowSystem.step]
      split
      · exact hs
      · split
        · apply hs.finish
          intro hpublish
          cases hpublish
        · exact hs
  | outside change =>
      refine ⟨c.admits_of_key _ _ (hlawful _) hs.admits, ?_, ?_⟩
      · intro u hu hholds
        apply hs.waiting u hu
        apply holds?_eq_none.mpr
        intro h hheld
        have hmap : (s.step (.outside change)).held =
            some { h with version := change h.version } := by
          simp [RowSystem.step, hheld]
        exact holds?_eq_none.mp hholds { h with version := change h.version } hmap
      · intro h hheld
        rcases Option.map_eq_some_iff.mp hheld with ⟨h0, hheld0, hh⟩
        rcases hs.holding h0 hheld0 with ⟨hended, hbase, hkey, hp⟩
        rw [← hh]
        exact ⟨hended, hbase, (hlawful _).trans hkey, hp.of_key (hlawful _)⟩

theorem Sound.after {es : List (RowEvent thread input store)} (hs : c.Sound s)
    (hlawful : forall e, e ∈ es -> c.Lawful e) : c.Sound (after RowSystem.step s es) := by
  induction es generalizing s with
  | nil => exact hs
  | cons e es ih =>
      apply ih (hs.step (hlawful e (by simp)))
      intro e' he'
      exact hlawful e' (by simp [he'])

end Contract

end Statements
end ServerComponents
