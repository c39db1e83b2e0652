import Mathlib.Logic.Function.Basic
import ServerComponents.Statements.Respects

/-!
# Concurrent transactions on one row

Every thread executes a program in a transaction of its own.  A statement sees
the commits before it and the thread's own writes.  The writes of all threads
meet in one row: the first write of a transaction takes the row's lock and keeps
it until the transaction ends, and the writes of the others wait.
-/

namespace ServerComponents
namespace Statements

/-- The committed store, the lock holder with its uncommitted version, and what
is left of each thread's program. -/
structure Shared (thread input store error result : Type) : Type 1 where
  committed : store
  holder : Option (thread × store)
  prog : thread -> Prog input store error result
  ended : thread -> Bool

namespace Shared

variable {thread input store error result : Type} [DecidableEq thread]

def view (s : Shared thread input store error result) (t : thread) : store :=
  match s.holder with
  | none => s.committed
  | some (u, version) => if u = t then version else s.committed

def Free (s : Shared thread input store error result) (t : thread) : Prop :=
  forall u version, s.holder = some (u, version) -> u = t

instance (s : Shared thread input store error result) (t : thread) :
    Decidable (s.Free t) :=
  match h : s.holder with
  | none => isTrue (by simp [Free, h])
  | some (u, version) => decidable_of_iff (u = t) (by simp [Free, h])

def resume (s : Shared thread input store error result) (t : thread)
    (p : Prog input store error result) : Shared thread input store error result :=
  { s with prog := Function.update s.prog t p }

/-- The next statement of a thread; a write that has to wait does nothing yet. -/
def runStep (s : Shared thread input store error result) (t : thread) (i : input) :
    Shared thread input store error result :=
  if s.ended t then s
  else
    match s.prog t with
    | .done _ => s
    | .fail _ => s
    | .query read next => s.resume t (next (read i (s.view t)))
    | .update write next =>
        if s.Free t then
          match write i (s.view t) with
          | .ok (reply, version) =>
              { s.resume t (next (.ok reply)) with holder := some (t, version) }
          | .error err => s.resume t (next (.error err))
        else s

/-- The end of a transaction, with the store that it leaves committed. -/
def finish (s : Shared thread input store error result) (t : thread)
    (publish : Bool) : Shared thread input store error result :=
  { s with
    committed :=
      match s.holder with
      | none => s.committed
      | some (u, version) =>
          if u = t then (if publish then version else s.committed) else s.committed
    holder :=
      match s.holder with
      | none => none
      | some (u, version) => if u = t then none else some (u, version)
    ended := Function.update s.ended t true }

/-- Only a program that has returned is committed. -/
def commitStep (s : Shared thread input store error result) (t : thread) :
    Shared thread input store error result :=
  if s.ended t then s
  else
    match s.prog t with
    | .done _ => s.finish t true
    | _ => s

def rollbackStep (s : Shared thread input store error result) (t : thread) :
    Shared thread input store error result :=
  if s.ended t then s else s.finish t false

def outsideStep (s : Shared thread input store error result)
    (change : store -> store) : Shared thread input store error result :=
  { s with
    committed := change s.committed
    holder := s.holder.map (fun held => (held.1, change held.2)) }

def init (s : store) (prog : thread -> Prog input store error result) :
    Shared thread input store error result where
  committed := s
  holder := none
  prog := prog
  ended := fun _ => false

section Rules

variable {s : Shared thread input store error result} {t u : thread} {i : input}

theorem view_of_not_held (h : forall version, s.holder ≠ some (t, version)) :
    s.view t = s.committed := by
  unfold view
  split
  · rfl
  · rename_i u version hholder
    split
    · rename_i hut
      rw [hut] at hholder
      exact absurd hholder (h version)
    · rfl

theorem runStep_cases (s : Shared thread input store error result) (t : thread)
    (i : input) :
    s.runStep t i = s ∨
    (exists (reply : Type) (read : input -> store -> Except error reply) (next : _),
      s.ended t = false ∧ s.prog t = .query read next ∧
      s.runStep t i = s.resume t (next (read i (s.view t)))) ∨
    (exists (reply : Type) (write : input -> store -> Except error (reply × store))
        (next : _),
      s.ended t = false ∧ s.prog t = .update write next ∧ s.Free t ∧
      ((exists err, write i (s.view t) = .error err ∧
          s.runStep t i = s.resume t (next (.error err))) ∨
        (exists value version, write i (s.view t) = .ok (value, version) ∧
          s.runStep t i =
            { s.resume t (next (.ok value)) with holder := some (t, version) }))) := by
  unfold runStep
  cases hended : s.ended t with
  | true => exact Or.inl rfl
  | false =>
      simp only [Bool.false_eq_true, if_false]
      cases hprog : s.prog t with
      | done value => exact Or.inl rfl
      | fail err => exact Or.inl rfl
      | query read next => exact Or.inr (Or.inl ⟨_, read, next, trivial, rfl, rfl⟩)
      | update write next =>
          dsimp only
          split
          · rename_i hfree
            right
            right
            refine ⟨_, write, next, trivial, rfl, hfree, ?_⟩
            cases hwrite : write i (s.view t) with
            | ok pair => exact Or.inr ⟨pair.1, pair.2, rfl, rfl⟩
            | error err => exact Or.inl ⟨err, rfl, rfl⟩
          · exact Or.inl rfl

theorem resume_prog_self (p : Prog input store error result) :
    (s.resume t p).prog t = p := by
  simp [resume]

theorem resume_prog_ne (p : Prog input store error result) (h : u ≠ t) :
    (s.resume t p).prog u = s.prog u := by
  simp [resume, h]

theorem runStep_query {reply : Type} {read : input -> store -> Except error reply}
    {next : Except error reply -> Prog input store error result}
    (hended : s.ended t = false) (hprog : s.prog t = .query read next) :
    s.runStep t i = s.resume t (next (read i (s.view t))) := by
  simp [runStep, hended, hprog]

@[simp] theorem runStep_committed : (s.runStep t i).committed = s.committed := by
  rcases s.runStep_cases t i with h | ⟨_, _, _, _, _, h⟩ |
    ⟨_, _, _, _, _, _, ⟨_, _, h⟩ | ⟨_, _, _, h⟩⟩ <;> rw [h] <;> rfl

@[simp] theorem runStep_ended : (s.runStep t i).ended = s.ended := by
  rcases s.runStep_cases t i with h | ⟨_, _, _, _, _, h⟩ |
    ⟨_, _, _, _, _, _, ⟨_, _, h⟩ | ⟨_, _, _, h⟩⟩ <;> rw [h] <;> rfl

theorem runStep_prog_ne (h : u ≠ t) : (s.runStep t i).prog u = s.prog u := by
  rcases s.runStep_cases t i with hs | ⟨_, _, next, _, _, hs⟩ |
    ⟨_, _, next, _, _, _, ⟨err, _, hs⟩ | ⟨value, version, _, hs⟩⟩
  · rw [hs]
  · rw [hs]
    exact resume_prog_ne _ h
  · rw [hs]
    exact resume_prog_ne _ h
  · rw [hs]
    exact resume_prog_ne (s := s) (next (.ok value)) h

theorem commitStep_cases (s : Shared thread input store error result) (t : thread) :
    s.commitStep t = s ∨
      ((exists value, s.prog t = .done value) ∧ s.commitStep t = s.finish t true) := by
  unfold commitStep
  split
  · exact Or.inl rfl
  · cases hprog : s.prog t with
    | done value => exact Or.inr ⟨⟨value, rfl⟩, rfl⟩
    | fail err => exact Or.inl rfl
    | query read next => exact Or.inl rfl
    | update write next => exact Or.inl rfl

theorem rollbackStep_cases (s : Shared thread input store error result)
    (t : thread) : s.rollbackStep t = s ∨ s.rollbackStep t = s.finish t false := by
  unfold rollbackStep
  split
  · exact Or.inl rfl
  · exact Or.inr rfl

theorem finish_committed (publish : Bool) :
    (s.finish t publish).committed = s.committed ∨
      exists version, s.holder = some (t, version) ∧ publish = true ∧
        (s.finish t publish).committed = version := by
  unfold finish
  cases hholder : s.holder with
  | none => exact Or.inl rfl
  | some held =>
      rcases held with ⟨u, version⟩
      by_cases hut : u = t
      · cases publish with
        | true => exact Or.inr ⟨version, by rw [hut], rfl, by simp [hut]⟩
        | false => simp [hut]
      · simp [hut]

theorem finish_holder {publish : Bool} {version : store}
    (h : (s.finish t publish).holder = some (u, version)) :
    s.holder = some (u, version) := by
  unfold finish at h
  cases hholder : s.holder with
  | none => simp [hholder] at h
  | some held =>
      rcases held with ⟨w, version'⟩
      simp only [hholder] at h
      split at h
      · cases h
      · exact h

theorem finish_ended (publish : Bool) (h : s.ended u = true) :
    (s.finish t publish).ended u = true := by
  unfold finish
  by_cases hut : u = t
  · simp [hut]
  · simp [hut, h]

end Rules

end Shared

end Statements
end ServerComponents
