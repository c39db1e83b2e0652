import Mathlib.Data.Set.Basic
import Mathlib.Logic.Function.Basic
import ServerComponents.Statements.Run

/-!
# Read-through caches

A call looks its key up in a shared cache, reads a missing entry from the
backend and puts what it found into the cache.  Look-up, read and insert are
steps of their own, so that writes of the backend and invalidations of the
cache fall in between.
-/

namespace ServerComponents
namespace Caches

open Statements

/-- What the backend says about a key, and how a write changes it. -/
structure Backend (store key value write : Type) where
  view : store -> key -> Option value
  apply : store -> write -> store

structure Cached (store key value : Type) where
  store : store
  cache : key -> Option value

inductive Call (key value : Type) where
  | lookup (k : key)
  | read (k : key)
  | insert (k : key) (found : Option value)
  | done (k : key) (found : Option value)
  | failed (k : key)
  deriving DecidableEq

variable {store key value write : Type} [DecidableEq key]

def Call.target : Call key value -> key
  | .lookup k => k
  | .read k => k
  | .insert k _ => k
  | .done k _ => k
  | .failed k => k

namespace Cached

def invalidate (s : Cached store key value) (k : key) : Cached store key value :=
  { s with cache := Function.update s.cache k none }

omit [DecidableEq key] in
def invalidateAll (s : Cached store key value) : Cached store key value :=
  { s with cache := fun _ => none }

end Cached

variable {s : Cached store key value} {call : Call key value}

namespace Backend

variable (backend : Backend store key value write)

def advance (s : Cached store key value) :
    Call key value -> Cached store key value × Call key value
  | .lookup k =>
      match s.cache k with
      | some v => (s, .done k (some v))
      | none => (s, .read k)
  | .read k => (s, .insert k (backend.view s.store k))
  | .insert k none => (s, .done k none)
  | .insert k (some v) =>
      ({ s with cache := Function.update s.cache k (some v) }, .done k (some v))
  | .done k found => (s, .done k found)
  | .failed k => (s, .failed k)

def fault : Call key value -> Call key value
  | .read k => .failed k
  | call => call

def applyWrite (s : Cached store key value) (w : write) : Cached store key value :=
  { s with store := backend.apply s.store w }

@[simp] theorem advance_store (s : Cached store key value) (call : Call key value) :
    (backend.advance s call).1.store = s.store := by
  cases call with
  | lookup k =>
      simp only [advance]
      cases s.cache k <;> rfl
  | read k => rfl
  | insert k found => cases found <;> rfl
  | done k found => rfl
  | failed k => rfl

@[simp] theorem advance_target (s : Cached store key value) (call : Call key value) :
    (backend.advance s call).2.target = call.target := by
  cases call with
  | lookup k =>
      simp only [advance]
      cases s.cache k <;> rfl
  | read k => rfl
  | insert k found => cases found <;> rfl
  | done k found => rfl
  | failed k => rfl

omit [DecidableEq key] in
@[simp] theorem fault_target (call : Call key value) :
    (fault call).target = call.target := by
  cases call <;> rfl

theorem advance_cache {k : key} {v : value} (h : (backend.advance s call).1.cache k = some v) :
    s.cache k = some v ∨ call = .insert k (some v) := by
  cases call with
  | lookup k' =>
      simp only [advance] at h
      cases hcache : s.cache k' <;> rw [hcache] at h <;> exact Or.inl h
  | read k' => exact Or.inl h
  | insert k' found =>
      cases found with
      | none => exact Or.inl h
      | some w =>
          by_cases hk : k = k'
          · subst hk
            have hw : w = v := by simpa [advance] using h
            exact Or.inr (by rw [hw])
          · exact Or.inl (by simpa [advance, hk] using h)
  | done k' found => exact Or.inl h
  | failed k' => exact Or.inl h

theorem advance_insert {k : key}
    {found : Option value} (h : (backend.advance s call).2 = .insert k found) :
    call = .read k ∧ found = backend.view s.store k := by
  cases call with
  | lookup k' =>
      simp only [advance] at h
      cases hcache : s.cache k' <;> rw [hcache] at h <;> cases h
  | read k' =>
      cases h
      exact ⟨rfl, rfl⟩
  | insert k' found => cases found <;> cases h
  | done k' found => cases h
  | failed k' => cases h

theorem advance_done {k : key}
    {found : Option value} (h : (backend.advance s call).2 = .done k found) :
    (call = .lookup k ∧ found.isSome ∧ s.cache k = found) ∨
      call = .insert k found ∨ call = .done k found := by
  cases call with
  | lookup k' =>
      simp only [advance] at h
      cases hcache : s.cache k' with
      | none =>
          rw [hcache] at h
          cases h
      | some v =>
          rw [hcache] at h
          cases h
          exact Or.inl ⟨rfl, rfl, hcache⟩
  | read k' => cases h
  | insert k' found' =>
      cases found' <;> cases h <;> exact Or.inr (Or.inl rfl)
  | done k' found' =>
      cases h
      exact Or.inr (Or.inr rfl)
  | failed k' => cases h

end Backend

/-!
## What cached values are
-/

section Sound

variable (backend : Backend store key value write)
  (good : store -> key -> value -> Prop)

/-- Every cached value is a good one for its key. -/
def Cached.Sound (s : Cached store key value) : Prop :=
  forall k v, s.cache k = some v -> good s.store k v

/-- Every value that a call carries is a good one for its key. -/
def Call.Sound (st : store) : Call key value -> Prop
  | .insert k (some v) => good st k v
  | .done k (some v) => good st k v
  | _ => True

variable {backend good}

theorem Cached.Sound.advance (backend : Backend store key value write)
    (hview : forall k v, backend.view s.store k = some v -> good s.store k v)
    (hs : s.Sound good) (hcall : call.Sound good s.store) :
    (backend.advance s call).1.Sound good ∧
      (backend.advance s call).2.Sound good s.store := by
  constructor
  · intro k v hcache
    rw [Backend.advance_store]
    rcases backend.advance_cache hcache with hold | hinsert
    · exact hs k v hold
    · rw [hinsert] at hcall
      exact hcall
  · cases hnext : (backend.advance s call).2 with
    | lookup k => trivial
    | read k => trivial
    | insert k found =>
        rcases backend.advance_insert hnext with ⟨_, hfound⟩
        cases found with
        | none => trivial
        | some v => exact hview k v hfound.symm
    | done k found =>
        cases found with
        | none => trivial
        | some v =>
            rcases backend.advance_done hnext with ⟨_, _, hcache⟩ | hinsert | hdone
            · exact hs k v hcache
            · rw [hinsert] at hcall
              exact hcall
            · rw [hdone] at hcall
              exact hcall
    | failed k => trivial

omit [DecidableEq key] in
theorem Cached.Sound.changeStore {st : store}
    (hs : s.Sound good) (hkeep : forall k v, good s.store k v -> good st k v) :
    Cached.Sound good { s with store := st } :=
  fun k v hcache => hkeep k v (hs k v hcache)

omit [DecidableEq key] in
theorem Call.Sound.changeStore {st st' : store}
    (hcall : call.Sound good st) (hkeep : forall k v, good st k v -> good st' k v) :
    call.Sound good st' := by
  cases call with
  | insert k found =>
      cases found with
      | none => trivial
      | some v => exact hkeep k v hcall
  | done k found =>
      cases found with
      | none => trivial
      | some v => exact hkeep k v hcall
  | lookup k => trivial
  | read k => trivial
  | failed k => trivial

omit [DecidableEq key] in
theorem Call.Sound.fault {st : store}
    (hcall : call.Sound good st) : (Backend.fault call).Sound good st := by
  cases call <;> exact hcall

theorem Cached.Sound.invalidate (hs : s.Sound good) (k : key) : (s.invalidate k).Sound good := by
  intro k' v hcache
  by_cases hk : k' = k
  · simp [Cached.invalidate, hk] at hcache
  · exact hs k' v (by simpa [Cached.invalidate, hk] using hcache)

omit [DecidableEq key] in
theorem Cached.sound_invalidateAll (s : Cached store key value) :
    s.invalidateAll.Sound good := by
  intro k v hcache
  cases hcache

end Sound

end Caches
end ServerComponents
