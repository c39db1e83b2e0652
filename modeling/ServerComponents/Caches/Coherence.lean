import ServerComponents.Caches.ReadThrough

/-!
# Coherence after an invalidation

An invalidation clears the entry of a key, but a call that has read the backend
before may still insert what it read.  The calls that start after the
invalidation see the backend exactly when no such call is left.
-/

namespace ServerComponents
namespace Caches

open Statements

variable {store key value write : Type} [DecidableEq key]

/-- A cached backend and the calls made so far. -/
structure Serving (store key value : Type) extends Cached store key value where
  calls : List (Call key value)

inductive Event (key write : Type) where
  | start (k : key)
  | advance (i : Nat)
  | fault (i : Nat)
  | write (w : write)
  | invalidate (k : key)
  | invalidateAll

namespace Backend

variable (backend : Backend store key value write)

def step (s : Serving store key value) : Event key write -> Serving store key value
  | .start k => { s with calls := s.calls ++ [.lookup k] }
  | .advance i =>
      match s.calls[i]? with
      | none => s
      | some call =>
          { toCached := (backend.advance s.toCached call).1
            calls := s.calls.set i (backend.advance s.toCached call).2 }
  | .fault i =>
      match s.calls[i]? with
      | none => s
      | some call => { s with calls := s.calls.set i (fault call) }
  | .write w => { s with toCached := backend.applyWrite s.toCached w }
  | .invalidate k => { s with toCached := s.toCached.invalidate k }
  | .invalidateAll => { s with toCached := s.toCached.invalidateAll }

/-- The backend said `found` about the key at some moment of the run. -/
def Seen (s : Serving store key value) (es : List (Event key write)) (k : key)
    (found : Option value) : Prop :=
  exists pre post, es = pre ++ post ∧
    found = backend.view (after backend.step s pre).store k

/-- A call for the key has read something that the backend does not say, and
has still to insert it. -/
def StaleInsert (s : Serving store key value) (k : key) : Prop :=
  exists v, Call.insert k (some v) ∈ s.calls ∧ backend.view s.store k ≠ some v

/-- A call that starts while the backend says about its key what it said before
the run returns what the backend says at some moment of the call. -/
def Coherent (s : Serving store key value) (k : key) (es : List (Event key write)) :
    Prop :=
  forall mid post found, es = mid ++ .start k :: post ->
    (forall v, backend.Seen s mid k v -> v = backend.view s.store k) ->
    (after backend.step s es).calls[(after backend.step s mid).calls.length]? =
      some (.done k found) ->
    backend.Seen (after backend.step s (mid ++ [.start k])) post k found

/-- What is cached about a key, or about to be, comes from `known`. -/
structure Within (s : Serving store key value) (k : key)
    (known : Set (Option value)) : Prop where
  current : backend.view s.store k ∈ known
  cached : forall v, s.cache k = some v -> some v ∈ known
  pending : forall v, Call.insert k (some v) ∈ s.calls -> some v ∈ known

/-- What a call for the key found so far comes from `known`. -/
def Found (k : key) (known : Set (Option value)) : Call key value -> Prop
  | .insert k' found => k' = k -> found ∈ known
  | .done k' found => k' = k -> found ∈ known
  | _ => True

section Rules

variable {backend} {s : Serving store key value} {k : key} {e : Event key write}
  {es : List (Event key write)} {known : Set (Option value)}

theorem seen_nil : backend.Seen s [] k (backend.view s.store k) :=
  ⟨[], [], rfl, rfl⟩

theorem seen_last : backend.Seen s es k
    (backend.view (after backend.step s es).store k) :=
  ⟨es, [], by simp, rfl⟩

theorem Seen.append {es' : List (Event key write)} {found : Option value}
    (h : backend.Seen s es k found) : backend.Seen s (es ++ es') k found := by
  rcases h with ⟨pre, post, hes, hfound⟩
  exact ⟨pre, post ++ es', by simp [hes], hfound⟩

theorem seen_singleton {found : Option value} (h : backend.Seen s [e] k found) :
    found = backend.view s.store k ∨ found = backend.view (backend.step s e).store k := by
  rcases h with ⟨pre, post, hes, hfound⟩
  rcases List.singleton_eq_append_iff.mp hes with ⟨hpre, _⟩ | ⟨hpre, _⟩
  · rw [hpre] at hfound
    exact Or.inl hfound
  · rw [hpre] at hfound
    exact Or.inr hfound

theorem step_store (hwrite : forall w, e ≠ .write w) :
    (backend.step s e).store = s.store := by
  cases e with
  | start k => rfl
  | advance i =>
      simp only [step]
      cases s.calls[i]? with
      | none => rfl
      | some call => exact backend.advance_store s.toCached call
  | fault i =>
      simp only [step]
      cases s.calls[i]? <;> rfl
  | write w => exact absurd rfl (hwrite w)
  | invalidate k => rfl
  | invalidateAll => rfl

theorem step_calls_length : s.calls.length ≤ (backend.step s e).calls.length := by
  cases e with
  | start k => simp [step]
  | advance i =>
      simp only [step]
      cases s.calls[i]? <;> simp
  | fault i =>
      simp only [step]
      cases s.calls[i]? <;> simp
  | write w => exact le_refl _
  | invalidate k => exact le_refl _
  | invalidateAll => exact le_refl _

theorem calls_length_run : s.calls.length ≤ (after backend.step s es).calls.length := by
  have h (s' : Serving store key value) (hle : s.calls.length ≤ s'.calls.length) :
      s.calls.length ≤ (after backend.step s' es).calls.length := by
    induction es generalizing s' with
    | nil => exact hle
    | cons e es ih => exact ih _ (hle.trans step_calls_length)
  exact h s (le_refl _)

omit [DecidableEq key] in
theorem getElem?_set_call {calls : List (Call key value)} {i j : Nat}
    {old new call : Call key value} (hold : calls[j]? = some old)
    (h : (calls.set j new)[i]? = some call) : calls[i]? = some call ∨ (j = i ∧ call = new) := by
  by_cases hij : j = i
  · subst hij
    have hlt := (List.getElem?_eq_some_iff.mp hold).1
    rw [List.getElem?_set_self hlt] at h
    exact Or.inr ⟨rfl, (Option.some.inj h).symm⟩
  · rw [List.getElem?_set_ne hij] at h
    exact Or.inl h

theorem step_getElem? {i : Nat} {call : Call key value}
    (h : (backend.step s e).calls[i]? = some call) :
    s.calls[i]? = some call ∨ (exists k, e = .start k ∧ call = .lookup k) ∨
      (exists old, e = .advance i ∧ s.calls[i]? = some old ∧
        call = (backend.advance s.toCached old).2) ∨
      (exists old, e = .fault i ∧ s.calls[i]? = some old ∧ call = fault old) := by
  cases e with
  | start k =>
      simp only [step] at h
      by_cases hlt : i < s.calls.length
      · exact Or.inl (by rwa [List.getElem?_append_left hlt] at h)
      · rw [List.getElem?_append_right (by omega)] at h
        have hnew := List.mem_of_getElem? h
        exact Or.inr (Or.inl ⟨k, rfl, by simpa using hnew⟩)
  | advance j =>
      simp only [step] at h
      cases hcall : s.calls[j]? with
      | none =>
          rw [hcall] at h
          exact Or.inl h
      | some old =>
          rw [hcall] at h
          rcases getElem?_set_call hcall h with hkept | ⟨rfl, hnew⟩
          · exact Or.inl hkept
          · exact Or.inr (Or.inr (Or.inl ⟨old, rfl, hcall, hnew⟩))
  | fault j =>
      simp only [step] at h
      cases hcall : s.calls[j]? with
      | none =>
          rw [hcall] at h
          exact Or.inl h
      | some old =>
          rw [hcall] at h
          rcases getElem?_set_call hcall h with hkept | ⟨rfl, hnew⟩
          · exact Or.inl hkept
          · exact Or.inr (Or.inr (Or.inr ⟨old, rfl, hcall, hnew⟩))
  | write w => exact Or.inl h
  | invalidate k => exact Or.inl h
  | invalidateAll => exact Or.inl h

theorem step_cache {v : value} (h : (backend.step s e).cache k = some v) :
    s.cache k = some v ∨ Call.insert k (some v) ∈ s.calls := by
  cases e with
  | start k => exact Or.inl h
  | advance i =>
      simp only [step] at h
      cases hcall : s.calls[i]? with
      | none =>
          rw [hcall] at h
          exact Or.inl h
      | some call =>
          rw [hcall] at h
          rcases backend.advance_cache h with hold | hinsert
          · exact Or.inl hold
          · exact Or.inr (hinsert ▸ List.mem_of_getElem? hcall)
  | fault i =>
      simp only [step] at h
      cases hcall : s.calls[i]? <;> rw [hcall] at h <;> exact Or.inl h
  | write w => exact Or.inl h
  | invalidate k' =>
      by_cases hk : k = k'
      · simp [step, Cached.invalidate, hk] at h
      · exact Or.inl (by simpa [step, Cached.invalidate, hk] using h)
  | invalidateAll => cases h

theorem step_pending {found : Option value}
    (h : Call.insert k found ∈ (backend.step s e).calls) :
    Call.insert k found ∈ s.calls ∨ found = backend.view s.store k := by
  rcases List.mem_iff_getElem?.mp h with ⟨i, hi⟩
  rcases step_getElem? hi with hold | ⟨k', _, hlookup⟩ | ⟨old, _, _, hnext⟩ |
    ⟨old, _, hold, hfault⟩
  · exact Or.inl (List.mem_of_getElem? hold)
  · cases hlookup
  · exact Or.inr (backend.advance_insert hnext.symm).2
  · cases old <;> cases hfault
    exact Or.inl (List.mem_of_getElem? hold)

omit [DecidableEq key] in
theorem Within.mono {known' : Set (Option value)} (h : backend.Within s k known)
    (hsub : known ⊆ known') : backend.Within s k known' where
  current := hsub h.current
  cached := fun v hcache => hsub (h.cached v hcache)
  pending := fun v hcall => hsub (h.pending v hcall)

omit [DecidableEq key] in
theorem Found.mono {known' : Set (Option value)} {call : Call key value}
    (h : Found k known call) (hsub : known ⊆ known') : Found k known' call := by
  cases call with
  | insert k' found => exact fun hk => hsub (h hk)
  | done k' found => exact fun hk => hsub (h hk)
  | lookup k' => trivial
  | read k' => trivial
  | failed k' => trivial

theorem Within.step (h : backend.Within s k known)
    (hcurrent : backend.view (backend.step s e).store k ∈ known) :
    backend.Within (backend.step s e) k known where
  current := hcurrent
  cached := by
    intro v hcache
    rcases step_cache hcache with hold | hinsert
    · exact h.cached v hold
    · exact h.pending v hinsert
  pending := by
    intro v hcall
    rcases step_pending hcall with hold | hread
    · exact h.pending v hold
    · exact hread ▸ h.current

theorem Found.step {i : Nat} {call call' : Call key value}
    (hwithin : backend.Within s k known) (hi : s.calls[i]? = some call)
    (hfound : Found k known call)
    (hi' : (backend.step s e).calls[i]? = some call') : Found k known call' := by
  rcases step_getElem? hi' with hold | ⟨k', _, hlookup⟩ | ⟨old, _, hold, hnext⟩ |
    ⟨old, _, hold, hfault⟩
  · rw [hi] at hold
    cases hold
    exact hfound
  · rw [hlookup]
    trivial
  · rw [hi] at hold
    cases hold
    cases call' with
    | lookup k' => trivial
    | read k' => trivial
    | insert k' found =>
        intro hk
        subst hk
        rw [(backend.advance_insert hnext.symm).2]
        exact hwithin.current
    | done k' found =>
        intro hk
        subst hk
        rcases backend.advance_done hnext.symm with ⟨_, hsome, hcache⟩ | hinsert | hdone
        · rcases Option.isSome_iff_exists.mp hsome with ⟨v, hv⟩
          rw [hv] at hcache ⊢
          exact hwithin.cached v hcache
        · rw [hinsert] at hfound
          exact hfound rfl
        · rw [hdone] at hfound
          exact hfound rfl
    | failed k' => trivial
  · rw [hi] at hold
    cases hold
    rw [hfault]
    cases call <;> exact hfound

/-- From a state that knows only what the backend says, every later state knows
only what the backend has said since. -/
theorem Within.run (h : backend.Within s k {found | backend.Seen s [] k found}) :
    backend.Within (after backend.step s es) k {found | backend.Seen s es k found} := by
  induction es using List.reverseRecOn with
  | nil => exact h
  | append_singleton es e ih =>
      rw [after_append]
      refine Within.step (ih.mono (fun found hseen => hseen.append)) ?_
      have hlast : backend.Seen s (es ++ [e]) k _ := seen_last
      rwa [after_append] at hlast

theorem found_run {i : Nat} {call call' : Call key value}
    (h : backend.Within s k {found | backend.Seen s [] k found})
    (hi : s.calls[i]? = some call)
    (hfound : Found k {found | backend.Seen s [] k found} call)
    (hi' : (after backend.step s es).calls[i]? = some call') :
    Found k {found | backend.Seen s es k found} call' := by
  induction es using List.reverseRecOn generalizing call' with
  | nil =>
      rw [after_nil, hi] at hi'
      cases hi'
      exact hfound
  | append_singleton es e ih =>
      rw [after_append] at hi'
      have hlt : i < (after backend.step s es).calls.length :=
        (List.getElem?_eq_some_iff.mp hi).1.trans_le calls_length_run
      have hmid := ih (List.getElem?_eq_getElem hlt)
      exact Found.step ((Within.run h).mono (fun found hseen => hseen.append))
        (List.getElem?_eq_getElem hlt)
        (hmid.mono (fun found hseen => hseen.append)) hi'

theorem coherent_of_not_stale (hcache : s.cache k = none)
    (hstale : Not (backend.StaleInsert s k)) (es : List (Event key write)) :
    backend.Coherent s k es := by
  intro mid post found hes hquiet hdone
  subst hes
  have hwithin : backend.Within s k {found | backend.Seen s [] k found} := by
    refine ⟨seen_nil, ?_, ?_⟩
    · intro v hv
      rw [hcache] at hv
      cases hv
    · intro v hcall
      have hview : backend.view s.store k = some v := by
        by_contra hne
        exact hstale ⟨v, hcall, hne⟩
      exact hview ▸ seen_nil
  have hstarted : after backend.step s (mid ++ [.start k]) =
      backend.step (after backend.step s mid) (.start k) := by
    simp
  have hsub : {found | backend.Seen s mid k found} ⊆
      {found | backend.Seen (backend.step (after backend.step s mid) (.start k)) [] k
        found} := by
    intro v hv
    have hlast := hquiet _ seen_last
    have hv : v = backend.view (after backend.step s mid).store k :=
      (hquiet v hv).trans hlast.symm
    rw [hv]
    exact seen_nil (s := backend.step (after backend.step s mid) (.start k))
  have hmid := Within.step (e := .start k) (hwithin.run.mono hsub) seen_nil
  have hstart : (after backend.step s (mid ++ [.start k])).calls[
      (after backend.step s mid).calls.length]? = some (.lookup k) := by
    simp [step]
  have hsplit : after backend.step s (mid ++ .start k :: post) =
      after backend.step (after backend.step s (mid ++ [.start k])) post := by
    rw [← after_append]
    simp
  rw [hsplit] at hdone
  rw [hstarted] at hstart hdone ⊢
  exact found_run hmid hstart trivial hdone rfl

theorem exists_incoherent (hstale : backend.StaleInsert s k) :
    exists es, Not (backend.Coherent s k es) := by
  rcases hstale with ⟨v, hcall, hne⟩
  rcases List.mem_iff_getElem?.mp hcall with ⟨i, hi⟩
  refine ⟨[.advance i, .start k, .advance s.calls.length], ?_⟩
  intro hcoherent
  have hquiet : forall v', backend.Seen s [.advance i] k v' ->
      v' = backend.view s.store k := by
    intro v' hseen
    rcases seen_singleton hseen with hv' | hv'
    · exact hv'
    · rw [hv', step_store (by intro w hw; cases hw)]
  have hstore : (after backend.step s [.advance i, .start k]).store = s.store := by
    simp [step, hi, advance]
  have hreturned := hcoherent [.advance i] [.advance s.calls.length] (some v) rfl hquiet
    (by simp [step, hi, advance])
  rw [← hstore] at hne
  rcases seen_singleton hreturned with hv | hv
  · exact hne hv.symm
  · rw [step_store (by intro w hw; cases hw)] at hv
    exact hne hv.symm

/-- After an invalidation the calls for the key are coherent exactly when no
stale insert is left. -/
theorem coherent_iff (hcache : s.cache k = none) :
    (forall es, backend.Coherent s k es) <-> Not (backend.StaleInsert s k) := by
  constructor
  · intro hall hstale
    rcases exists_incoherent hstale with ⟨es, hnot⟩
    exact hnot (hall es)
  · intro hstale es
    exact coherent_of_not_stale hcache hstale es

end Rules

end Backend

end Caches
end ServerComponents
