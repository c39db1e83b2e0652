import Mathlib.Algebra.GroupWithZero.Nat
import ServerComponents.Statements.Run
import ServerComponents.Statements.Interleaved

/-!
# The pooled transaction provider

Callers share a bounded pool of providers under one mutex.  What a caller does between
taking the mutex and giving it back, or waiting on the condition variable, is one event;
every interleaving of the callers is a list of events.
-/

namespace ServerComponents
namespace Transactions

open Statements

/-- Where a caller of `RunInTransaction` stands, and what it will return or throw. -/
inductive Caller where
  | arriving
  | waiting
  | woken
  | running (provider : Nat)
  | releasing (provider : Nat) (returned : Bool)
  | notifying (returned : Bool)
  | finished (returned : Bool)
  deriving Repr, DecidableEq

namespace Caller

def held : Caller -> List Nat
  | running provider => [provider]
  | releasing provider _ => [provider]
  | _ => []

def isWaiting : Caller -> Bool
  | waiting => true
  | _ => false

/-- In `wait`: blocked, or woken and not yet back with the mutex. -/
def inWait : Caller -> Bool
  | waiting => true
  | woken => true
  | _ => false

/-- A caller that will take a free provider itself, or wake one that does. -/
def serves : Caller -> Bool
  | woken => true
  | notifying _ => true
  | _ => false

def isFinished : Caller -> Bool
  | finished _ => true
  | _ => false

end Caller

/-- The pool: its providers are numbered in the order of their creation. -/
structure Pool where
  maxConnections : Nat
  freeProviders : List Nat
  createdCount : Nat
  callers : List Caller
  positive : 0 < maxConnections
  deriving Repr

def makePool (maxConnections : Int) : Pool where
  maxConnections := if maxConnections > 0 then maxConnections.toNat else 1
  freeProviders := []
  createdCount := 0
  callers := []
  positive := by
    split
    · omega
    · omega

inductive PoolEvent where
  /-- A new call of `RunInTransaction`. -/
  | call
  /-- The caller goes through `AcquireProvider`; a creation would succeed or throw. -/
  | acquire (caller : Nat) (creates : Bool)
  /-- The wait ends without a notification. -/
  | wakeSpuriously (caller : Nat)
  /-- A woken caller has the mutex again and looks at the predicate. -/
  | resume (caller : Nat)
  /-- The function has returned or thrown. -/
  | ran (caller : Nat) (returned : Bool)
  /-- The provider is pushed back under the mutex. -/
  | release (caller : Nat)
  /-- `notify_one`, which picks the waiter. -/
  | notify (caller waiter : Nat)
  deriving Repr, DecidableEq

namespace Pool

def setCaller (pool : Pool) (i : Nat) (caller : Caller) : Pool :=
  { pool with callers := pool.callers.set i caller }

def takeFree (pool : Pool) (i provider : Nat) : Pool :=
  { pool with
    freeProviders := pool.freeProviders.dropLast
    callers := pool.callers.set i (.running provider) }

/-- A creation that throws leaves `createdCount` alone. -/
def acquireProvider (pool : Pool) (i : Nat) (creates : Bool) : Pool :=
  match pool.freeProviders.getLast? with
  | some provider => pool.takeFree i provider
  | none =>
      if pool.createdCount < pool.maxConnections then
        if creates then
          { pool with
            createdCount := pool.createdCount + 1
            callers := pool.callers.set i (.running pool.createdCount) }
        else pool.setCaller i (.finished false)
      else pool.setCaller i .waiting

/-- `wait` returns when there is a free provider, and the loop takes it. -/
def resumeWait (pool : Pool) (i : Nat) : Pool :=
  match pool.freeProviders.getLast? with
  | some provider => pool.takeFree i provider
  | none => pool.setCaller i .waiting

def releaseProvider (pool : Pool) (i provider : Nat) (returned : Bool) : Pool :=
  { pool with
    freeProviders := pool.freeProviders ++ [provider]
    callers := pool.callers.set i (.notifying returned) }

/-- One of the waiters is woken, if there is one. -/
def notifyOne (pool : Pool) (i waiter : Nat) (returned : Bool) : Pool :=
  if pool.callers[waiter]? = some .waiting then
    (pool.setCaller i (.finished returned)).setCaller waiter .woken
  else if pool.callers.any Caller.isWaiting then pool
  else pool.setCaller i (.finished returned)

/-- An event for which the caller does not stand right does not happen. -/
def step (pool : Pool) : PoolEvent -> Pool
  | .call => { pool with callers := pool.callers ++ [.arriving] }
  | .acquire i creates =>
      if pool.callers[i]? = some .arriving then pool.acquireProvider i creates else pool
  | .wakeSpuriously i =>
      if pool.callers[i]? = some .waiting then pool.setCaller i .woken else pool
  | .resume i => if pool.callers[i]? = some .woken then pool.resumeWait i else pool
  | .ran i returned =>
      match pool.callers[i]? with
      | some (.running provider) => pool.setCaller i (.releasing provider returned)
      | _ => pool
  | .release i =>
      match pool.callers[i]? with
      | some (.releasing provider returned) => pool.releaseProvider i provider returned
      | _ => pool
  | .notify i waiter =>
      match pool.callers[i]? with
      | some (.notifying returned) => pool.notifyOne i waiter returned
      | _ => pool

def reached (maxConnections : Int) (events : List PoolEvent) : Pool :=
  after step (makePool maxConnections) events

/-!
# The invariant
-/

/-- Each provider that was created is free or held, once; the callers in `wait` have found
the pool exhausted, and while one of them is blocked every free provider has a caller that
will serve it. -/
structure Sound (pool : Pool) : Prop where
  providers : (pool.freeProviders ++ gathered Caller.held pool.callers).Perm
    (List.range pool.createdCount)
  bounded : pool.createdCount ≤ pool.maxConnections
  exhausted : 0 < pool.callers.countP Caller.inWait -> pool.createdCount = pool.maxConnections
  signalled : 0 < pool.callers.countP Caller.isWaiting ->
    pool.freeProviders.length ≤ pool.callers.countP Caller.serves

theorem sound_makePool (maxConnections : Int) : (makePool maxConnections).Sound := by
  constructor
  · exact List.Perm.refl _
  · exact Nat.zero_le _
  · intro h
    cases h
  · intro h
    cases h

/-!
# What an event keeps
-/

section Steps

variable {pool : Pool} {i : Nat} {t t' : Caller}

theorem counts_set (h : pool.callers[i]? = some t) (t' : Caller) :
    (pool.callers.set i t').countP Caller.inWait + t.inWait.toNat =
        pool.callers.countP Caller.inWait + t'.inWait.toNat ∧
      (pool.callers.set i t').countP Caller.isWaiting + t.isWaiting.toNat =
        pool.callers.countP Caller.isWaiting + t'.isWaiting.toNat ∧
      (pool.callers.set i t').countP Caller.serves + t.serves.toNat =
        pool.callers.countP Caller.serves + t'.serves.toNat :=
  ⟨countP_set_add _ h t', countP_set_add _ h t', countP_set_add _ h t'⟩

theorem providers_set (free created : List Nat) (t' : Caller) (hpool : pool.Sound)
    (h : pool.callers[i]? = some t)
    (hfree : (free ++ t'.held).Perm (pool.freeProviders ++ t.held ++ created)) :
    (free ++ gathered Caller.held (pool.callers.set i t')).Perm
      (List.range pool.createdCount ++ created) := by
  rw [List.perm_iff_count]
  intro provider
  have hproviders := hpool.providers.count_eq provider
  have hset := (gathered_set Caller.held h t').count_eq provider
  have hmoved := hfree.count_eq provider
  simp only [List.count_append] at hproviders hset hmoved ⊢
  omega

theorem Sound.setCaller (hpool : pool.Sound) (h : pool.callers[i]? = some t)
    (hheld : t'.held = t.held) (hin : t'.inWait = t.inWait)
    (hblocked : t'.isWaiting.toNat ≤ t.isWaiting.toNat)
    (hserves : t.serves.toNat ≤ t'.serves.toNat) :
    (pool.setCaller i t').Sound := by
  rcases counts_set h t' with ⟨hwaits, hblocks, hserving⟩
  rw [hin] at hwaits
  constructor
  · have hkept := providers_set pool.freeProviders [] t' hpool h (by rw [hheld, List.append_nil])
    rwa [List.append_nil] at hkept
  · exact hpool.bounded
  · intro hpos
    simp only [Pool.setCaller] at hpos ⊢
    exact hpool.exhausted (by omega)
  · intro hpos
    simp only [Pool.setCaller] at hpos ⊢
    have hold := hpool.signalled (by omega)
    omega

theorem getLast?_split {free : List Nat} {provider : Nat} (h : free.getLast? = some provider) :
    free = free.dropLast ++ [provider] := by
  rw [List.dropLast_append_getLast? provider h]

theorem Sound.takeFree (hpool : pool.Sound) {provider : Nat}
    (h : pool.callers[i]? = some t) (ht : t = .arriving ∨ t = .woken)
    (hlast : pool.freeProviders.getLast? = some provider) :
    (pool.takeFree i provider).Sound := by
  have hsplit := getLast?_split hlast
  have hlength : pool.freeProviders.length = pool.freeProviders.dropLast.length + 1 := by
    rw [hsplit]
    simp
  have hheld : t.held = [] := by
    rcases ht with rfl | rfl <;> rfl
  rcases counts_set h (.running provider) with ⟨hwaits, hblocks, hserving⟩
  constructor
  · have hkept := providers_set pool.freeProviders.dropLast [] (.running provider) hpool h (by
        rw [hheld, List.append_nil, List.append_nil]
        show (pool.freeProviders.dropLast ++ [provider]).Perm pool.freeProviders
        rw [← hsplit])
    rwa [List.append_nil] at hkept
  · exact hpool.bounded
  · intro hpos
    simp only [Pool.takeFree] at hpos ⊢
    refine hpool.exhausted ?_
    rcases ht with rfl | rfl
    · simp only [Caller.inWait, Bool.toNat_false] at hwaits
      omega
    · simp only [Caller.inWait, Bool.toNat_false, Bool.toNat_true] at hwaits
      omega
  · intro hpos
    simp only [Pool.takeFree] at hpos ⊢
    rcases ht with rfl | rfl
    · simp only [Caller.isWaiting, Caller.serves, Bool.toNat_false] at hblocks hserving
      have hold := hpool.signalled (by omega)
      omega
    · simp only [Caller.isWaiting, Caller.serves, Bool.toNat_false, Bool.toNat_true]
        at hblocks hserving
      have hold := hpool.signalled (by omega)
      omega

theorem getLast?_none {free : List Nat} (h : free.getLast? = none) : free = [] :=
  List.getLast?_eq_none_iff.mp h

theorem Sound.acquireProvider (hpool : pool.Sound) (h : pool.callers[i]? = some .arriving)
    (creates : Bool) : (pool.acquireProvider i creates).Sound := by
  unfold Pool.acquireProvider
  split
  · rename_i provider hlast
    exact hpool.takeFree h (Or.inl rfl) hlast
  · rename_i hlast
    have hfree := getLast?_none hlast
    split
    · rename_i hgrows
      cases creates with
      | true =>
          rcases counts_set h (.running pool.createdCount) with ⟨hwaits, _, _⟩
          simp only [Caller.inWait, Bool.toNat_false] at hwaits
          constructor
          · have hkept := providers_set pool.freeProviders [pool.createdCount]
              (.running pool.createdCount) hpool h (by
                simp only [Caller.held, List.append_nil]
                exact List.Perm.refl _)
            rwa [← List.range_succ] at hkept
          · exact hgrows
          · intro hpos
            simp only [if_true] at hpos
            have hold := hpool.exhausted (by omega)
            omega
          · intro _
            simp [hfree]
      | false => exact hpool.setCaller h rfl rfl (Nat.le_refl _) (Nat.le_refl _)
    · rename_i hfull
      constructor
      · have hkept := providers_set pool.freeProviders [] .waiting hpool h (by
          rw [List.append_nil]
          exact List.Perm.refl _)
        rwa [List.append_nil] at hkept
      · exact hpool.bounded
      · intro _
        have hbounded := hpool.bounded
        simp only [Pool.setCaller]
        omega
      · intro _
        simp [Pool.setCaller, hfree]

theorem Sound.wake (hpool : pool.Sound) (h : pool.callers[i]? = some .waiting) :
    (pool.setCaller i .woken).Sound :=
  hpool.setCaller h rfl rfl (by decide) (by decide)

theorem Sound.resumeWait (hpool : pool.Sound) (h : pool.callers[i]? = some .woken) :
    (pool.resumeWait i).Sound := by
  unfold Pool.resumeWait
  split
  · rename_i provider hlast
    exact hpool.takeFree h (Or.inr rfl) hlast
  · rename_i hlast
    have hfree := getLast?_none hlast
    constructor
    · have hkept := providers_set pool.freeProviders [] .waiting hpool h (by
        rw [List.append_nil]
        exact List.Perm.refl _)
      rwa [List.append_nil] at hkept
    · exact hpool.bounded
    · intro _
      exact hpool.exhausted (countP_pos_of_get h rfl)
    · intro _
      simp [Pool.setCaller, hfree]

theorem Sound.releaseProvider (hpool : pool.Sound) {provider : Nat} {returned : Bool}
    (h : pool.callers[i]? = some (.releasing provider returned)) :
    (pool.releaseProvider i provider returned).Sound := by
  rcases counts_set h (.notifying returned) with ⟨hwaits, hblocks, hserving⟩
  simp only [Caller.inWait, Caller.isWaiting, Caller.serves, Bool.toNat_false, Bool.toNat_true]
    at hwaits hblocks hserving
  constructor
  · have hkept := providers_set (pool.freeProviders ++ [provider]) [] (.notifying returned)
      hpool h (by
        simp only [Caller.held, List.append_nil]
        exact List.Perm.refl _)
    rwa [List.append_nil] at hkept
  · exact hpool.bounded
  · intro hpos
    simp only [Pool.releaseProvider] at hpos ⊢
    exact hpool.exhausted (by omega)
  · intro hpos
    simp only [Pool.releaseProvider, List.length_append, List.length_singleton] at hpos ⊢
    have hold := hpool.signalled (by omega)
    omega

theorem Sound.notifyOne (hpool : pool.Sound) {returned : Bool}
    (h : pool.callers[i]? = some (.notifying returned)) (waiter : Nat) :
    (pool.notifyOne i waiter returned).Sound := by
  unfold Pool.notifyOne
  rcases counts_set h (.finished returned) with ⟨hwaits, hblocks, hserving⟩
  simp only [Caller.inWait, Caller.isWaiting, Caller.serves, Bool.toNat_false, Bool.toNat_true]
    at hwaits hblocks hserving
  have hproviders : (pool.freeProviders ++ gathered Caller.held
      (pool.callers.set i (.finished returned))).Perm (List.range pool.createdCount) := by
    have hkept := providers_set pool.freeProviders [] (.finished returned) hpool h (by
      rw [List.append_nil]
      exact List.Perm.refl _)
    rwa [List.append_nil] at hkept
  split
  · rename_i hwaiter
    have hother : i ≠ waiter := by
      intro heq
      rw [heq, hwaiter] at h
      cases h
    have hwaiter' : (pool.callers.set i (.finished returned))[waiter]? = some .waiting := by
      rw [List.getElem?_set_ne hother]
      exact hwaiter
    have hset := gathered_set Caller.held hwaiter' .woken
    have hin := countP_set_add Caller.inWait hwaiter' .woken
    have hblocked := countP_set_add Caller.isWaiting hwaiter' .woken
    have hserves := countP_set_add Caller.serves hwaiter' .woken
    simp only [Caller.inWait, Caller.isWaiting, Caller.serves, Bool.toNat_false,
      Bool.toNat_true] at hin hblocked hserves
    constructor
    · simp only [Caller.held, List.append_nil] at hset
      exact (List.Perm.append_left _ hset).trans hproviders
    · exact hpool.bounded
    · intro hpos
      simp only [Pool.setCaller] at hpos ⊢
      exact hpool.exhausted (by omega)
    · intro hpos
      simp only [Pool.setCaller] at hpos ⊢
      have hold := hpool.signalled (by omega)
      omega
  · split
    · exact hpool
    · rename_i hnone
      have hzero : pool.callers.countP Caller.isWaiting = 0 := by
        rw [List.countP_eq_zero]
        intro caller hcaller hwaiting
        exact hnone (List.any_eq_true.mpr ⟨caller, hcaller, hwaiting⟩)
      constructor
      · exact hproviders
      · exact hpool.bounded
      · intro hpos
        simp only [Pool.setCaller] at hpos ⊢
        exact hpool.exhausted (by omega)
      · intro hpos
        simp only [Pool.setCaller] at hpos
        omega

theorem Sound.call (hpool : pool.Sound) :
    Sound { pool with callers := pool.callers ++ [.arriving] } := by
  constructor
  · show (pool.freeProviders ++ gathered Caller.held (pool.callers ++ [.arriving])).Perm _
    rw [gathered_append rfl]
    exact hpool.providers
  · exact hpool.bounded
  · intro hpos
    exact hpool.exhausted (by simpa [List.countP_append, Caller.inWait] using hpos)
  · intro hpos
    simp only [List.countP_append, List.countP_singleton, Caller.isWaiting] at hpos
    have hold := hpool.signalled (by simpa using hpos)
    simp only [List.countP_append]
    omega

theorem Sound.step (hpool : pool.Sound) (event : PoolEvent) : (pool.step event).Sound := by
  cases event with
  | call => exact hpool.call
  | acquire i creates =>
      simp only [Pool.step]
      split
      · rename_i h
        exact hpool.acquireProvider h creates
      · exact hpool
  | wakeSpuriously i =>
      simp only [Pool.step]
      split
      · rename_i h
        exact hpool.wake h
      · exact hpool
  | resume i =>
      simp only [Pool.step]
      split
      · rename_i h
        exact hpool.resumeWait h
      · exact hpool
  | ran i returned =>
      simp only [Pool.step]
      split
      · rename_i provider h
        exact hpool.setCaller h rfl rfl (Nat.le_refl _) (Nat.le_refl _)
      · exact hpool
  | release i =>
      simp only [Pool.step]
      split
      · rename_i provider returned h
        exact hpool.releaseProvider h
      · exact hpool
  | notify i waiter =>
      simp only [Pool.step]
      split
      · rename_i returned h
        exact hpool.notifyOne h waiter
      · exact hpool

end Steps

theorem sound_reached (maxConnections : Int) (events : List PoolEvent) :
    (reached maxConnections events).Sound :=
  invariant_run (sound_makePool maxConnections) (fun _ event hpool => hpool.step event)

/-!
# The pool in every reachable state
-/

section Reached

variable {pool : Pool}

theorem Sound.nodup (hpool : pool.Sound) :
    (pool.freeProviders ++ gathered Caller.held pool.callers).Nodup :=
  hpool.providers.nodup_iff.mpr List.nodup_range

/-- While a caller is blocked the pool is exhausted, so each provider is free or held by
one that runs. -/
theorem Sound.notStuck (hpool : pool.Sound) (hwaiting : Caller.waiting ∈ pool.callers) :
    exists caller, caller ∈ pool.callers ∧ (caller.serves = true ∨ caller.held ≠ []) := by
  have hblocked : 0 < pool.callers.countP Caller.isWaiting :=
    List.countP_pos_iff.mpr ⟨_, hwaiting, rfl⟩
  have hin : 0 < pool.callers.countP Caller.inWait :=
    List.countP_pos_iff.mpr ⟨_, hwaiting, rfl⟩
  have hlength := hpool.providers.length_eq
  rw [List.length_append, List.length_range, hpool.exhausted hin] at hlength
  have hpositive := pool.positive
  rcases Nat.eq_zero_or_pos (gathered Caller.held pool.callers).length with hnone | hsome
  · have hserves := hpool.signalled hblocked
    rcases List.countP_pos_iff.mp (show 0 < pool.callers.countP Caller.serves by omega) with
      ⟨caller, hcaller, h⟩
    exact ⟨caller, hcaller, Or.inl h⟩
  · rcases List.exists_mem_of_length_pos hsome with ⟨provider, hprovider⟩
    rcases List.mem_flatMap.mp hprovider with ⟨caller, hcaller, hheld⟩
    exact ⟨caller, hcaller, Or.inr (List.ne_nil_of_mem hheld)⟩

end Reached

/-- No provider is lost or shared, and no waiter is forgotten. -/
structure Safe (pool : Pool) : Prop where
  disjoint : forall provider, provider ∈ pool.freeProviders ->
    provider ∉ gathered Caller.held pool.callers
  counted : pool.freeProviders.length + (gathered Caller.held pool.callers).length ≤
    pool.createdCount
  bounded : pool.createdCount ≤ pool.maxConnections
  exclusive : forall (i j : Nat) (caller caller' : Caller) (provider : Nat),
    pool.callers[i]? = some caller ->
    pool.callers[j]? = some caller' -> provider ∈ caller.held -> provider ∈ caller'.held ->
      i = j
  returned : (forall caller, caller ∈ pool.callers -> caller.isFinished = true) ->
    pool.freeProviders.Perm (List.range pool.createdCount)
  served : Caller.waiting ∈ pool.callers ->
    pool.freeProviders ≠ [] ∨ pool.createdCount < pool.maxConnections ->
      exists caller, caller ∈ pool.callers ∧ caller.serves = true

theorem pool_safe (maxConnections : Int) (events : List PoolEvent) :
    (reached maxConnections events).Safe := by
  have hpool := sound_reached maxConnections events
  constructor
  · intro provider hfree
    exact (List.disjoint_of_nodup_append hpool.nodup) hfree
  · have hlength := hpool.providers.length_eq
    rw [List.length_append, List.length_range] at hlength
    omega
  · exact hpool.bounded
  · intro i j caller caller' provider hi hj hheld hheld'
    exact index_unique_of_nodup hpool.nodup.of_append_right hi hj hheld hheld'
  · intro hfinished
    have hnone : gathered Caller.held (reached maxConnections events).callers = [] := by
      refine List.flatMap_eq_nil_iff.mpr (fun caller hcaller => ?_)
      have hdone := hfinished caller hcaller
      cases caller <;> first | rfl | cases hdone
    have hproviders := hpool.providers
    rwa [hnone, List.append_nil] at hproviders
  · intro hwaiting hspare
    have hblocked : 0 < (reached maxConnections events).callers.countP Caller.isWaiting :=
      List.countP_pos_iff.mpr ⟨_, hwaiting, rfl⟩
    have hin : 0 < (reached maxConnections events).callers.countP Caller.inWait :=
      List.countP_pos_iff.mpr ⟨_, hwaiting, rfl⟩
    have hfull := hpool.exhausted hin
    have hserves := hpool.signalled hblocked
    rcases hspare with hfree | hcapacity
    · have hlength := List.length_pos_iff.mpr hfree
      exact List.countP_pos_iff.mp (by omega)
    · omega

/-!
# Draining the pool
-/

/-- The steps that the callers can take; a new call and a spurious wake-up are none. -/
inductive CanTake (pool : Pool) : PoolEvent -> Prop where
  | acquire {i : Nat} {creates : Bool} :
      pool.callers[i]? = some .arriving -> CanTake pool (.acquire i creates)
  | resume {i : Nat} : pool.callers[i]? = some .woken -> CanTake pool (.resume i)
  | ran {i provider : Nat} {returned : Bool} :
      pool.callers[i]? = some (.running provider) -> CanTake pool (.ran i returned)
  | release {i provider : Nat} {returned : Bool} :
      pool.callers[i]? = some (.releasing provider returned) -> CanTake pool (.release i)
  | notify {i waiter : Nat} {returned : Bool} :
      pool.callers[i]? = some (.notifying returned) -> pool.callers[waiter]? = some .waiting ->
        CanTake pool (.notify i waiter)
  | notifyNobody {i waiter : Nat} {returned : Bool} :
      pool.callers[i]? = some (.notifying returned) -> .waiting ∉ pool.callers ->
        CanTake pool (.notify i waiter)

/-- How far a caller is from its end; a notification pays for the waiter that it wakes. -/
def weight : Caller -> Nat
  | .arriving => 7
  | .woken => 6
  | .waiting => 5
  | .running _ => 4
  | .releasing _ _ => 3
  | .notifying _ => 2
  | .finished _ => 0

def rank (pool : Pool) : Nat := (pool.callers.map weight).sum

section Drained

variable {pool pool' : Pool} {i : Nat} {t t' : Caller}

theorem rank_set (h : pool.callers[i]? = some t)
    (hcallers : pool'.callers = pool.callers.set i t') :
    pool'.rank + weight t = pool.rank + weight t' := by
  rcases exists_split h with ⟨before, later, hsplit, hset⟩
  rw [rank, rank, hcallers, hset, hsplit]
  simp only [List.map_append, List.map_cons, List.sum_append, List.sum_cons]
  omega

theorem rank_lt_of_set (h : pool.callers[i]? = some t)
    (hcallers : pool'.callers = pool.callers.set i t') (hlt : weight t' < weight t) :
    pool'.rank < pool.rank := by
  have hsum := rank_set h hcallers
  omega

theorem CanTake.rank_lt {event : PoolEvent} (h : pool.CanTake event) :
    (pool.step event).rank < pool.rank := by
  cases h with
  | acquire h =>
      simp only [step, if_pos h, acquireProvider]
      repeat' split
      all_goals exact rank_lt_of_set h rfl (by simp [weight])
  | resume h =>
      simp only [step, if_pos h, resumeWait]
      split <;> exact rank_lt_of_set h rfl (by simp [weight])
  | ran h =>
      simp only [step, h]
      exact rank_lt_of_set h rfl (by simp [weight])
  | release h =>
      simp only [step, h]
      exact rank_lt_of_set h rfl (by simp [weight])
  | @notify i waiter returned h hwaiter =>
      simp only [step, h, notifyOne, if_pos hwaiter]
      have hne : i ≠ waiter := by
        intro heq
        rw [heq, hwaiter] at h
        cases h
      have hwaiter' : (pool.setCaller i (.finished returned)).callers[waiter]? =
          some .waiting := by
        rw [setCaller, List.getElem?_set_ne hne, hwaiter]
      have hfinished := @rank_set _ (pool.setCaller i (.finished returned)) i _ _ h rfl
      have hwoken := @rank_set _ (setCaller _ waiter .woken) waiter _ _ hwaiter' rfl
      simp only [weight] at hfinished hwoken
      omega
  | @notifyNobody i waiter returned h hnobody =>
      have hwaiter : pool.callers[waiter]? ≠ some .waiting :=
        fun hwaiter => hnobody (List.mem_of_getElem? hwaiter)
      have hnone : Not (pool.callers.any Caller.isWaiting = true) := by
        rw [List.any_eq_true]
        rintro ⟨caller, hcaller, hwaiting⟩
        cases caller with
        | waiting => exact hnobody hcaller
        | _ => cases hwaiting
      simp only [step, h, notifyOne, if_neg hwaiter, if_neg hnone]
      exact rank_lt_of_set h rfl (by simp [weight])

theorem CanTake.exists_open {event : PoolEvent} (h : pool.CanTake event) :
    exists caller, caller ∈ pool.callers ∧ caller.isFinished = false := by
  cases h with
  | acquire h => exact ⟨_, List.mem_of_getElem? h, rfl⟩
  | resume h => exact ⟨_, List.mem_of_getElem? h, rfl⟩
  | ran h => exact ⟨_, List.mem_of_getElem? h, rfl⟩
  | release h => exact ⟨_, List.mem_of_getElem? h, rfl⟩
  | notify h _ => exact ⟨_, List.mem_of_getElem? h, rfl⟩
  | notifyNobody h _ => exact ⟨_, List.mem_of_getElem? h, rfl⟩

theorem exists_canTake_of_mem {caller : Caller} (hcaller : caller ∈ pool.callers)
    (hopen : caller.isFinished = false) (hfree : caller.isWaiting = false) :
    exists event, pool.CanTake event := by
  rcases List.mem_iff_getElem?.mp hcaller with ⟨i, h⟩
  cases caller with
  | finished returned => cases hopen
  | waiting => cases hfree
  | arriving => exact ⟨.acquire i true, .acquire h⟩
  | woken => exact ⟨.resume i, .resume h⟩
  | running provider => exact ⟨.ran i true, .ran h⟩
  | releasing provider returned => exact ⟨.release i, .release h⟩
  | notifying returned =>
      by_cases hwaiting : .waiting ∈ pool.callers
      · rcases List.mem_iff_getElem?.mp hwaiting with ⟨waiter, hwaiter⟩
        exact ⟨.notify i waiter, .notify h hwaiter⟩
      · exact ⟨.notify i i, .notifyNobody h hwaiting⟩

theorem Sound.exists_canTake (hpool : pool.Sound) {caller : Caller}
    (hcaller : caller ∈ pool.callers) (hopen : caller.isFinished = false) :
    exists event, pool.CanTake event := by
  cases caller with
  | waiting =>
      rcases hpool.notStuck hcaller with ⟨other, hother, h⟩
      apply exists_canTake_of_mem hother
      all_goals cases other <;> simp_all [Caller.serves, Caller.held, Caller.isFinished,
        Caller.isWaiting]
  | _ => exact exists_canTake_of_mem hcaller hopen rfl

theorem length_le_rank {later : List PoolEvent} (h : Along step CanTake pool later) :
    later.length ≤ pool.rank := by
  induction later generalizing pool with
  | nil => exact Nat.zero_le _
  | cons event rest ih =>
      rcases along_cons.mp h with ⟨htakes, hrest⟩
      have hlt := htakes.rank_lt
      have hle := ih hrest
      rw [List.length_cons]
      omega

theorem rank_le (pool : Pool) : pool.rank ≤ 7 * pool.callers.length := by
  unfold rank
  induction pool.callers with
  | nil => exact Nat.zero_le _
  | cons caller rest ih =>
      have hweight : weight caller ≤ 7 := by cases caller <;> simp [weight]
      rw [List.map_cons, List.sum_cons, List.length_cons]
      omega

end Drained

/-- Without new calls and spurious wake-ups the callers take together no more than seven
steps for each of them, and when they can take none all have finished. -/
theorem pool_drains (maxConnections : Int) (events later : List PoolEvent)
    (h : Along step CanTake (reached maxConnections events) later) :
    later.length ≤ 7 * (reached maxConnections events).callers.length ∧
      ((forall event, Not (CanTake (reached maxConnections (events ++ later)) event)) ->
        forall caller, caller ∈ (reached maxConnections (events ++ later)).callers ->
          caller.isFinished = true) := by
  refine ⟨Nat.le_trans (length_le_rank h) (rank_le _), ?_⟩
  intro hnone caller hcaller
  by_contra hopen
  rcases (sound_reached maxConnections (events ++ later)).exists_canTake hcaller
    (by simpa using hopen) with ⟨event, hevent⟩
  exact hnone event hevent

/-- The second of two callers waits for the one provider, and both finish. -/
def fullRun : List PoolEvent :=
  [.acquire 1 true, .ran 0 true, .release 0, .notify 0 1, .resume 1, .ran 1 false, .release 1,
    .notify 1 1]

theorem fullRun_along : Along step CanTake (reached 1 [.call, .call, .acquire 0 true]) fullRun := by
  unfold fullRun
  repeat' rw [along_cons]
  exact ⟨.acquire rfl, @CanTake.ran _ _ 0 _ rfl, @CanTake.release _ _ _ true rfl,
    @CanTake.notify _ _ _ true rfl rfl, .resume rfl, @CanTake.ran _ _ 0 _ rfl,
    @CanTake.release _ _ _ false rfl, @CanTake.notifyNobody _ _ _ false rfl (by decide),
    along_nil⟩

theorem pool_drains_full :
    fullRun.length ≤ 7 * (reached 1 [.call, .call, .acquire 0 true]).callers.length ∧
      forall caller, caller ∈ (reached 1 ([.call, .call, .acquire 0 true] ++ fullRun)).callers ->
        caller.isFinished = true := by
  have hdrains := pool_drains 1 [.call, .call, .acquire 0 true] fullRun fullRun_along
  refine ⟨hdrains.1, hdrains.2 ?_⟩
  have hall : forall caller,
      caller ∈ (reached 1 ([.call, .call, .acquire 0 true] ++ fullRun)).callers ->
        Not (caller.isFinished = false) := by decide
  intro event h
  rcases h.exists_open with ⟨caller, hcaller, hopen⟩
  exact hall caller hcaller hopen

/-- A provider that is released while a newcomer takes it before the waiter resumes. -/
example : (reached 1 [.call, .acquire 0 true, .call, .acquire 1 true, .ran 0 false, .release 0,
    .notify 0 1, .call, .acquire 2 true, .resume 1]).callers =
      [.finished false, .waiting, .running 0] := by
  decide

end Pool

end Transactions
end ServerComponents
