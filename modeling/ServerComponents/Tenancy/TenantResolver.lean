import ServerComponents.Caches.Coherence
import ServerComponents.Tenancy.Tenants

/-!
# The tenant resolvers

`ControlDbTenantResolver` caches the rows of the control database without a
time to live and relies on `Invalidate` after a change.  Nothing stops a
resolution that has read the old row from putting it back.
-/

namespace ServerComponents
namespace Tenancy

open Statements Caches

namespace ControlDbTenantResolver

/-- The transaction of `Resolve` on the control database. -/
def readTenant (tenants : Tenants) (siteKey : String) : Option TenantContext :=
  (tenants.lookupBySiteKey siteKey).map contextFromRow

def controlDatabase : Backend Tenants String TenantContext TenantWrite where
  view := readTenant
  apply := TenantWrite.apply

abbrev ResolverEvent := Event String TenantWrite

/-- A resolver that has not resolved anything. -/
def started (tenants : Tenants) : Serving Tenants String TenantContext where
  store := tenants
  cache := fun _ => none
  calls := []

def run (tenants : Tenants) (es : List ResolverEvent) :
    Serving Tenants String TenantContext :=
  after controlDatabase.step (started tenants) es

def Invalidates (siteKey : String) (e : ResolverEvent) : Prop :=
  e = .invalidate siteKey ∨ e = .invalidateAll

/-- A resolution of the site has read a row that is not the current one, and
has still to insert it. -/
def StaleResolution (s : Serving Tenants String TenantContext) (siteKey : String) :
    Prop :=
  controlDatabase.StaleInsert s siteKey

/-- After each invalidation of a site key, the resolutions of the key that start
before its row changes again return what the row says. -/
def ResolvesCurrent (tenants : Tenants) (es : List ResolverEvent) : Prop :=
  forall pre e post siteKey, es = pre ++ e :: post -> Invalidates siteKey e ->
    controlDatabase.Coherent (run tenants (pre ++ [e])) siteKey post

theorem invalidated_cache {s : Serving Tenants String TenantContext} {siteKey : String}
    {e : ResolverEvent} (h : Invalidates siteKey e) :
    (controlDatabase.step s e).cache siteKey = none := by
  rcases h with hone | hall
  · simp [hone, Backend.step, Cached.invalidate]
  · simp [hall, Backend.step, Cached.invalidateAll]

theorem invalidated_stale {s : Serving Tenants String TenantContext} {siteKey : String}
    {e : ResolverEvent} (h : Invalidates siteKey e) :
    StaleResolution (controlDatabase.step s e) siteKey <-> StaleResolution s siteKey := by
  rcases h with hone | hall
  · rw [hone]
    exact Iff.rfl
  · rw [hall]
    exact Iff.rfl

/-- The resolver is coherent along every run whose invalidations meet no stale
resolution; and an invalidation is followed by coherent resolutions only,
however the run goes on, exactly when it meets none. -/
theorem cacheCoherence (tenants : Tenants) :
    (forall es, Along controlDatabase.step
        (fun s e => forall siteKey, Invalidates siteKey e ->
          Not (StaleResolution s siteKey)) (started tenants) es ->
      ResolvesCurrent tenants es) ∧
    (forall pre e siteKey, Invalidates siteKey e ->
      ((forall post, controlDatabase.Coherent (run tenants (pre ++ [e])) siteKey post) <->
        Not (StaleResolution (run tenants pre) siteKey))) := by
  have hiff : forall pre e siteKey, Invalidates siteKey e ->
      ((forall post, controlDatabase.Coherent (run tenants (pre ++ [e])) siteKey post) <->
        Not (StaleResolution (run tenants pre) siteKey)) := by
    intro pre e siteKey hinvalidates
    have hrun : run tenants (pre ++ [e]) =
        controlDatabase.step (run tenants pre) e := after_append _ _ _ _
    rw [hrun, Backend.coherent_iff (invalidated_cache hinvalidates)]
    exact not_congr (invalidated_stale hinvalidates)
  refine ⟨?_, hiff⟩
  intro es halong pre e post siteKey hes hinvalidates
  exact (hiff pre e siteKey hinvalidates).mpr (halong pre e post hes siteKey hinvalidates)
    post

/-!
## A suspension that the cache forgets
-/

section Suspension

def acme : TenantRow where
  id := 1
  siteKey := "acme"
  databaseName := "tenant_acme"
  displayName := "Acme"
  status := kTenantStatusActive
  maxConnections := 1

def oneTenant : Tenants where
  rows := [acme]
  nextId := 2
  noClash := by decide

def suspendAcme : ResolverEvent :=
  .write (.setStatus 1000 "acme" kTenantStatusSuspended)

/-- A suspension before anybody asked for the site. -/
theorem cacheCoherence_unasked : ResolvesCurrent oneTenant
    [suspendAcme, .invalidate "acme", .start "acme", .advance 0, .advance 0, .advance 0] := by
  refine (cacheCoherence oneTenant).1 _ ?_
  have hnone {s : Serving Tenants String TenantContext} {siteKey : String}
      (hcalls : s.calls = []) : Not (StaleResolution s siteKey) := by
    rintro ⟨v, hcall, _⟩
    rw [hcalls] at hcall
    cases hcall
  have hother {e : ResolverEvent} (h : forall siteKey, Not (Invalidates siteKey e))
      (s : Serving Tenants String TenantContext) :
      forall siteKey, Invalidates siteKey e -> Not (StaleResolution s siteKey) :=
    fun siteKey hinvalidates => absurd hinvalidates (h siteKey)
  simp only [along_cons]
  refine ⟨hother ?_ _, fun _ _ => hnone rfl, hother ?_ _, hother ?_ _, hother ?_ _,
    hother ?_ _, along_nil⟩ <;> rintro siteKey (h | h) <;> cases h

/-- A resolution reads the row; the tenant is suspended and its key invalidated;
the resolution inserts what it has read; the next one finds it. -/
def staleRun : List ResolverEvent :=
  [.start "acme", .advance 0, .advance 0, suspendAcme, .invalidate "acme", .advance 0,
    .start "acme", .advance 1]

/-- The last resolution returns an active tenant. -/
theorem resolvesCurrent_fails :
    Not (forall tenants es, ResolvesCurrent tenants es) := by
  intro hlaw
  have hcoherent := hlaw oneTenant staleRun
    [.start "acme", .advance 0, .advance 0, suspendAcme] (.invalidate "acme")
    [.advance 0, .start "acme", .advance 1] "acme" rfl (Or.inl rfl)
  have hreturned := hcoherent [.advance 0] [.advance 1] (some (contextFromRow acme)) rfl
    (by
      intro v hseen
      rcases Backend.seen_singleton hseen with hv | hv
      · exact hv
      · exact hv)
    (by decide)
  rcases Backend.seen_singleton hreturned with hv | hv
  · revert hv
    decide
  · revert hv
    decide

end Suspension

end ControlDbTenantResolver

end Tenancy
end ServerComponents
