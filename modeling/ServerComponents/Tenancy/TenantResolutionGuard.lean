import ServerComponents.Tenancy.TenantResolver
import ServerComponents.Tenancy.TenantResources

/-!
# The request edge

The guard resolves the site key of a request before any handler runs.  The
handler's `EndpointAuthHelper` resolves it once more and binds the request to a
transaction provider.
-/

namespace ServerComponents
namespace Tenancy

inductive TenancyMode where
  | fixed
  | control
  deriving Repr, DecidableEq

/-- The URL and the value of the site header, empty if there is none. -/
structure Request where
  url : String
  siteHeader : String
  deriving Repr, DecidableEq

namespace TenantResolutionGuard

def kHealthPathPrefix : String := "/api/health"

def isHealthPath (url : String) : Bool :=
  kHealthPathPrefix.toList.isPrefixOf url.toList

inductive Outcome where
  | passed (tenant : TenantContext)
  | rejected (code : Nat) (body : String)
  deriving Repr, DecidableEq

def errorBody (error : String) : String :=
  "\x7b\"error\":\"" ++ error ++ "\"\x7d"

def isSuspended (resolved : Option TenantContext) : Bool :=
  match resolved with
  | some context => decide (context.status = kTenantStatusSuspended)
  | none => false

/-- What `before_handle` does with the result of its `Resolve`. -/
def judge (mode : TenancyMode) (siteKey : String) (resolved : Option TenantContext) :
    Outcome :=
  match resolved, isSuspended resolved with
  | some context, false => .passed context
  | _, suspended =>
      match mode with
      | .control =>
          if suspended then .rejected 421 (errorBody "site_suspended")
          else if siteKey = "" then .rejected 421 (errorBody "missing_site_header")
          else .rejected 421 (errorBody "unknown_site")
      | .fixed => .rejected 400 (errorBody "site_mismatch")

theorem judge_passed {mode : TenancyMode} {siteKey : String}
    {resolved : Option TenantContext} {context : TenantContext}
    (h : judge mode siteKey resolved = .passed context) :
    resolved = some context ∧ context.status ≠ kTenantStatusSuspended := by
  unfold judge at h
  split at h
  · next context' hsuspended =>
      cases h
      exact ⟨rfl, by simpa [isSuspended] using hsuspended⟩
  · split at h
    · split at h
      · cases h
      · split at h <;> cases h
    · cases h

end TenantResolutionGuard

/-- The parts of the helper that `ResolveTenant` sets. -/
structure EndpointAuthHelper where
  tenantContext : TenantContext
  tenantResources : Option TenantResources
  deriving Repr, DecidableEq

namespace EndpointAuthHelper

/-- What `ResolveTenant` does with the result of its `Resolve`. -/
def bindTenant (factory : Factory) (registry : TenantResourceRegistry)
    (resolved : Option TenantContext) : EndpointAuthHelper × TenantResourceRegistry :=
  match resolved with
  | some context =>
      if context.status ≠ kTenantStatusSuspended then
        ({ tenantContext := context
           tenantResources := some (registry.getOrCreate factory context).1 },
          (registry.getOrCreate factory context).2)
      else
        ({ tenantContext := {}, tenantResources := none }, registry)
  | none => ({ tenantContext := {}, tenantResources := none }, registry)

/-- Without the resources of a tenant this is the deployment's own provider. -/
def getTransactionProvider (helper : EndpointAuthHelper) : TransactionProvider :=
  (helper.tenantResources.bind TenantResources.transactionProvider).getD .global

variable {factory : Factory} {registry : TenantResourceRegistry} {tenants : Tenants}
  {siteKey : String} {resolved : Option TenantContext}

theorem bindTenant_cases (factory : Factory) (hregistry : registry.Sound tenants)
    (hnames : forall context, resolved = some context -> Names tenants siteKey context) :
    (bindTenant factory registry resolved).2.Sound tenants ∧
      (OwnProvider tenants siteKey
          (bindTenant factory registry resolved).1.getTransactionProvider ∨
        (bindTenant factory registry resolved).1.getTransactionProvider = .global) := by
  unfold bindTenant
  cases resolved with
  | none => exact ⟨hregistry, Or.inr rfl⟩
  | some context =>
      by_cases hactive : context.status ≠ kTenantStatusSuspended
      · simp only [if_pos hactive]
        rcases hregistry.getOrCreate factory (hnames context rfl) with
          ⟨hsound, provider, hprovider, hown⟩
        refine ⟨hsound, Or.inl ?_⟩
        simpa [getTransactionProvider, hprovider] using hown
      · simp only [if_neg hactive]
        exact ⟨hregistry, Or.inr rfl⟩

theorem bindTenant_active {context : TenantContext} (hregistry : registry.Sound tenants)
    (hnames : Names tenants siteKey context)
    (hactive : context.status ≠ kTenantStatusSuspended) :
    OwnProvider tenants siteKey
      (bindTenant factory registry (some context)).1.getTransactionProvider := by
  unfold bindTenant
  simp only [if_pos hactive]
  rcases hregistry.getOrCreate factory hnames with
    ⟨_, provider, hprovider, hown⟩
  simpa [getTransactionProvider, hprovider] using hown

theorem bindTenant_suspended {context : TenantContext}
    (hsuspended : context.status = kTenantStatusSuspended) :
    (bindTenant factory registry (some context)).1.getTransactionProvider = .global := by
  simp [bindTenant, hsuspended, getTransactionProvider]

end EndpointAuthHelper

theorem OwnProvider.ne_global {tenants : Tenants} {siteKey : String}
    {provider : TransactionProvider} (h : OwnProvider tenants siteKey provider) :
    provider ≠ .global := by
  rcases h with ⟨row, _, _, hprovider⟩
  rw [hprovider]
  intro hglobal
  cases hglobal

end Tenancy
end ServerComponents
