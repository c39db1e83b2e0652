import Mathlib.Logic.Function.Basic
import ServerComponents.Tenancy.Tenants

/-!
# Tenant resources

The registry builds the resources of a tenant once and keeps them under the
tenant's id.
-/

namespace ServerComponents
namespace Tenancy

/-- The deployment's own provider, and a pool over one database. -/
inductive TransactionProvider where
  | global
  | pooled (databaseName : String) (maxConnections : Int)
  deriving Repr, DecidableEq

structure TenantResources where
  context : TenantContext
  databaseHelper : Option String
  transactionProvider : Option TransactionProvider
  deriving Repr, DecidableEq

/-- The pool bound is cast to a 32-bit `int`. -/
def makeTenantTransactionProvider (context : TenantContext) : TransactionProvider :=
  .pooled context.databaseName
    (if context.maxConnections > 0 then Int.bmod context.maxConnections 4294967296 else 1)

def makeDefaultTenantResources (context : TenantContext) : TenantResources where
  context := context
  databaseHelper := some context.databaseName
  transactionProvider := some (makeTenantTransactionProvider context)

/-- An application's factory.  It populates the base resources. -/
structure Factory where
  build : TenantContext -> TenantResources
  populated : forall context,
    (build context).databaseHelper = some context.databaseName ∧
      (build context).transactionProvider = some (makeTenantTransactionProvider context)

def Factory.default : Factory where
  build := makeDefaultTenantResources
  populated := fun _ => ⟨rfl, rfl⟩

abbrev TenantResourceRegistry := Nat -> Option TenantResources

namespace TenantResourceRegistry

def getOrCreate (factory : Factory) (registry : TenantResourceRegistry)
    (context : TenantContext) : TenantResources × TenantResourceRegistry :=
  match registry context.tenantId with
  | some resources => (resources, registry)
  | none =>
      (factory.build context,
        Function.update registry context.tenantId (some (factory.build context)))

def evict (registry : TenantResourceRegistry) (tenantId : Nat) :
    TenantResourceRegistry :=
  Function.update registry tenantId none

end TenantResourceRegistry

def Names (tenants : Tenants) (siteKey : String) (context : TenantContext) : Prop :=
  exists row, row ∈ tenants.rows ∧ row.siteKey = siteKey ∧
    context = { contextFromRow row with status := context.status }

/-- The provider of the tenant that a site key names. -/
def OwnProvider (tenants : Tenants) (siteKey : String) (provider : TransactionProvider) :
    Prop :=
  exists row, row ∈ tenants.rows ∧ row.siteKey = siteKey ∧
    provider = makeTenantTransactionProvider (contextFromRow row)

/-- Every entry of the registry was built for the tenant with its id. -/
def TenantResourceRegistry.Sound (tenants : Tenants)
    (registry : TenantResourceRegistry) : Prop :=
  forall tenantId resources, registry tenantId = some resources ->
    exists row, row ∈ tenants.rows ∧ row.id = tenantId ∧
      resources.transactionProvider =
        some (makeTenantTransactionProvider (contextFromRow row))

section Writes

variable {tenants : Tenants} {siteKey : String}

theorem TenantRow.SameTenant.provider {row row' : TenantRow} (h : row.SameTenant row') :
    makeTenantTransactionProvider (contextFromRow row') =
      makeTenantTransactionProvider (contextFromRow row) := by
  rw [h]
  rfl

theorem Names.write {context : TenantContext} (h : Names tenants siteKey context)
    (w : TenantWrite) : Names (w.apply tenants) siteKey context := by
  rcases h with ⟨row, hrow, hkey, hcontext⟩
  rcases w.apply_keeps hrow with ⟨row', hrow', hsame⟩
  refine ⟨row', hrow', ?_, ?_⟩
  · rw [hsame]
    exact hkey
  · rw [hsame, hcontext]
    rfl

theorem OwnProvider.write {provider : TransactionProvider}
    (h : OwnProvider tenants siteKey provider) (w : TenantWrite) :
    OwnProvider (w.apply tenants) siteKey provider := by
  rcases h with ⟨row, hrow, hkey, hprovider⟩
  rcases w.apply_keeps hrow with ⟨row', hrow', hsame⟩
  refine ⟨row', hrow', ?_, ?_⟩
  · rw [hsame]
    exact hkey
  · rw [hprovider, hsame.provider]

theorem TenantResourceRegistry.Sound.write {registry : TenantResourceRegistry}
    (h : registry.Sound tenants) (w : TenantWrite) :
    registry.Sound (w.apply tenants) := by
  intro tenantId resources hentry
  rcases h tenantId resources hentry with ⟨row, hrow, hid, hprovider⟩
  rcases w.apply_keeps hrow with ⟨row', hrow', hsame⟩
  refine ⟨row', hrow', ?_, ?_⟩
  · rw [hsame]
    exact hid
  · rw [hprovider, hsame.provider]

end Writes

namespace TenantResourceRegistry

variable {factory : Factory} {registry : TenantResourceRegistry} {tenants : Tenants}
  {siteKey : String} {context : TenantContext}

theorem Sound.evict (h : registry.Sound tenants) (tenantId : Nat) :
    (registry.evict tenantId).Sound tenants := by
  intro tenantId' resources hentry
  by_cases hid : tenantId' = tenantId
  · simp [TenantResourceRegistry.evict, hid] at hentry
  · exact h tenantId' resources
      (by simpa [TenantResourceRegistry.evict, hid] using hentry)

theorem Sound.getOrCreate (factory : Factory) (h : registry.Sound tenants)
    (hnames : Names tenants siteKey context) :
    (registry.getOrCreate factory context).2.Sound tenants ∧
      exists provider,
        (registry.getOrCreate factory context).1.transactionProvider = some provider ∧
          OwnProvider tenants siteKey provider := by
  rcases hnames with ⟨row, hrow, hkey, hcontext⟩
  have hid : context.tenantId = row.id := by rw [hcontext]; rfl
  have hown : makeTenantTransactionProvider context =
      makeTenantTransactionProvider (contextFromRow row) := by
    rw [hcontext]
    rfl
  unfold TenantResourceRegistry.getOrCreate
  cases hentry : registry context.tenantId with
  | some resources =>
      rcases h _ _ hentry with ⟨row', hrow', hid', hprovider⟩
      have hsame : row' = row := Tenants.eq_of_id hrow' hrow (hid'.trans hid)
      rw [hsame] at hprovider
      exact ⟨h, _, hprovider, row, hrow, hkey, rfl⟩
  | none =>
      have hbuilt := (factory.populated context).2
      rw [hown] at hbuilt
      refine ⟨?_, _, hbuilt, row, hrow, hkey, rfl⟩
      intro tenantId resources hresources
      by_cases htenant : tenantId = context.tenantId
      · have hresources : factory.build context = resources := by
          simpa [htenant] using hresources
        rw [← hresources]
        exact ⟨row, hrow, by rw [htenant, hid], hbuilt⟩
      · exact h tenantId resources (by simpa [htenant] using hresources)

end TenantResourceRegistry

end Tenancy
end ServerComponents
