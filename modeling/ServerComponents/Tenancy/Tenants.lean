import ServerComponents.Basics
import ServerComponents.Relational.Table

/-!
# The tenants of the control database

A row of the `tenants` table names a tenant's site key and database.  Inserts
and status changes are its only writes, so a tenant keeps its identity.
-/

namespace ServerComponents
namespace Tenancy

open Relational

structure TenantRow where
  id : Nat
  siteKey : String
  databaseName : String
  displayName : String
  status : String
  maxConnections : Int
  deriving Repr, DecidableEq

structure TenantContext where
  tenantId : Nat := 0
  siteKey : String := ""
  databaseName : String := ""
  displayName : String := ""
  status : String := ""
  maxConnections : Int := 1
  deriving Repr, DecidableEq

def kTenantStatusActive : String := "active"
def kTenantStatusSuspended : String := "suspended"

def contextFromRow (row : TenantRow) : TenantContext where
  tenantId := row.id
  siteKey := row.siteKey
  databaseName := row.databaseName
  displayName := row.displayName
  status := row.status
  maxConnections := row.maxConnections

def TenantRow.Clash (r r' : TenantRow) : Prop :=
  r.id = r'.id ∨ r.siteKey = r'.siteKey ∨ r.databaseName = r'.databaseName

instance : DecidableRel TenantRow.Clash :=
  fun _ _ => inferInstanceAs (Decidable (_ ∨ _ ∨ _))

theorem TenantRow.Clash.symm {r r' : TenantRow} (h : r.Clash r') : r'.Clash r := by
  rcases h with hid | hkey | hname
  · exact Or.inl hid.symm
  · exact Or.inr (Or.inl hkey.symm)
  · exact Or.inr (Or.inr hname.symm)

abbrev Tenants := Table TenantRow TenantRow.Clash

variable {row : TenantRow} {tenants : Tenants}

namespace Tenants

/-- The column defaults apply to an empty status and to a pool bound that is not
positive. -/
def newRow (row : TenantRow) (id : Nat) : TenantRow :=
  { row with
    id := id
    status := if row.status = "" then kTenantStatusActive else row.status
    maxConnections := if row.maxConnections > 0 then row.maxConnections else 1 }

def insert (tenants : Tenants) (row : TenantRow) : Except Exn (Nat × Tenants) :=
  match tenants.insert? (newRow row) with
  | none => .error (.sql .uniqueViolation)
  | some (inserted, tenants') => .ok (inserted.id, tenants')

def lookupBySiteKey (tenants : Tenants) (siteKey : String) : Option TenantRow :=
  tenants.find? (fun row => decide (row.siteKey = siteKey))

/-- `now_us()` is the one SQL expression that a value may be. -/
def sqlValue (now : Nat) (value : String) : String :=
  if value = "now_us()" then toString now else value

def setStatus (tenants : Tenants) (now : Nat) (siteKey status : String) :
    Except Exn Tenants :=
  match tenants.update? (fun row => decide (row.siteKey = siteKey))
      (fun row => { row with status := sqlValue now status }) with
  | none => .error (.sql .uniqueViolation)
  | some (_, tenants') => .ok tenants'

theorem insert_ok {tenants tenants' : Tenants} {id : Nat}
    (h : tenants.insert row = .ok (id, tenants')) :
    id = tenants.nextId ∧ tenants'.rows = tenants.rows ++ [newRow row id] := by
  unfold insert at h
  cases hinsert : tenants.insert? (newRow row) with
  | none =>
      rw [hinsert] at h
      cases h
  | some result =>
      rw [hinsert] at h
      cases h
      rcases Table.insert?_some hinsert with ⟨hnew, hrows, _⟩
      have hid : result.1.id = tenants.nextId := by
        rw [hnew]
        rfl
      exact ⟨hid, by rw [hrows, hid, hnew]⟩

/-- A new row breaks no constraint of the table. -/
def Free (tenants : Tenants) (row : TenantRow) : Prop :=
  forall r, r ∈ tenants.rows -> Not (r.Clash (newRow row tenants.nextId))

theorem insert_of_free (h : tenants.Free row) :
    exists id tenants', tenants.insert row = .ok (id, tenants') := by
  have hsome : (tenants.insert? (newRow row)).isSome = true := (Table.insert?_isSome_iff _ _).mpr h
  rcases Option.isSome_iff_exists.mp hsome with ⟨result, hresult⟩
  unfold insert
  rw [hresult]
  exact ⟨_, _, rfl⟩

theorem free_of_insert {tenants tenants' : Tenants} {id : Nat}
    (h : tenants.insert row = .ok (id, tenants')) : tenants.Free row := by
  unfold insert at h
  cases hinsert : tenants.insert? (newRow row) with
  | none =>
      rw [hinsert] at h
      cases h
  | some result => exact (Table.insert?_isSome_iff _ _).mp (by rw [hinsert]; rfl)

theorem mem_setStatus {tenants tenants' : Tenants} {now : Nat} {siteKey status : String}
    (h : tenants.setStatus now siteKey status = .ok tenants') (r : TenantRow) :
    r ∈ tenants'.rows <->
      (r ∈ tenants.rows ∧ r.siteKey ≠ siteKey) ∨
        exists r0, r0 ∈ tenants.rows ∧ r0.siteKey = siteKey ∧
          { r0 with status := sqlValue now status } = r := by
  unfold setStatus at h
  cases hupdate : tenants.update? (fun row => decide (row.siteKey = siteKey))
      (fun row => { row with status := sqlValue now status }) with
  | none =>
      rw [hupdate] at h
      cases h
  | some result =>
      rw [hupdate] at h
      cases h
      simpa using Table.mem_update? hupdate r

end Tenants

/-- A committed change of the control database. -/
inductive TenantWrite where
  | insert (row : TenantRow)
  | setStatus (now : Nat) (siteKey status : String)

def TenantWrite.apply (tenants : Tenants) : TenantWrite -> Tenants
  | .insert row =>
      match tenants.insert row with
      | .ok (_, tenants') => tenants'
      | .error _ => tenants
  | .setStatus now siteKey status =>
      match tenants.setStatus now siteKey status with
      | .ok tenants' => tenants'
      | .error _ => tenants

/-- Two rows of one tenant differ in the status at most. -/
def TenantRow.SameTenant (r r' : TenantRow) : Prop :=
  r' = { r with status := r'.status }

theorem Tenants.lookupBySiteKey_some {siteKey : String}
    (h : tenants.lookupBySiteKey siteKey = some row) :
    row ∈ tenants.rows ∧ row.siteKey = siteKey := by
  have hrow := Table.find?_some h
  simpa using hrow

theorem Tenants.lookupBySiteKey_of_mem
    (hrow : row ∈ tenants.rows) : tenants.lookupBySiteKey row.siteKey = some row := by
  cases hfind : tenants.lookupBySiteKey row.siteKey with
  | none =>
      have hnone := Table.find?_none hfind hrow
      simp at hnone
  | some row' =>
      rcases Tenants.lookupBySiteKey_some hfind with ⟨hrow', hkey⟩
      rw [Table.eq_of_clash TenantRow.Clash.symm hrow' hrow (Or.inr (Or.inl hkey))]

theorem Tenants.eq_of_id {r r' : TenantRow}
    (hr : r ∈ tenants.rows) (hr' : r' ∈ tenants.rows) (hid : r.id = r'.id) : r = r' :=
  Table.eq_of_clash TenantRow.Clash.symm hr hr' (Or.inl hid)

theorem TenantWrite.apply_keeps (w : TenantWrite) (hrow : row ∈ tenants.rows) :
    exists row', row' ∈ (w.apply tenants).rows ∧ row.SameTenant row' := by
  cases w with
  | insert new =>
      simp only [TenantWrite.apply]
      cases hinsert : tenants.insert new with
      | error err => exact ⟨row, hrow, rfl⟩
      | ok result =>
          refine ⟨row, ?_, rfl⟩
          simp [(Tenants.insert_ok hinsert).2, hrow]
  | setStatus now siteKey status =>
      simp only [TenantWrite.apply]
      cases hset : tenants.setStatus now siteKey status with
      | error err => exact ⟨row, hrow, rfl⟩
      | ok tenants' =>
          by_cases hkey : row.siteKey = siteKey
          · exact ⟨{ row with status := Tenants.sqlValue now status },
              (Tenants.mem_setStatus hset _).mpr (Or.inr ⟨row, hrow, hkey, rfl⟩), rfl⟩
          · exact ⟨row, (Tenants.mem_setStatus hset _).mpr (Or.inl ⟨hrow, hkey⟩), rfl⟩

end Tenancy
end ServerComponents
