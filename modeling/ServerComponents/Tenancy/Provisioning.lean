import ServerComponents.Control.Work
import ServerComponents.Tenancy.Tenants

/-!
# Provisioning a tenant

A tenant's database is created, filled and recorded in three transactions of their own.
What each of them throws is given with the call, and so is the name that Postgres reads
in the text of a `CREATE DATABASE` or `DROP DATABASE`.
-/

namespace ServerComponents
namespace Tenancy

open Control Relational

structure TenantSpec where
  siteKey : String
  databaseName : String
  displayName : String
  maxConnections : Int
  deriving Repr, DecidableEq

structure ProvisionTenantResult where
  tenantId : Nat
  created : Bool
  deriving Repr, DecidableEq

inductive DatabaseOp where
  | dropped (name : String)
  | created (name : String)
  | altered (name : String)
  | populated (name : String)
  deriving Repr, DecidableEq

/-- The tenants of the control database, and the databases beside it. -/
structure Server where
  tenants : Tenants
  databases : List String
  deriving DecidableEq

/-- What each step throws, if it throws anything of its own, and whether the environment
allows destructive operations. -/
structure Circumstances where
  destructiveAllowed : Bool
  lookup : Option Exn
  count : Option Exn
  drop : Option Exn
  create : Option Exn
  connect : Option Exn
  populate : Option Exn
  record : Option Exn

def Circumstances.calm : Circumstances where
  destructiveAllowed := true
  lookup := none
  count := none
  drop := none
  create := none
  connect := none
  populate := none
  record := none

/-- The state holds what the call has done to databases. -/
abbrev Provisioning (a : Type) := Work (Server × List DatabaseOp) Exn a

namespace Provisioning

def look {a : Type} (f : Server -> a) : Provisioning a := fun s => (.ok (f s.1), s)

@[simp] theorem look_bind {a b : Type} (f : Server -> a) (g : a -> Provisioning b)
    (s : Server × List DatabaseOp) : (look f).bind g s = g (f s.1) s := rfl

def note (op : DatabaseOp) : Provisioning Unit := Work.modify (fun s => (s.1, s.2 ++ [op]))

def throwing : Option Exn -> Provisioning Unit
  | none => Work.done ()
  | some e => Work.raise e

end Provisioning

open Provisioning

def duplicateDatabase (name : String) : Exn :=
  .runtimeError ("ERROR:  database \"" ++ name ++ "\" already exists")

def missingDatabase (name : String) : Exn :=
  .runtimeError ("FATAL:  database \"" ++ name ++ "\" does not exist")

def Server.without (server : Server) (name : String) : Server :=
  { server with databases := server.databases.filter (fun other => decide (other ≠ name)) }

def Server.adding (server : Server) (name : String) : Server :=
  { server with databases := name :: server.databases }

def dropDatabase (name : String) : Provisioning Unit := fun s =>
  if name ∈ s.1.databases then
    (.ok (), (s.1.without name, s.2 ++ [.dropped name]))
  else
    (.ok (), s)

def createDatabase (name : String) : Provisioning Unit := fun s =>
  if name ∈ s.1.databases then
    (.error (duplicateDatabase name), s)
  else
    (.ok (), (s.1.adding name, s.2 ++ [.created name]))

/-- A connection asks for the database by its exact name. -/
def connectTo (name : String) : Provisioning Unit := fun s =>
  if name ∈ s.1.databases then (.ok (), s) else (.error (missingDatabase name), s)

section Call

variable (named : String -> Option String) (c : Circumstances)

def ensureDestructiveAllowed : Provisioning Unit :=
  if c.destructiveAllowed then Work.done ()
  else Work.raise (.runtimeError ("Destructive database operation refused. The " ++
    "HONUWARE_ALLOW_DESTRUCTIVE environment variable must be exactly " ++
    "\"1\" to authorize dropping and recreating the database. This is a " ++
    "safety guard that protects production deploys from accidental " ++
    "data loss. In dev, set the variable in your .vs/launch.vs.json " ++
    "(see SERVER.md) or in the shell that invokes this binary."))

/-- A statement with the name of a database written into its text. -/
def onNamed (databaseName : String) (statement : String -> Provisioning Unit) :
    Provisioning Unit :=
  match named databaseName with
  | none => Work.raise (.sql .syntaxError)
  | some name => statement name

def clearDatabase (databaseName : String) : Provisioning Unit := do
  throwing c.drop
  onNamed named databaseName dropDatabase

def makeDatabase (databaseName : String) : Provisioning Unit := do
  throwing c.create
  onNamed named databaseName createDatabase

def removeAndCreateDatabase (databaseName : String) : Provisioning Unit := do
  clearDatabase named c databaseName
  makeDatabase named c databaseName

/-- The first step: a known site key is an error unless forced. -/
def rejectExisting (spec : TenantSpec) (force : Bool) : Provisioning Unit := do
  throwing c.lookup
  let existing ← look (fun server => server.tenants.lookupBySiteKey spec.siteKey)
  if existing.isSome && !force then
    Work.raise (.runtimeError ("ProvisionTenant: site_key '" ++ spec.siteKey ++
      "' already exists (pass --force to recreate)"))
  else
    Work.done ()

/-- The second step, outside of any transaction. -/
def makeTenantDatabase (spec : TenantSpec) (force : Bool) : Provisioning Unit := do
  throwing c.count
  let present ← look (fun server => decide (spec.databaseName ∈ server.databases))
  if present = false then
    makeDatabase named c spec.databaseName
  else if force then do
    ensureDestructiveAllowed c
    removeAndCreateDatabase named c spec.databaseName
  else
    Work.raise (.runtimeError ("ProvisionTenant: database '" ++ spec.databaseName ++
      "' already exists"))

/-- The third step: the schema and the seed data of the application. -/
def createPopulate (databaseName : String) : Provisioning Unit := do
  throwing c.connect
  connectTo databaseName
  note (.altered databaseName)
  throwing c.populate
  note (.populated databaseName)

def tenantRow (spec : TenantSpec) : TenantRow where
  id := 0
  siteKey := spec.siteKey
  databaseName := spec.databaseName
  displayName := spec.displayName
  status := kTenantStatusActive
  maxConnections := if spec.maxConnections > 0 then spec.maxConnections else 1

def insertTenant (spec : TenantSpec) : Provisioning ProvisionTenantResult := fun s =>
  match s.1.tenants.insert (tenantRow spec) with
  | .error e => (.error e, s)
  | .ok (tenantId, tenants') => (.ok ⟨tenantId, true⟩, ({ s.1 with tenants := tenants' }, s.2))

/-- The last step: a row that is there is kept as it is. -/
def recordTenant (spec : TenantSpec) : Provisioning ProvisionTenantResult := do
  throwing c.record
  let existing ← look (fun server => server.tenants.lookupBySiteKey spec.siteKey)
  match existing with
  | some row => Work.done ⟨row.id, false⟩
  | none => insertTenant spec

def provisionTenant (spec : TenantSpec) (force : Bool) :
    Provisioning ProvisionTenantResult := do
  rejectExisting c spec force
  makeTenantDatabase named c spec force
  createPopulate c spec.databaseName
  recordTenant c spec

end Call

/-!
# What each step does
-/

section Steps

variable {named : String -> Option String} {c : Circumstances} {spec : TenantSpec}
  {force : Bool} {server : Server} {ops : List DatabaseOp}

theorem throwing_error {s : Server × List DatabaseOp} {fault : Option Exn}
    (h : fault ≠ none) : exists e, throwing fault s = (.error e, s) := by
  cases fault with
  | none => exact absurd rfl h
  | some e => exact ⟨e, rfl⟩

theorem throwing_bind_none {a : Type} {fault : Option Exn} (h : fault = none)
    (f : Unit -> Provisioning a) : (throwing fault).bind f = f () := by
  rw [h]
  rfl

theorem throwing_bind_error {a : Type} {s : Server × List DatabaseOp} {fault : Option Exn}
    (h : fault ≠ none) (f : Unit -> Provisioning a) :
    exists e, (throwing fault).bind f s = (.error e, s) := by
  rcases throwing_error h with ⟨e, he⟩
  exact ⟨e, Work.bind_error he⟩

def Admits (c : Circumstances) (spec : TenantSpec) (force : Bool) (server : Server) : Prop :=
  c.lookup = none ∧ (server.tenants.lookupBySiteKey spec.siteKey = none ∨ force = true)

theorem rejectExisting_ok (h : Admits c spec force server) :
    rejectExisting c spec force (server, ops) = (.ok (), (server, ops)) := by
  rcases h with ⟨hlookup, hrow⟩
  unfold rejectExisting
  rw [Work.bind_eq, throwing_bind_none hlookup]
  rcases hrow with hnone | hforce
  · simp [hnone]
  · simp [hforce]

theorem rejectExisting_error (ops : List DatabaseOp) (h : Not (Admits c spec force server)) :
    exists e, rejectExisting c spec force (server, ops) = (.error e, (server, ops)) := by
  unfold rejectExisting
  rw [Work.bind_eq]
  by_cases hlookup : c.lookup = none
  · rw [throwing_bind_none hlookup]
    cases hrow : server.tenants.lookupBySiteKey spec.siteKey with
    | none => exact absurd ⟨hlookup, Or.inl hrow⟩ h
    | some row =>
        cases force with
        | true => exact absurd ⟨hlookup, Or.inr rfl⟩ h
        | false => simp [hrow]
  · exact throwing_bind_error hlookup _

structure Makes (named : String -> Option String) (c : Circumstances) (spec : TenantSpec)
    (force : Bool) (server : Server) (name : String) : Prop where
  counted : c.count = none
  created : c.create = none
  isNamed : named spec.databaseName = some name
  cleared : spec.databaseName ∈ server.databases ->
    force = true ∧ c.destructiveAllowed = true ∧ c.drop = none
  free : spec.databaseName ∉ server.databases -> name ∉ server.databases

structure Made (name : String) (server server' : Server) (ops : List DatabaseOp) : Prop where
  tenants : server'.tenants = server.tenants
  databases : forall other, other ∈ server'.databases <->
    other = name ∨ other ∈ server.databases
  ops : exists before, ops = before ++ [.created name] ∧
    forall op, op ∈ before -> op = .dropped name

variable {name : String}

theorem makeDatabase_ok (hcreate : c.create = none)
    (hnamed : named spec.databaseName = some name) (hfree : name ∉ server.databases) :
    makeDatabase named c spec.databaseName (server, ops) =
      (.ok (), (server.adding name, ops ++ [.created name])) := by
  unfold makeDatabase onNamed
  rw [Work.bind_eq, throwing_bind_none hcreate, hnamed]
  simp [createDatabase, hfree]

theorem makeDatabase_error
    (h : Not (c.create = none ∧ exists name, named spec.databaseName = some name ∧
      name ∉ server.databases)) :
    exists e, makeDatabase named c spec.databaseName (server, ops) =
      (.error e, (server, ops)) := by
  unfold makeDatabase onNamed
  rw [Work.bind_eq]
  by_cases hcreate : c.create = none
  · rw [throwing_bind_none hcreate]
    cases hnamed : named spec.databaseName with
    | none => exact ⟨_, rfl⟩
    | some name =>
        have hthere : name ∈ server.databases := by
          by_contra hfree
          exact h ⟨hcreate, name, hnamed, hfree⟩
        simp [createDatabase, hthere]
  · exact throwing_bind_error hcreate _

theorem Server.mem_adding (server : Server) (name other : String) :
    other ∈ (server.adding name).databases <-> other = name ∨ other ∈ server.databases :=
  List.mem_cons

theorem Server.mem_without (server : Server) (name other : String) :
    other ∈ (server.without name).databases <-> other ∈ server.databases ∧ other ≠ name := by
  simp [Server.without]

theorem Server.without_of_notMem {server : Server}
    (h : name ∉ server.databases) : server.without name = server := by
  have hfilter : server.databases.filter (fun other => decide (other ≠ name)) =
      server.databases := by
    rw [List.filter_eq_self]
    intro other hother
    have hne : other ≠ name := fun heq => h (heq ▸ hother)
    simp [hne]
  unfold Server.without
  rw [hfilter]

theorem clearDatabase_ok (server : Server) (ops : List DatabaseOp)
    (hdrop : c.drop = none) (hnamed : named spec.databaseName = some name) :
    exists before, clearDatabase named c spec.databaseName (server, ops) =
      (.ok (), (server.without name, ops ++ before)) ∧
        forall op, op ∈ before -> op = .dropped name := by
  unfold clearDatabase onNamed
  rw [Work.bind_eq, throwing_bind_none hdrop, hnamed]
  by_cases hthere : name ∈ server.databases
  · exact ⟨[.dropped name], by simp [dropDatabase, hthere], by simp⟩
  · exact ⟨[], by simp [dropDatabase, hthere, Server.without_of_notMem hthere], by simp⟩

theorem clearDatabase_error
    (h : Not (c.drop = none ∧ exists name, named spec.databaseName = some name)) :
    exists e, clearDatabase named c spec.databaseName (server, ops) =
      (.error e, (server, ops)) := by
  unfold clearDatabase onNamed
  rw [Work.bind_eq]
  by_cases hdrop : c.drop = none
  · rw [throwing_bind_none hdrop]
    cases hnamed : named spec.databaseName with
    | none => exact ⟨_, rfl⟩
    | some name => exact absurd ⟨hdrop, name, hnamed⟩ h
  · exact throwing_bind_error hdrop _

theorem makeTenantDatabase_absent (hcount : c.count = none)
    (habsent : spec.databaseName ∉ server.databases) :
    makeTenantDatabase named c spec force (server, ops) =
      makeDatabase named c spec.databaseName (server, ops) := by
  unfold makeTenantDatabase
  rw [Work.bind_eq, throwing_bind_none hcount]
  simp [habsent]

theorem makeTenantDatabase_present (hcount : c.count = none)
    (hpresent : spec.databaseName ∈ server.databases)
    (hforce : force = true ∧ c.destructiveAllowed = true) :
    makeTenantDatabase named c spec force (server, ops) =
      removeAndCreateDatabase named c spec.databaseName (server, ops) := by
  unfold makeTenantDatabase
  rw [Work.bind_eq, throwing_bind_none hcount]
  simp [hpresent, hforce.1, ensureDestructiveAllowed, hforce.2]

theorem makeTenantDatabase_ok (ops : List DatabaseOp) (h : Makes named c spec force server name) :
    exists server' before, makeTenantDatabase named c spec force (server, ops) =
      (.ok (), (server', ops ++ before)) ∧ Made name server server' before := by
  by_cases hpresent : spec.databaseName ∈ server.databases
  · rcases h.cleared hpresent with ⟨hforce, hallowed, hdrop⟩
    rcases clearDatabase_ok server ops hdrop h.isNamed with
      ⟨before, hclear, hbefore⟩
    have hfree : name ∉ (server.without name).databases := by
      rw [Server.mem_without]
      exact fun hmem => hmem.2 rfl
    refine ⟨(server.without name).adding name, before ++ [.created name], ?_, ?_⟩
    · rw [makeTenantDatabase_present h.counted hpresent ⟨hforce, hallowed⟩]
      unfold removeAndCreateDatabase
      rw [Work.bind_eq, Work.bind_ok hclear, makeDatabase_ok h.created h.isNamed hfree,
        List.append_assoc]
    · constructor
      · rfl
      · intro other
        rw [Server.mem_adding, Server.mem_without]
        by_cases hother : other = name
        · simp [hother]
        · simp [hother]
      · exact ⟨before, rfl, hbefore⟩
  · refine ⟨server.adding name, [.created name], ?_, ?_⟩
    · rw [makeTenantDatabase_absent h.counted hpresent,
        makeDatabase_ok h.created h.isNamed (h.free hpresent)]
    · constructor
      · rfl
      · intro other
        exact server.mem_adding name other
      · exact ⟨[], rfl, by simp⟩

structure Unmade (named : String -> Option String) (spec : TenantSpec)
    (server server' : Server) : Prop where
  tenants : server'.tenants = server.tenants
  absent : spec.databaseName ∉ server.databases -> server' = server
  present : spec.databaseName ∈ server.databases ->
    spec.databaseName ∈ server'.databases ∨ named spec.databaseName = some spec.databaseName

theorem Unmade.refl (named : String -> Option String) (spec : TenantSpec)
    (server : Server) : Unmade named spec server server where
  tenants := rfl
  absent := fun _ => rfl
  present := fun h => Or.inl h

theorem Unmade.without (hpresent : spec.databaseName ∈ server.databases)
    (hnamed : named spec.databaseName = some name) :
    Unmade named spec server (server.without name) := by
  constructor
  · rfl
  · intro habsent
    exact absurd hpresent habsent
  · intro _
    by_cases hname : spec.databaseName = name
    · exact Or.inr (by rw [hnamed, hname])
    · exact Or.inl ((server.mem_without name _).mpr ⟨hpresent, hname⟩)

theorem removeAndCreateDatabase_error (hpresent : spec.databaseName ∈ server.databases)
    (h : Not (c.drop = none ∧ c.create = none ∧
      exists name, named spec.databaseName = some name)) :
    exists e server' ops', removeAndCreateDatabase named c spec.databaseName (server, ops) =
      (.error e, (server', ops')) ∧ Unmade named spec server server' := by
  unfold removeAndCreateDatabase
  rw [Work.bind_eq]
  by_cases hdrop : c.drop = none ∧ exists name, named spec.databaseName = some name
  · rcases hdrop with ⟨hdrop, name, hnamed⟩
    rcases clearDatabase_ok server ops hdrop hnamed with ⟨before, hclear, _⟩
    have hcreate : c.create ≠ none := fun hcreate => h ⟨hdrop, hcreate, name, hnamed⟩
    rw [Work.bind_ok hclear]
    unfold makeDatabase
    rw [Work.bind_eq]
    rcases throwing_bind_error hcreate _ with ⟨e, he⟩
    exact ⟨e, _, _, he, Unmade.without hpresent hnamed⟩
  · rcases clearDatabase_error hdrop with ⟨e, he⟩
    exact ⟨e, _, _, Work.bind_error he, Unmade.refl named spec server⟩

theorem makeTenantDatabase_refused (hcount : c.count = none)
    (hpresent : spec.databaseName ∈ server.databases)
    (h : Not (force = true ∧ c.destructiveAllowed = true)) :
    exists e, makeTenantDatabase named c spec force (server, ops) =
      (.error e, (server, ops)) := by
  unfold makeTenantDatabase
  rw [Work.bind_eq, throwing_bind_none hcount]
  cases force with
  | false => simp [hpresent]
  | true =>
      cases hallowed : c.destructiveAllowed with
      | true => exact absurd ⟨rfl, hallowed⟩ h
      | false =>
          simp [hpresent, ensureDestructiveAllowed, hallowed]

theorem makeTenantDatabase_error (ops : List DatabaseOp)
    (h : Not (exists name, Makes named c spec force server name)) :
    exists e server' ops', makeTenantDatabase named c spec force (server, ops) =
      (.error e, (server', ops')) ∧ Unmade named spec server server' := by
  have hrefl := Unmade.refl named spec server
  by_cases hcount : c.count = none
  · by_cases hpresent : spec.databaseName ∈ server.databases
    · by_cases hforce : force = true ∧ c.destructiveAllowed = true
      · rw [makeTenantDatabase_present hcount hpresent hforce]
        refine removeAndCreateDatabase_error hpresent ?_
        intro hall
        rcases hall with ⟨hdrop, hcreate, name, hnamed⟩
        exact h ⟨name, hcount, hcreate, hnamed, fun _ => ⟨hforce.1, hforce.2, hdrop⟩,
          fun habsent => absurd hpresent habsent⟩
      · rcases makeTenantDatabase_refused hcount hpresent hforce with ⟨e, he⟩
        exact ⟨e, _, _, he, hrefl⟩
    · rw [makeTenantDatabase_absent hcount hpresent]
      have hcreate : Not (c.create = none ∧ exists name,
          named spec.databaseName = some name ∧ name ∉ server.databases) := by
        intro hall
        rcases hall with ⟨hcreate, name, hnamed, hfree⟩
        exact h ⟨name, hcount, hcreate, hnamed, fun hmem => absurd hmem hpresent,
          fun _ => hfree⟩
      rcases makeDatabase_error hcreate with ⟨e, he⟩
      exact ⟨e, _, _, he, hrefl⟩
  · unfold makeTenantDatabase
    rw [Work.bind_eq]
    rcases throwing_bind_error hcount _ with ⟨e, he⟩
    exact ⟨e, _, _, he, hrefl⟩

theorem createPopulate_ok (hconnect : c.connect = none)
    (hpresent : spec.databaseName ∈ server.databases) (hpopulate : c.populate = none) :
    createPopulate c spec.databaseName (server, ops) =
      (.ok (), (server, ops ++ [.altered spec.databaseName, .populated spec.databaseName])) := by
  have hopen : connectTo spec.databaseName (server, ops) = (.ok (), (server, ops)) := by
    simp [connectTo, hpresent]
  unfold createPopulate
  rw [Work.bind_eq, throwing_bind_none hconnect, Work.bind_eq, Work.bind_ok hopen]
  simp [Work.bind, note, Work.modify, hpopulate, throwing]

theorem createPopulate_error
    (h : Not (c.connect = none ∧ spec.databaseName ∈ server.databases ∧ c.populate = none)) :
    exists e ops', createPopulate c spec.databaseName (server, ops) =
      (.error e, (server, ops')) := by
  unfold createPopulate
  rw [Work.bind_eq]
  by_cases hconnect : c.connect = none
  · rw [throwing_bind_none hconnect, Work.bind_eq]
    by_cases hpresent : spec.databaseName ∈ server.databases
    · have hopen : connectTo spec.databaseName (server, ops) = (.ok (), (server, ops)) := by
        simp [connectTo, hpresent]
      have hnote : note (.altered spec.databaseName) (server, ops) =
          (.ok (), (server, ops ++ [.altered spec.databaseName])) := rfl
      have hpopulate : c.populate ≠ none := fun hnone => h ⟨hconnect, hpresent, hnone⟩
      rw [Work.bind_ok hopen, Work.bind_eq, Work.bind_ok hnote, Work.bind_eq]
      rcases throwing_bind_error hpopulate _ with ⟨e, he⟩
      exact ⟨e, _, he⟩
    · have hmissing : connectTo spec.databaseName (server, ops) =
          (.error (missingDatabase spec.databaseName), (server, ops)) := by
        simp [connectTo, hpresent]
      exact ⟨_, _, Work.bind_error hmissing⟩
  · rcases throwing_bind_error hconnect _ with ⟨e, he⟩
    exact ⟨e, _, he⟩

structure Recorded (spec : TenantSpec) (tenants tenants' : Tenants) : Prop where
  kept : forall row, tenants.lookupBySiteKey spec.siteKey = some row -> tenants' = tenants
  new : tenants.lookupBySiteKey spec.siteKey = none -> exists id,
    tenants'.rows = tenants.rows ++ [Tenants.newRow (tenantRow spec) id] ∧
      tenants.Free (tenantRow spec)

theorem recordTenant_ok (ops : List DatabaseOp) (hrecord : c.record = none)
    (hfree : server.tenants.lookupBySiteKey spec.siteKey = none ->
      server.tenants.Free (tenantRow spec)) :
    exists result server', recordTenant c spec (server, ops) =
      (.ok result, (server', ops)) ∧ Recorded spec server.tenants server'.tenants := by
  unfold recordTenant
  rw [Work.bind_eq, throwing_bind_none hrecord, Work.bind_eq, look_bind]
  cases hrow : server.tenants.lookupBySiteKey spec.siteKey with
  | some row =>
      refine ⟨⟨row.id, false⟩, server, by simp, fun _ _ => rfl, ?_⟩
      intro hnone
      rw [hrow] at hnone
      cases hnone
  | none =>
      rcases Tenants.insert_of_free (hfree hrow) with ⟨id, tenants', hinsert⟩
      refine ⟨⟨id, true⟩, { server with tenants := tenants' }, ?_, ?_, ?_⟩
      · simp [insertTenant, hinsert]
      · intro row hsome
        rw [hrow] at hsome
        cases hsome
      · intro _
        exact ⟨id, (Tenants.insert_ok hinsert).2, hfree hrow⟩

theorem recordTenant_error
    (h : Not (c.record = none ∧ (server.tenants.lookupBySiteKey spec.siteKey = none ->
      server.tenants.Free (tenantRow spec)))) :
    exists e, recordTenant c spec (server, ops) = (.error e, (server, ops)) := by
  unfold recordTenant
  rw [Work.bind_eq]
  by_cases hrecord : c.record = none
  · rw [throwing_bind_none hrecord, Work.bind_eq, look_bind]
    cases hrow : server.tenants.lookupBySiteKey spec.siteKey with
    | some row =>
        refine absurd ⟨hrecord, ?_⟩ h
        intro hnone
        rw [hrow] at hnone
        cases hnone
    | none =>
        cases hinsert : server.tenants.insert (tenantRow spec) with
        | ok inserted => exact absurd ⟨hrecord, fun _ => Tenants.free_of_insert hinsert⟩ h
        | error e => exact ⟨e, by simp [insertTenant, hinsert]⟩
  · exact throwing_bind_error hrecord _

end Steps

/-!
# The whole call
-/

structure Passes (named : String -> Option String) (c : Circumstances) (spec : TenantSpec)
    (force : Bool) (server : Server) : Prop where
  admits : Admits c spec force server
  makes : exists name, Makes named c spec force server name
  connects : c.connect = none ∧
    (spec.databaseName ∈ server.databases ∨ named spec.databaseName = some spec.databaseName)
  populates : c.populate = none
  records : c.record = none
  free : server.tenants.lookupBySiteKey spec.siteKey = none ->
    server.tenants.Free (tenantRow spec)

structure Done (named : String -> Option String) (spec : TenantSpec)
    (server server' : Server) (ops : List DatabaseOp) : Prop where
  tenants : Recorded spec server.tenants server'.tenants
  ops : exists name before, named spec.databaseName = some name ∧
    ops = before ++ [.created name, .altered spec.databaseName, .populated spec.databaseName] ∧
    forall op, op ∈ before -> op = .dropped name

structure Left (named : String -> Option String) (c : Circumstances) (spec : TenantSpec)
    (force : Bool) (server server' : Server) : Prop where
  tenants : server'.tenants = server.tenants
  present : spec.databaseName ∈ server.databases ->
    spec.databaseName ∈ server'.databases ∨ named spec.databaseName = some spec.databaseName
  absent : spec.databaseName ∉ server.databases ->
    named spec.databaseName = some spec.databaseName ->
      (spec.databaseName ∈ server'.databases <->
        Admits c spec force server ∧ c.count = none ∧ c.create = none)

section Call

variable {named : String -> Option String} {c : Circumstances} {spec : TenantSpec}
  {force : Bool} {server : Server}

theorem provisionTenant_ok (h : Passes named c spec force server) :
    exists result server' ops, provisionTenant named c spec force (server, []) =
      (.ok result, (server', ops)) ∧ Done named spec server server' ops := by
  rcases h.makes with ⟨name, hmakes⟩
  rcases makeTenantDatabase_ok [] hmakes with ⟨made, mops, hmake, hmade⟩
  have hpresent : spec.databaseName ∈ made.databases := by
    rw [hmade.databases]
    rcases h.connects.2 with hthere | hnamed
    · exact Or.inr hthere
    · rw [hmakes.isNamed] at hnamed
      cases hnamed
      exact Or.inl rfl
  have hfree : made.tenants.lookupBySiteKey spec.siteKey = none ->
      made.tenants.Free (tenantRow spec) := by
    rw [hmade.tenants]
    exact h.free
  have hpopulated : createPopulate c spec.databaseName (made, mops) = (.ok (), (made,
      mops ++ [.altered spec.databaseName, .populated spec.databaseName])) :=
    createPopulate_ok h.connects.1 hpresent h.populates
  rcases recordTenant_ok
    (mops ++ [.altered spec.databaseName, .populated spec.databaseName])
    h.records hfree with ⟨result, server', hrecord, hrecorded⟩
  refine ⟨result, server',
    mops ++ [.altered spec.databaseName, .populated spec.databaseName], ?_, ?_, ?_⟩
  · unfold provisionTenant
    rw [Work.bind_eq, Work.bind_ok (rejectExisting_ok h.admits), Work.bind_eq,
      Work.bind_ok hmake, Work.bind_eq, List.nil_append, Work.bind_ok hpopulated]
    exact hrecord
  · rw [hmade.tenants] at hrecorded
    exact hrecorded
  · rcases hmade.ops with ⟨before, hops, hbefore⟩
    refine ⟨name, before, hmakes.isNamed, ?_, hbefore⟩
    rw [hops, List.append_assoc]
    rfl

theorem makes_of_absent (habsent : spec.databaseName ∉ server.databases)
    (hnamed : named spec.databaseName = some spec.databaseName)
    (hcount : c.count = none) (hcreate : c.create = none) :
    Makes named c spec force server spec.databaseName where
  counted := hcount
  created := hcreate
  isNamed := hnamed
  cleared := fun hmem => absurd hmem habsent
  free := id

theorem Left.of_unmade {server' : Server} (h : Unmade named spec server server')
    (hmakes : Not (Admits c spec force server ∧
      exists name, Makes named c spec force server name)) :
    Left named c spec force server server' where
  tenants := h.tenants
  present := h.present
  absent := by
    intro habsent hnamed
    rw [h.absent habsent]
    constructor
    · intro hmem
      exact absurd hmem habsent
    · intro hall
      exact absurd ⟨hall.1, _, makes_of_absent habsent hnamed hall.2.1 hall.2.2⟩ hmakes

theorem Left.of_made {server' : Server} {name : String} {ops : List DatabaseOp}
    (hadmits : Admits c spec force server) (hmakes : Makes named c spec force server name)
    (h : Made name server server' ops) : Left named c spec force server server' where
  tenants := h.tenants
  present := fun hthere => Or.inl ((h.databases _).mpr (Or.inr hthere))
  absent := by
    intro _ hnamed
    rw [hmakes.isNamed] at hnamed
    cases hnamed
    constructor
    · intro _
      exact ⟨hadmits, hmakes.counted, hmakes.created⟩
    · intro _
      exact (h.databases _).mpr (Or.inl rfl)

theorem provisionTenant_error (h : Not (Passes named c spec force server)) :
    exists e server' ops, provisionTenant named c spec force (server, []) =
      (.error e, (server', ops)) ∧ Left named c spec force server server' := by
  unfold provisionTenant
  rw [Work.bind_eq]
  by_cases hadmits : Admits c spec force server
  · rw [Work.bind_ok (rejectExisting_ok hadmits), Work.bind_eq]
    by_cases hmakes : exists name, Makes named c spec force server name
    · rcases hmakes with ⟨name, hmakes⟩
      rcases makeTenantDatabase_ok [] hmakes with ⟨made, mops, hmake, hmade⟩
      have hleft : Left named c spec force server made := Left.of_made hadmits hmakes hmade
      rw [Work.bind_ok hmake, Work.bind_eq]
      by_cases hpopulates : c.connect = none ∧ spec.databaseName ∈ made.databases ∧
          c.populate = none
      · rw [Work.bind_ok (createPopulate_ok hpopulates.1 hpopulates.2.1 hpopulates.2.2)]
        have hrecords : Not (c.record = none ∧
            (made.tenants.lookupBySiteKey spec.siteKey = none ->
              made.tenants.Free (tenantRow spec))) := by
          intro hall
          rw [hmade.tenants] at hall
          have hconnects : spec.databaseName ∈ server.databases ∨
              named spec.databaseName = some spec.databaseName := by
            rcases (hmade.databases _).mp hpopulates.2.1 with hname | hthere
            · exact Or.inr (hname ▸ hmakes.isNamed)
            · exact Or.inl hthere
          exact h ⟨hadmits, ⟨name, hmakes⟩, ⟨hpopulates.1, hconnects⟩, hpopulates.2.2,
            hall.1, hall.2⟩
        rcases recordTenant_error hrecords with ⟨e, he⟩
        exact ⟨e, _, _, he, hleft⟩
      · rcases createPopulate_error hpopulates with ⟨e, ops', he⟩
        exact ⟨e, _, _, Work.bind_error he, hleft⟩
    · rcases makeTenantDatabase_error [] hmakes with ⟨e, server', ops', he, hunmade⟩
      exact ⟨e, _, _, Work.bind_error he, Left.of_unmade hunmade (fun hall => hmakes hall.2)⟩
  · rcases rejectExisting_error [] hadmits with ⟨e, he⟩
    exact ⟨e, _, _, Work.bind_error he,
      Left.of_unmade (Unmade.refl named spec server) (fun hall => hadmits hall.1)⟩

end Call

/-!
# What the call promises
-/

/-- The control row names the database, which is new and filled, and the database of
no other tenant was dropped or altered. -/
structure Achieved (spec : TenantSpec) (tenants : Tenants) (ops : List DatabaseOp) : Prop where
  row : exists row, tenants.lookupBySiteKey spec.siteKey = some row ∧
    row.databaseName = spec.databaseName
  fresh : exists before after, ops = before ++ .created spec.databaseName :: after ∧
    .populated spec.databaseName ∈ after ∧ .dropped spec.databaseName ∉ after
  others : forall row, row ∈ tenants.rows -> row.siteKey ≠ spec.siteKey ->
    .dropped row.databaseName ∉ ops ∧ .altered row.databaseName ∉ ops

def CanSucceed (named : String -> Option String) (spec : TenantSpec) (force : Bool)
    (server : Server) : Prop :=
  exists c result s', provisionTenant named c spec force (server, []) = (.ok result, s')

/-- A call that returns has done its work.  After one that throws, a rerun that could have
succeeded before it still can: without force, unless there was a row already. -/
structure Contract (named : String -> Option String) (c : Circumstances) (spec : TenantSpec)
    (force : Bool) (server : Server) : Prop where
  success : forall result server' ops,
    provisionTenant named c spec force (server, []) = (.ok result, (server', ops)) ->
      Achieved spec server'.tenants ops
  failure : forall e server' ops,
    provisionTenant named c spec force (server, []) = (.error e, (server', ops)) ->
      CanSucceed named spec (server.tenants.lookupBySiteKey spec.siteKey).isSome server ->
        CanSucceed named spec (server.tenants.lookupBySiteKey spec.siteKey).isSome server'

/-- The statements, the connection and the control row all mean one database. -/
structure OneDatabase (named : String -> Option String) (spec : TenantSpec)
    (tenants : Tenants) : Prop where
  statement : named spec.databaseName = some spec.databaseName
  row : forall row, tenants.lookupBySiteKey spec.siteKey = some row ->
    row.databaseName = spec.databaseName

/-- A new tenant's database is created, and a later step throws. -/
structure LeavesDatabase (named : String -> Option String) (c : Circumstances)
    (spec : TenantSpec) (server : Server) : Prop where
  unknown : server.tenants.lookupBySiteKey spec.siteKey = none
  free : server.tenants.Free (tenantRow spec)
  absent : spec.databaseName ∉ server.databases
  isNamed : named spec.databaseName = some spec.databaseName
  creates : c.lookup = none ∧ c.count = none ∧ c.create = none
  throws : Not (c.connect = none ∧ c.populate = none ∧ c.record = none)

section Promise

variable {named : String -> Option String} {c : Circumstances} {spec : TenantSpec}
  {force : Bool} {server : Server}

theorem canSucceed_iff : CanSucceed named spec force server <->
    exists c, Passes named c spec force server := by
  constructor
  · intro h
    rcases h with ⟨c, result, s', hrun⟩
    refine ⟨c, ?_⟩
    by_contra hpasses
    rcases provisionTenant_error hpasses with ⟨e, server', ops, herror, _⟩
    rw [hrun] at herror
    cases herror
  · intro h
    rcases h with ⟨c, hpasses⟩
    rcases provisionTenant_ok hpasses with ⟨result, server', ops, hrun, _⟩
    exact ⟨c, result, _, hrun⟩

theorem canSucceed_unforced : CanSucceed named spec false server <->
    server.tenants.lookupBySiteKey spec.siteKey = none ∧
      server.tenants.Free (tenantRow spec) ∧ spec.databaseName ∉ server.databases ∧
        named spec.databaseName = some spec.databaseName := by
  rw [canSucceed_iff]
  constructor
  · intro h
    rcases h with ⟨c, hpasses⟩
    rcases hpasses.makes with ⟨name, hmakes⟩
    have hunknown : server.tenants.lookupBySiteKey spec.siteKey = none := by
      rcases hpasses.admits.2 with hnone | hforce
      · exact hnone
      · cases hforce
    have habsent : spec.databaseName ∉ server.databases := by
      intro hmem
      cases (hmakes.cleared hmem).1
    exact ⟨hunknown, hpasses.free hunknown, habsent,
      hpasses.connects.2.resolve_left habsent⟩
  · intro h
    rcases h with ⟨hunknown, hfree, habsent, hnamed⟩
    exact ⟨.calm, ⟨rfl, Or.inl hunknown⟩, ⟨_, makes_of_absent habsent hnamed rfl rfl⟩,
      ⟨rfl, Or.inr hnamed⟩, rfl, rfl, fun _ => hfree⟩

theorem canSucceed_forced {row : TenantRow}
    (hrow : server.tenants.lookupBySiteKey spec.siteKey = some row) :
    CanSucceed named spec true server <->
      (spec.databaseName ∈ server.databases ∧ exists name, named spec.databaseName = some name) ∨
        named spec.databaseName = some spec.databaseName := by
  rw [canSucceed_iff]
  constructor
  · intro h
    rcases h with ⟨c, hpasses⟩
    rcases hpasses.makes with ⟨name, hmakes⟩
    rcases hpasses.connects.2 with hthere | hnamed
    · exact Or.inl ⟨hthere, name, hmakes.isNamed⟩
    · exact Or.inr hnamed
  · intro h
    have hfree : server.tenants.lookupBySiteKey spec.siteKey = none ->
        server.tenants.Free (tenantRow spec) := by
      intro hnone
      rw [hrow] at hnone
      cases hnone
    by_cases hthere : spec.databaseName ∈ server.databases
    · have hnamed : exists name, named spec.databaseName = some name := by
        rcases h with hboth | hsame
        · exact hboth.2
        · exact ⟨_, hsame⟩
      rcases hnamed with ⟨name, hnamed⟩
      exact ⟨.calm, ⟨rfl, Or.inr rfl⟩,
        ⟨name, rfl, rfl, hnamed, fun _ => ⟨rfl, rfl, rfl⟩, fun habsent => absurd hthere habsent⟩,
        ⟨rfl, Or.inl hthere⟩, rfl, rfl, hfree⟩
    · have hnamed : named spec.databaseName = some spec.databaseName := by
        rcases h with hboth | hsame
        · exact absurd hboth.1 hthere
        · exact hsame
      exact ⟨.calm, ⟨rfl, Or.inr rfl⟩, ⟨_, makes_of_absent hthere hnamed rfl rfl⟩,
        ⟨rfl, Or.inr hnamed⟩, rfl, rfl, hfree⟩

theorem Done.achieved_iff {server' : Server} {ops : List DatabaseOp}
    (h : Done named spec server server' ops) :
    Achieved spec server'.tenants ops <-> OneDatabase named spec server.tenants := by
  rcases h.ops with ⟨name, before, hnamed, hops, hbefore⟩
  constructor
  · intro hachieved
    constructor
    · rcases hachieved.fresh with ⟨earlier, later, hsplit, _, _⟩
      have hcreated : DatabaseOp.created spec.databaseName ∈ ops := by
        rw [hsplit]
        simp
      rw [hops, List.mem_append] at hcreated
      rcases hcreated with hmem | hmem
      · cases hbefore _ hmem
      · have hname : spec.databaseName = name := by simpa using hmem
        rw [hnamed, ← hname]
    · intro row hrow
      rcases hachieved.row with ⟨row', hrow', hname⟩
      rw [h.tenants.kept row hrow, hrow] at hrow'
      cases hrow'
      exact hname
  · intro hone
    have hname : name = spec.databaseName := by
      have hsome := hone.statement
      rw [hnamed] at hsome
      exact Option.some.inj hsome
    subst hname
    constructor
    · cases hrow : server.tenants.lookupBySiteKey spec.siteKey with
      | some row =>
          rw [h.tenants.kept row hrow]
          exact ⟨row, hrow, hone.row row hrow⟩
      | none =>
          rcases h.tenants.new hrow with ⟨id, hrows, _⟩
          have hmem : Tenants.newRow (tenantRow spec) id ∈ server'.tenants.rows := by
            simp [hrows]
          exact ⟨_, Tenants.lookupBySiteKey_of_mem hmem, rfl⟩
    · exact ⟨before, _, hops, by simp, by simp⟩
    · intro row hmem hkey
      have hother : row.databaseName ≠ spec.databaseName := by
        intro hsame
        cases hrow : server.tenants.lookupBySiteKey spec.siteKey with
        | some own =>
            rw [h.tenants.kept own hrow] at hmem
            rcases Tenants.lookupBySiteKey_some hrow with ⟨hown, hownKey⟩
            have hclash : row.Clash own :=
              Or.inr (Or.inr (hsame.trans (hone.row own hrow).symm))
            have heq : row = own := Table.eq_of_clash TenantRow.Clash.symm hmem hown hclash
            exact hkey (heq ▸ hownKey)
        | none =>
            rcases h.tenants.new hrow with ⟨id, hrows, hfree⟩
            rw [hrows, List.mem_append, List.mem_singleton] at hmem
            rcases hmem with hold | hnew
            · exact hfree row hold (Or.inr (Or.inr hsame))
            · exact hkey (by rw [hnew]; rfl)
      constructor
      · intro hdropped
        rw [hops, List.mem_append] at hdropped
        rcases hdropped with hin | hin
        · exact hother (by simpa using hbefore _ hin)
        · simp at hin
      · intro haltered
        rw [hops, List.mem_append] at haltered
        rcases haltered with hin | hin
        · cases hbefore _ hin
        · exact hother (by simpa using hin)

theorem Left.rerun_iff {server' : Server} (hpasses : Not (Passes named c spec force server))
    (h : Left named c spec force server server') :
    (CanSucceed named spec (server.tenants.lookupBySiteKey spec.siteKey).isSome server ->
      CanSucceed named spec (server.tenants.lookupBySiteKey spec.siteKey).isSome server') <->
        Not (LeavesDatabase named c spec server) := by
  cases hrow : server.tenants.lookupBySiteKey spec.siteKey with
  | some row =>
      have hrow' : server'.tenants.lookupBySiteKey spec.siteKey = some row := by
        rw [h.tenants, hrow]
      rw [Option.isSome_some, canSucceed_forced hrow, canSucceed_forced hrow']
      constructor
      · intro _ hleaves
        rw [hleaves.unknown] at hrow
        cases hrow
      · intro _ hcan
        rcases hcan with ⟨hthere, hnamed⟩ | hsame
        · rcases h.present hthere with hstill | hsame
          · exact Or.inl ⟨hstill, hnamed⟩
          · exact Or.inr hsame
        · exact Or.inr hsame
  | none =>
      rw [Option.isSome_none, canSucceed_unforced, canSucceed_unforced, h.tenants]
      constructor
      · intro hrerun hleaves
        have hcan := hrerun ⟨hrow, hleaves.free, hleaves.absent, hleaves.isNamed⟩
        have hcreated := (h.absent hleaves.absent hleaves.isNamed).mpr
          ⟨⟨hleaves.creates.1, Or.inl hrow⟩, hleaves.creates.2⟩
        exact hcan.2.2.1 hcreated
      · intro hleaves hcan
        rcases hcan with ⟨_, hfree, habsent, hnamed⟩
        refine ⟨hrow, hfree, ?_, hnamed⟩
        intro hcreated
        rcases (h.absent habsent hnamed).mp hcreated with ⟨hadmits, hcount, hcreate⟩
        refine hleaves ⟨hrow, hfree, habsent, hnamed, ⟨hadmits.1, hcount, hcreate⟩, ?_⟩
        intro hlater
        exact hpasses ⟨hadmits, ⟨_, makes_of_absent habsent hnamed hcount hcreate⟩,
          ⟨hlater.1, Or.inr hnamed⟩, hlater.2.1, hlater.2.2, fun _ => hfree⟩

/-- What goes wrong: a call for two databases returns, or one that has created the
database of a new tenant throws. -/
theorem provisionTenant_contract_iff (named : String -> Option String) (c : Circumstances)
    (spec : TenantSpec) (force : Bool) (server : Server) :
    Contract named c spec force server <->
      (Passes named c spec force server -> OneDatabase named spec server.tenants) ∧
        Not (LeavesDatabase named c spec server) := by
  by_cases hpasses : Passes named c spec force server
  · rcases provisionTenant_ok hpasses with ⟨result, server', ops, hrun, hdone⟩
    have hcomplete : Not (LeavesDatabase named c spec server) := fun hleaves =>
      hleaves.throws ⟨hpasses.connects.1, hpasses.populates, hpasses.records⟩
    constructor
    · intro h
      exact ⟨fun _ => hdone.achieved_iff.mp (h.success _ _ _ hrun), hcomplete⟩
    · intro h
      constructor
      · intro result' server'' ops' hrun'
        rw [hrun] at hrun'
        cases hrun'
        exact hdone.achieved_iff.mpr (h.1 hpasses)
      · intro e server'' ops' hrun'
        rw [hrun] at hrun'
        cases hrun'
  · rcases provisionTenant_error hpasses with ⟨e, server', ops, hrun, hleft⟩
    constructor
    · intro h
      exact ⟨fun hthrough => absurd hthrough hpasses,
        (hleft.rerun_iff hpasses).mp (h.failure _ _ _ hrun)⟩
    · intro h
      constructor
      · intro result server'' ops' hrun'
        rw [hrun] at hrun'
        cases hrun'
      · intro e' server'' ops' hrun'
        rw [hrun] at hrun'
        cases hrun'
        exact (hleft.rerun_iff hpasses).mpr h.2

end Promise

/-- `createPopulate` throws, and the next try meets the database it has left; a forced
call keeps the row that names another database. -/
theorem provisionTenant_leftover :
    Not (Contract some
      { Circumstances.calm with populate := some (.runtimeError "createPopulate") }
      ⟨"yoga", "yoga_db", "Yoga", 1⟩ false ⟨Table.empty, []⟩) ∧
    Not (Contract some .calm ⟨"yoga", "yoga_db", "Yoga", 1⟩ true
      ⟨⟨[⟨1, "yoga", "old_db", "Yoga", "active", 1⟩], 2, List.pairwise_singleton _ _⟩,
        ["old_db"]⟩) := by
  constructor
  · intro h
    have hbefore : CanSucceed some ⟨"yoga", "yoga_db", "Yoga", 1⟩ false
        ⟨Table.empty, []⟩ := by
      rw [canSucceed_unforced]
      refine ⟨rfl, ?_, by simp, rfl⟩
      intro r hr
      cases hr
    have hafter := h.failure _ _ _ rfl hbefore
    rw [show (Option.isSome (Tenants.lookupBySiteKey Table.empty "yoga")) = false from rfl,
      canSucceed_unforced] at hafter
    exact hafter.2.2.1 (by decide)
  · intro h
    rcases (h.success _ _ _ rfl).row with ⟨row, hrow, hname⟩
    cases hrow
    revert hname
    decide

end Tenancy
end ServerComponents
