import ServerComponents.Statements.Prog
import ServerComponents.Statements.Run
import ServerComponents.Tenancy.Tenants
import ServerComponents.Transactions.ProductionTransactionProvider

/-!
# The migration runner

Every migration runs in a transaction of its own, which also records its id.  What a
migration does is one entry of a log of effects, and any step of an attempt may throw.
-/

namespace ServerComponents
namespace Migration

open Statements Transactions

/-- A database: the effects in it, and the rows of `schema_migrations`. -/
structure Store where
  effects : List String
  recorded : List String
  deriving Repr, DecidableEq

def Store.empty : Store where
  effects := []
  recorded := []

def Store.merge (s own : Store) : Store where
  effects := s.effects ++ own.effects
  recorded := s.recorded ++ own.recorded

/-- These migrations applied and recorded, one after another. -/
def Store.applied (s : Store) (ids : List String) : Store := s.merge ⟨ids, ids⟩

/-- A transaction sees what is committed and its own changes. -/
structure TxView where
  committed : Store
  own : Store
  deriving Repr, DecidableEq

def TxView.recorded (view : TxView) : List String :=
  view.committed.recorded ++ view.own.recorded

/-- What each step of an attempt throws, if it throws anything of its own. -/
structure Faults where
  begin : Option Thrown
  lookup : Option Thrown
  apply : Option Thrown
  record : Option Thrown
  commit : Option Thrown

def Faults.none : Faults where
  begin := .none
  lookup := .none
  apply := .none
  record := .none
  commit := .none

abbrev Tx := Prog Faults TxView Thrown

def orThrow {a : Type} (fault : Option Thrown) (x : Except Thrown a) : Except Thrown a :=
  match fault with
  | some thrown => .error thrown
  | none => x

namespace SchemaMigrations

def duplicateKey : Thrown :=
  .exception "duplicate key value violates unique constraint \"schema_migrations_pkey\""

def isApplied (id : String) : Tx Bool :=
  Prog.ask (fun faults view => orThrow faults.lookup (.ok (decide (id ∈ view.recorded))))

def recordApplied (id : String) : Tx Unit :=
  Prog.exec (fun faults view => orThrow faults.record
    (if id ∈ view.recorded then .error duplicateKey
    else .ok ((), { view with
      own := { view.own with recorded := view.own.recorded ++ [id] } })))

end SchemaMigrations

def applyMigration (id : String) : Tx Unit :=
  Prog.exec (fun faults view => orThrow faults.apply
    (.ok ((), { view with own := { view.own with effects := view.own.effects ++ [id] } })))

def applyOne (id : String) : Tx Bool := do
  if ← SchemaMigrations.isApplied id then
    pure false
  else do
    applyMigration id
    SchemaMigrations.recordApplied id
    pure true

/-- A transaction that throws leaves nothing behind. -/
def runInTransaction {a : Type} (faults : Faults) (databaseFunc : Tx a) (s : Store) :
    Except Thrown a × Store :=
  match faults.begin with
  | some thrown => (.error thrown, s)
  | none =>
      match databaseFunc.run faults ⟨s, Store.empty⟩ with
      | (.error thrown, _) => (.error thrown, s)
      | (.ok value, view) =>
          match faults.commit with
          | some thrown => (.error thrown, s)
          | none => (.ok value, s.merge view.own)

structure MigrationResult where
  applied : List String
  skipped : List String
  deriving Repr, DecidableEq

def MigrationResult.empty : MigrationResult where
  applied := []
  skipped := []

/-- What an `ApplyOne` that returned adds to the result. -/
def MigrationResult.add (result : MigrationResult) (id : String) (applied : Bool) :
    MigrationResult :=
  if applied then { result with applied := result.applied ++ [id] }
  else { result with skipped := result.skipped ++ [id] }

structure MigrationFailure where
  migrationId : String
  innerWhat : String
  deriving Repr, DecidableEq

/-- The two `catch` clauses. -/
def migrationFailure (id : String) : Thrown -> MigrationFailure
  | .exception what => ⟨id, what⟩
  | .other => ⟨id, "unknown exception"⟩

/-- The loop of `ApplyPending`; the faults are those of each migration's attempt. -/
def applyPendingFrom (faults : String -> Faults) :
    List String -> MigrationResult -> Store ->
      Except MigrationFailure MigrationResult × Store
  | [], result, s => (.ok result, s)
  | id :: rest, result, s =>
      match runInTransaction (faults id) (applyOne id) s with
      | (.error thrown, s') => (.error (migrationFailure id thrown), s')
      | (.ok applied, s') => applyPendingFrom faults rest (result.add id applied) s'

def applyPending (faults : String -> Faults) (migrations : List String) (s : Store) :
    Except MigrationFailure MigrationResult × Store :=
  applyPendingFrom faults migrations MigrationResult.empty s

/-!
# One migration
-/

section ApplyOne

variable {faults : Faults} {id : String} {s : Store}

@[simp] theorem Store.merge_empty (s : Store) : s.merge Store.empty = s := by
  simp [Store.merge, Store.empty]

theorem run_applyOne (faults : Faults) (id : String) (s : Store) :
    (exists thrown view, (applyOne id).run faults ⟨s, Store.empty⟩ = (.error thrown, view)) ∨
      (id ∈ s.recorded ∧
        (applyOne id).run faults ⟨s, Store.empty⟩ = (.ok false, ⟨s, Store.empty⟩)) ∨
      (id ∉ s.recorded ∧
        (applyOne id).run faults ⟨s, Store.empty⟩ = (.ok true, ⟨s, ⟨[id], [id]⟩⟩)) := by
  simp only [applyOne, SchemaMigrations.isApplied, applyMigration,
    SchemaMigrations.recordApplied, Prog.bind_eq, Prog.run_bind, Prog.run_ask]
  cases faults.lookup with
  | some thrown => exact Or.inl ⟨thrown, _, rfl⟩
  | none =>
      by_cases hid : id ∈ s.recorded
      · refine Or.inr (Or.inl ⟨hid, ?_⟩)
        simp [orThrow, TxView.recorded, hid]
      · have hlookup : decide (id ∈ (TxView.mk s Store.empty).recorded) = false := by
          simp [TxView.recorded, Store.empty, hid]
        simp only [orThrow, hlookup, Bool.false_eq_true, if_false, Prog.run_bind,
          Prog.run_exec]
        cases faults.apply with
        | some thrown => exact Or.inl ⟨thrown, _, rfl⟩
        | none =>
            cases faults.record with
            | some thrown => exact Or.inl ⟨thrown, _, rfl⟩
            | none =>
                refine Or.inr (Or.inr ⟨hid, ?_⟩)
                simp [TxView.recorded, Store.empty, hid]

theorem applyOne_cases (faults : Faults) (id : String) (s : Store) :
    (exists thrown, runInTransaction faults (applyOne id) s = (.error thrown, s)) ∨
      (id ∈ s.recorded ∧ runInTransaction faults (applyOne id) s = (.ok false, s)) ∨
      (id ∉ s.recorded ∧
        runInTransaction faults (applyOne id) s = (.ok true, s.applied [id])) := by
  unfold runInTransaction
  cases faults.begin with
  | some thrown => exact Or.inl ⟨thrown, rfl⟩
  | none =>
      rcases run_applyOne faults id s with ⟨thrown, view, hrun⟩ | ⟨hid, hrun⟩ | ⟨hid, hrun⟩
      · rw [hrun]
        exact Or.inl ⟨thrown, rfl⟩
      · rw [hrun]
        cases faults.commit with
        | some thrown => exact Or.inl ⟨thrown, rfl⟩
        | none =>
            refine Or.inr (Or.inl ⟨hid, ?_⟩)
            simp
      · rw [hrun]
        cases faults.commit with
        | some thrown => exact Or.inl ⟨thrown, rfl⟩
        | none => exact Or.inr (Or.inr ⟨hid, rfl⟩)

end ApplyOne

/-!
# Runs of the list
-/

def pending (recorded migrations : List String) : List String :=
  migrations.filter (fun id => decide (id ∉ recorded))

/-- Every effect is there once, and the recorded ids are those of the effects. -/
structure Consistent (s : Store) : Prop where
  once : s.effects.Nodup
  recorded : forall id, id ∈ s.recorded <-> id ∈ s.effects

/-- The effects that were added are the first pending migrations, in the order of the
list, and they are recorded. -/
def Advanced (migrations : List String) (s0 s : Store) : Prop :=
  exists count, s = s0.applied ((pending s0.recorded migrations).take count)

/-- How a run of the list may end that goes on from a result, with what it leaves. -/
def Ends (migrations : List String) (result : MigrationResult) (s : Store) :
    Except MigrationFailure MigrationResult × Store -> Prop
  | (.ok result', s') =>
      s' = s.applied (pending s.recorded migrations) ∧
        result'.applied = result.applied ++ pending s.recorded migrations ∧
        result'.skipped =
          result.skipped ++ migrations.filter (fun id => decide (id ∈ s.recorded))
  | (.error failure, s') =>
      exists before later, migrations = before ++ failure.migrationId :: later ∧
        s' = s.applied (pending s.recorded before)

section Runs

variable {migrations : List String} {s s0 : Store}

theorem pending_append (recorded before later : List String) :
    pending recorded (before ++ later) = pending recorded before ++ pending recorded later :=
  List.filter_append _ _

theorem Store.applied_append (s : Store) (ids ids' : List String) :
    s.applied (ids ++ ids') = (s.applied ids).applied ids' := by
  simp [Store.applied, Store.merge]

@[simp] theorem Store.applied_nil (s : Store) : s.applied [] = s := by
  simp [Store.applied, Store.merge]

variable {recorded : List String}

theorem pending_of_not_mem {id : String} (h : id ∉ migrations) :
    pending (recorded ++ [id]) migrations = pending recorded migrations := by
  apply List.filter_congr
  intro id' hid'
  have hne : id' ≠ id := fun heq => h (heq ▸ hid')
  simp [hne]

theorem filter_recorded_of_not_mem {id : String} (h : id ∉ migrations) :
    migrations.filter (fun id' => decide (id' ∈ recorded ++ [id])) =
      migrations.filter (fun id' => decide (id' ∈ recorded)) := by
  apply List.filter_congr
  intro id' hid'
  have hne : id' ≠ id := fun heq => h (heq ▸ hid')
  simp [hne]

theorem pending_cons_recorded {id : String} (h : id ∈ recorded)
    (rest : List String) : pending recorded (id :: rest) = pending recorded rest := by
  simp [pending, h]

theorem pending_cons {id : String} (h : id ∉ recorded)
    (rest : List String) : pending recorded (id :: rest) = id :: pending recorded rest := by
  simp [pending, h]

variable {ended : Except MigrationFailure MigrationResult × Store}

theorem Ends.skipped {id : String} {rest : List String} {result : MigrationResult}
    (hid : id ∈ s.recorded)
    (h : Ends rest (result.add id false) s ended) : Ends (id :: rest) result s ended := by
  rcases ended with ⟨failure | result', s'⟩
  · rcases h with ⟨before, later, hrest, hs'⟩
    refine ⟨id :: before, later, by rw [hrest, List.cons_append], ?_⟩
    rw [pending_cons_recorded hid]
    exact hs'
  · rcases h with ⟨hs', happlied, hskipped⟩
    refine ⟨?_, ?_, ?_⟩
    · rw [pending_cons_recorded hid]
      exact hs'
    · rw [pending_cons_recorded hid]
      exact happlied
    · rw [hskipped]
      simp [MigrationResult.add, hid]

theorem Ends.applied {id : String} {rest : List String} {result : MigrationResult}
    (hid : id ∉ s.recorded)
    (hnot : id ∉ rest) (h : Ends rest (result.add id true) (s.applied [id]) ended) :
    Ends (id :: rest) result s ended := by
  have hrecorded : (s.applied [id]).recorded = s.recorded ++ [id] := rfl
  rcases ended with ⟨failure | result', s'⟩
  · rcases h with ⟨before, later, hrest, hs'⟩
    have hbefore : id ∉ before := fun hmem => hnot (by rw [hrest]; simp [hmem])
    refine ⟨id :: before, later, by rw [hrest, List.cons_append], ?_⟩
    rw [hs', hrecorded, pending_of_not_mem hbefore, pending_cons hid,
      ← Store.applied_append, List.singleton_append]
  · rcases h with ⟨hs', happlied, hskipped⟩
    rw [hrecorded] at hs' happlied hskipped
    rw [pending_of_not_mem hnot] at hs' happlied
    rw [filter_recorded_of_not_mem hnot] at hskipped
    refine ⟨?_, ?_, ?_⟩
    · rw [hs', pending_cons hid, ← Store.applied_append, List.singleton_append]
    · rw [happlied, pending_cons hid]
      simp [MigrationResult.add]
    · rw [hskipped]
      simp [MigrationResult.add, hid]

theorem applyPendingFrom_ends (faults : String -> Faults) (hnodup : migrations.Nodup)
    (result : MigrationResult) (s : Store) :
    Ends migrations result s (applyPendingFrom faults migrations result s) := by
  induction migrations generalizing result s with
  | nil => simp [applyPendingFrom, Ends, pending]
  | cons id rest ih =>
      rw [List.nodup_cons] at hnodup
      unfold applyPendingFrom
      rcases applyOne_cases (faults id) id s with ⟨thrown, hrun⟩ | ⟨hid, hrun⟩ | ⟨hid, hrun⟩
      · rw [hrun]
        refine ⟨[], rest, ?_, by simp [pending]⟩
        cases thrown with
        | exception what => rfl
        | other => rfl
      · rw [hrun]
        exact Ends.skipped hid (ih hnodup.2 (result.add id false) s)
      · rw [hrun]
        exact Ends.applied hid hnodup.1 (ih hnodup.2 (result.add id true) (s.applied [id]))

/-!
# Reruns
-/

theorem Consistent.applied (hs : Consistent s) {ids : List String} (hids : ids.Nodup)
    (hfresh : forall id, id ∈ ids -> id ∉ s.recorded) : Consistent (s.applied ids) := by
  constructor
  · show (s.effects ++ ids).Nodup
    rw [List.nodup_append]
    refine ⟨hs.once, hids, ?_⟩
    intro id hid id' hid' heq
    rw [← heq] at hid'
    exact hfresh id hid' ((hs.recorded id).mpr hid)
  · intro id
    show id ∈ s.recorded ++ ids <-> id ∈ s.effects ++ ids
    rw [List.mem_append, List.mem_append, hs.recorded id]

theorem Advanced.consistent (h : Advanced migrations s0 s) (hs0 : Consistent s0)
    (hnodup : migrations.Nodup) : Consistent s := by
  rcases h with ⟨count, rfl⟩
  apply hs0.applied
  · exact (hnodup.filter _).sublist (List.take_sublist _ _)
  · intro id hid
    have hmem := List.mem_of_mem_take hid
    simpa using (List.mem_filter.mp hmem).2

theorem pending_take (recorded : List String) (hnodup : migrations.Nodup) (count : Nat) :
    pending (recorded ++ (pending recorded migrations).take count) migrations =
      (pending recorded migrations).drop count := by
  generalize happlied : (pending recorded migrations).take count = applied
  have hsplit : pending (recorded ++ applied) migrations =
      (pending recorded migrations).filter (fun id => decide (id ∉ applied)) := by
    unfold pending
    rw [List.filter_filter]
    apply List.filter_congr
    intro id _
    simp [Bool.and_comm]
  have hparts : pending recorded migrations =
      applied ++ (pending recorded migrations).drop count := by
    rw [← happlied, List.take_append_drop]
  have hdistinct : (applied ++ (pending recorded migrations).drop count).Nodup := by
    rw [← hparts]
    exact hnodup.filter _
  rw [hsplit]
  calc
    (pending recorded migrations).filter (fun id => decide (id ∉ applied)) =
        applied.filter (fun id => decide (id ∉ applied)) ++
          ((pending recorded migrations).drop count).filter
            (fun id => decide (id ∉ applied)) := by
      conv_lhs => rw [hparts]
      exact List.filter_append _ _
    _ = (pending recorded migrations).drop count := by
      rw [List.filter_eq_nil_iff.mpr (by simp), List.nil_append, List.filter_eq_self]
      intro id hid
      have hnot : id ∉ applied := by
        intro hmem
        exact (List.nodup_append.mp hdistinct).2.2 id hmem id hid rfl
      simpa using hnot

theorem Advanced.further (h : Advanced migrations s0 s) (hnodup : migrations.Nodup)
    {ids : List String} (hids : ids <+: pending s.recorded migrations) :
    Advanced migrations s0 (s.applied ids) := by
  rcases h with ⟨count, rfl⟩
  have hpending : pending (s0.applied ((pending s0.recorded migrations).take count)).recorded
      migrations = (pending s0.recorded migrations).drop count :=
    pending_take s0.recorded hnodup count
  rw [hpending] at hids
  refine ⟨count + ids.length, ?_⟩
  rw [← Store.applied_append, List.take_add, ← List.prefix_iff_eq_take.mp hids]

theorem pending_front (recorded : List String) {before later : List String}
    (h : migrations = before ++ later) :
    pending recorded before <+: pending recorded migrations := by
  rw [h, pending_append]
  exact List.prefix_append _ _

theorem Advanced.ends (h : Advanced migrations s0 s) (hnodup : migrations.Nodup)
    {result : MigrationResult}
    (hended : Ends migrations result s ended) : Advanced migrations s0 ended.2 := by
  rcases ended with ⟨failure | result', s'⟩
  · rcases hended with ⟨before, later, hsplit, rfl⟩
    exact h.further hnodup (pending_front s.recorded hsplit)
  · rcases hended with ⟨rfl, _, _⟩
    exact h.further hnodup (List.prefix_refl _)

def attempt (migrations : List String) (s : Store) (faults : String -> Faults) : Store :=
  (applyPending faults migrations s).2

theorem Advanced.attempts (h : Advanced migrations s0 s) (hnodup : migrations.Nodup)
    (attempts : List (String -> Faults)) :
    Advanced migrations s0 (after (attempt migrations) s attempts) := by
  induction attempts generalizing s with
  | nil => exact h
  | cons faults rest ih =>
      apply ih
      exact h.ends hnodup (applyPendingFrom_ends faults hnodup MigrationResult.empty s)

/-- After any attempts, one after another, the database is consistent and has the first
pending migrations, and the next attempt ends as it should. -/
theorem attempts_advance (hnodup : migrations.Nodup) (hs0 : Consistent s0)
    (attempts : List (String -> Faults)) :
    Consistent (after (attempt migrations) s0 attempts) ∧
      Advanced migrations s0 (after (attempt migrations) s0 attempts) ∧
      forall faults, Ends migrations MigrationResult.empty
        (after (attempt migrations) s0 attempts)
        (applyPending faults migrations (after (attempt migrations) s0 attempts)) := by
  have hstart : Advanced migrations s0 s0 := ⟨0, by simp⟩
  have hadvanced := hstart.attempts hnodup attempts
  exact ⟨hadvanced.consistent hs0 hnodup, hadvanced,
    fun faults => applyPendingFrom_ends faults hnodup _ _⟩

end Runs

/-!
# All tenants
-/

section Tenants

open Tenancy

def listActive (tenants : Tenants) : List TenantRow :=
  (tenants.rows.filter (fun row => decide (row.status = kTenantStatusActive))).mergeSort
    (fun row row' => decide (row.id ≤ row'.id))

abbrev Databases := String -> Store

/-- The loop of `MigrateAllTenants`, each tenant with the production migrate function. -/
def migrateTenants (faults : String -> String -> Faults) (migrations : List String) :
    List TenantRow -> List String -> Databases ->
      Except MigrationFailure (List String) × Databases
  | [], migratedSiteKeys, databases => (.ok migratedSiteKeys, databases)
  | tenant :: rest, migratedSiteKeys, databases =>
      match applyPending (faults tenant.siteKey) migrations (databases tenant.databaseName) with
      | (.error failure, s') =>
          (.error failure, Function.update databases tenant.databaseName s')
      | (.ok _, s') =>
          migrateTenants faults migrations rest (migratedSiteKeys ++ [tenant.siteKey])
            (Function.update databases tenant.databaseName s')

def migrateAllTenants (faults : String -> String -> Faults) (migrations : List String)
    (tenants : Tenants) (databases : Databases) :
    Except MigrationFailure (List String) × Databases :=
  migrateTenants faults migrations (listActive tenants) [] databases

variable {migrations : List String}

theorem update_advanced {databases0 databases : Databases} {name : String} {s' : Store}
    (h : forall name', Advanced migrations (databases0 name') (databases name'))
    (hs' : Advanced migrations (databases0 name) s') (name' : String) :
    Advanced migrations (databases0 name') (Function.update databases name s' name') := by
  by_cases hname : name' = name
  · subst hname
    rw [Function.update_self]
    exact hs'
  · rw [Function.update_of_ne hname]
    exact h name'

theorem migrateTenants_advanced (faults : String -> String -> Faults)
    (hnodup : migrations.Nodup) (tenants : List TenantRow) (migratedSiteKeys : List String)
    {databases0 databases : Databases}
    (h : forall name, Advanced migrations (databases0 name) (databases name))
    (name : String) :
    Advanced migrations (databases0 name)
      ((migrateTenants faults migrations tenants migratedSiteKeys databases).2 name) := by
  induction tenants generalizing migratedSiteKeys databases with
  | nil => exact h name
  | cons tenant rest ih =>
      have hends := applyPendingFrom_ends (faults tenant.siteKey) hnodup MigrationResult.empty
        (databases tenant.databaseName)
      have hadvanced := (h tenant.databaseName).ends hnodup hends
      unfold migrateTenants
      unfold applyPending
      generalize applyPendingFrom (faults tenant.siteKey) migrations MigrationResult.empty
        (databases tenant.databaseName) = ended at hadvanced
      rcases ended with ⟨failure | result, s'⟩
      · exact update_advanced h hadvanced name
      · exact ih _ (update_advanced h hadvanced)

end Tenants

end Migration
end ServerComponents
