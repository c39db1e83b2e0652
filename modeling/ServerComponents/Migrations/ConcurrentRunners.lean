import ServerComponents.Migrations.MigrationRunner
import ServerComponents.Statements.Interleaved

/-!
# Runners at the same time

Any number of runners work on one database, one statement at a time.  A statement sees
what is committed and the changes of its own transaction, and an id that another
transaction has inserted makes the insert wait until that transaction has ended.
-/

namespace ServerComponents
namespace Migration

open Statements Transactions

/-- A runner in its list: the migrations from the present one on, and the transaction that
is open with its uncommitted changes. -/
structure Runner : Type 1 where
  todo : List String
  result : MigrationResult
  tx : Option (Tx Bool × Store)
  failure : Option MigrationFailure

def Runner.start (migrations : List String) : Runner where
  todo := migrations
  result := MigrationResult.empty
  tx := none
  failure := none

/-- The transaction is rolled back and the failure thrown. -/
def Runner.fail (r : Runner) (id : String) (thrown : Thrown) : Runner :=
  { r with tx := none, failure := some (migrationFailure id thrown) }

/-- The ids that a runner has inserted and not committed. -/
def Runner.uncommitted (r : Runner) : List String :=
  match r.tx with
  | none => []
  | some tx => tx.2.recorded

structure System : Type 1 where
  committed : Store
  runners : List Runner

inductive Event where
  | start
  | run (i : Nat) (faults : Faults)

def txStep (committed : Store) (faults : Faults) : Tx Bool × Store -> Tx Bool × Store
  | (.done applied, own) => (.done applied, own)
  | (.fail thrown, own) => (.fail thrown, own)
  | (.query read next, own) => (next (read faults ⟨committed, own⟩), own)
  | (.update write next, own) =>
      match write faults ⟨committed, own⟩ with
      | .ok (reply, view) => (next (.ok reply), view.own)
      | .error thrown => (next (.error thrown), own)

namespace System

def setRunner (s : System) (i : Nat) (r : Runner) : System :=
  { s with runners := s.runners.set i r }

/-- An id that the statement inserts has been inserted by a transaction that is open. -/
def waits (s : System) (tx tx' : Tx Bool × Store) : Bool :=
  tx'.2.recorded.any (fun id => ! tx.2.recorded.contains id &&
    s.runners.any (fun r => r.uncommitted.contains id))

/-- The next statement, commit or rollback of the transaction of a runner. -/
def txEvent (s : System) (i : Nat) (faults : Faults) (r : Runner) (id : String)
    (rest : List String) (tx : Tx Bool × Store) : System :=
  match tx.1 with
  | .done applied =>
      match faults.commit with
      | some thrown => s.setRunner i (r.fail id thrown)
      | none =>
          { committed := s.committed.merge tx.2
            runners := s.runners.set i
              { r with todo := rest, result := r.result.add id applied, tx := none } }
  | .fail thrown => s.setRunner i (r.fail id thrown)
  | _ =>
      if s.waits tx (txStep s.committed faults tx) then s
      else s.setRunner i { r with tx := some (txStep s.committed faults tx) }

def runEvent (s : System) (i : Nat) (faults : Faults) (r : Runner) : System :=
  match r.failure, r.todo, r.tx with
  | some _, _, _ => s
  | none, [], _ => s
  | none, id :: _, none =>
      match faults.begin with
      | some thrown => s.setRunner i (r.fail id thrown)
      | none => s.setRunner i { r with tx := some (applyOne id, Store.empty) }
  | none, id :: rest, some tx => s.txEvent i faults r id rest tx

def runAt (s : System) (i : Nat) (faults : Faults) : System :=
  match s.runners[i]? with
  | none => s
  | some r => s.runEvent i faults r

def step (migrations : List String) (s : System) : Event -> System
  | .start => { s with runners := s.runners ++ [Runner.start migrations] }
  | .run i faults => s.runAt i faults

def init (s0 : Store) : System where
  committed := s0
  runners := []

end System

/-!
# Transactions
-/

/-- A transaction with one migration, between its statements. -/
inductive TxAt (id : String) : Tx Bool × Store -> Prop where
  | begun : TxAt id (applyOne id, Store.empty)
  | unapplied : TxAt id
      (do
        applyMigration id
        SchemaMigrations.recordApplied id
        pure true, Store.empty)
  | unrecorded : TxAt id
      (do
        SchemaMigrations.recordApplied id
        pure true, ⟨[id], []⟩)
  | recorded : TxAt id (.done true, ⟨[id], [id]⟩)
  | skipped : TxAt id (.done false, Store.empty)
  | thrown (thrown : Thrown) (own : Store) (h : own.recorded = []) :
      TxAt id (.fail thrown, own)

/-- What a statement makes of a transaction. -/
structure TxMoves (id : String) (committed : Store) (tx tx' : Tx Bool × Store) : Prop where
  reached : TxAt id tx'
  inserted : tx'.2.recorded = tx.2.recorded ∨
    (tx.2.recorded = [] ∧ tx'.2.recorded = [id] ∧ id ∉ committed.recorded)
  skips : tx'.1 = .done false -> tx.1 = .done false ∨ id ∈ committed.recorded

theorem TxMoves.of_thrown {id : String} {committed : Store} {prog : Tx Bool} {own : Store}
    (h : own.recorded = []) (thrown : Thrown) :
    TxMoves id committed (prog, own) (.fail thrown, own) :=
  ⟨TxAt.thrown thrown own h, Or.inl rfl, fun hskips => by cases hskips⟩

theorem txStep_begun (id : String) (committed : Store) (faults : Faults) :
    TxMoves id committed (applyOne id, Store.empty)
      (txStep committed faults (applyOne id, Store.empty)) := by
  have hstep : txStep committed faults (applyOne id, Store.empty) =
      ((Prog.ofExcept (orThrow faults.lookup
        (.ok (decide (id ∈ (TxView.mk committed Store.empty).recorded))))).bind
          (fun applied => if applied = true then Prog.done false
            else do
              applyMigration id
              SchemaMigrations.recordApplied id
              pure true), Store.empty) := rfl
  rw [hstep]
  cases faults.lookup with
  | some thrown => exact TxMoves.of_thrown rfl thrown
  | none =>
      by_cases hid : id ∈ committed.recorded
      · have hlookup : decide (id ∈ (TxView.mk committed Store.empty).recorded) = true := by
          simp [TxView.recorded, hid]
        rw [hlookup]
        exact ⟨TxAt.skipped, Or.inl rfl, fun _ => Or.inr hid⟩
      · have hlookup : decide (id ∈ (TxView.mk committed Store.empty).recorded) = false := by
          simp [TxView.recorded, Store.empty, hid]
        rw [hlookup]
        exact ⟨TxAt.unapplied, Or.inl rfl, fun hskips => by cases hskips⟩

theorem txStep_unapplied (id : String) (committed : Store) (faults : Faults) :
    TxMoves id committed
      (do
        applyMigration id
        SchemaMigrations.recordApplied id
        pure true, Store.empty)
      (txStep committed faults
        (do
          applyMigration id
          SchemaMigrations.recordApplied id
          pure true, Store.empty)) := by
  rcases faults with ⟨begins, looksUp, _ | applies, records, commits⟩
  · exact ⟨TxAt.unrecorded, Or.inl rfl, fun hskips => by cases hskips⟩
  · exact TxMoves.of_thrown rfl applies

theorem txStep_unrecorded (id : String) (committed : Store) (faults : Faults) :
    TxMoves id committed
      (do
        SchemaMigrations.recordApplied id
        pure true, ⟨[id], []⟩)
      (txStep committed faults
        (do
          SchemaMigrations.recordApplied id
          pure true, ⟨[id], []⟩)) := by
  rcases faults with ⟨begins, looksUp, applies, _ | records, commits⟩
  · by_cases hid : id ∈ (TxView.mk committed ⟨[id], []⟩).recorded
    · have hstep : txStep committed ⟨begins, looksUp, applies, none, commits⟩
          (do
            SchemaMigrations.recordApplied id
            pure true, ⟨[id], []⟩) =
          (.fail SchemaMigrations.duplicateKey, ⟨[id], []⟩) := by
        simp [txStep, SchemaMigrations.recordApplied, Prog.exec, Prog.bind, orThrow, hid,
          Prog.ofExcept]
      rw [hstep]
      exact TxMoves.of_thrown rfl _
    · have hstep : txStep committed ⟨begins, looksUp, applies, none, commits⟩
          (do
            SchemaMigrations.recordApplied id
            pure true, ⟨[id], []⟩) = (.done true, ⟨[id], [id]⟩) := by
        simp [txStep, SchemaMigrations.recordApplied, Prog.exec, Prog.bind, orThrow, hid,
          Prog.ofExcept]
      rw [hstep]
      have hfresh : id ∉ committed.recorded := fun hmem => hid (List.mem_append_left _ hmem)
      exact ⟨TxAt.recorded, Or.inr ⟨rfl, rfl, hfresh⟩, fun hskips => by cases hskips⟩
  · exact TxMoves.of_thrown rfl records

theorem txStep_moves {id : String} {tx : Tx Bool × Store} (h : TxAt id tx)
    (committed : Store) (faults : Faults) :
    TxMoves id committed tx (txStep committed faults tx) := by
  cases h with
  | begun => exact txStep_begun id committed faults
  | unapplied => exact txStep_unapplied id committed faults
  | unrecorded => exact txStep_unrecorded id committed faults
  | recorded => exact ⟨TxAt.recorded, Or.inl rfl, fun hskips => by cases hskips⟩
  | skipped => exact ⟨TxAt.skipped, Or.inl rfl, fun hskips => Or.inl hskips⟩
  | thrown thrown own h => exact TxMoves.of_thrown h thrown

/-!
# The invariant
-/

/-- A runner that is through with the migrations before the present one. -/
structure RunnerAt (migrations before : List String) (committed : Store) (r : Runner) :
    Prop where
  split : migrations = before ++ r.todo
  passed : forall id, id ∈ before -> id ∈ committed.recorded
  applied : r.result.applied.Sublist before
  skipped : r.result.skipped.Sublist before
  parts : (r.result.applied ++ r.result.skipped).Perm before
  inTx : forall tx, r.tx = some tx -> exists id rest, r.todo = id :: rest ∧ TxAt id tx ∧
    (tx.1 = .done false -> id ∈ committed.recorded)
  failed : forall failure, r.failure = some failure ->
    r.tx = none ∧ exists rest, r.todo = failure.migrationId :: rest

/-- What all runners keep: the database gets further in the list only, no id is inserted
twice, and every effect was committed by one runner. -/
structure Inv (migrations : List String) (s0 : Store) (s : System) : Prop where
  advanced : Advanced migrations s0 s.committed
  runners : forall r, r ∈ s.runners ->
    exists before, RunnerAt migrations before s.committed r
  uncommitted : (gathered Runner.uncommitted s.runners).Nodup
  fresh : forall id, id ∈ gathered Runner.uncommitted s.runners -> id ∉ s.committed.recorded
  shared : (s0.effects ++ gathered (fun r => r.result.applied) s.runners).Perm
    s.committed.effects

section Steps

variable {migrations before : List String} {s0 committed committed' : Store} {s : System}
  {i : Nat} {r r' : Runner}

theorem RunnerAt.mono (h : RunnerAt migrations before committed r)
    (hgrows : forall id, id ∈ committed.recorded -> id ∈ committed'.recorded) :
    RunnerAt migrations before committed' r := by
  constructor
  · exact h.split
  · intro id hid
    exact hgrows id (h.passed id hid)
  · exact h.applied
  · exact h.skipped
  · exact h.parts
  · intro tx htx
    rcases h.inTx tx htx with ⟨id, rest, htodo, hat, hskips⟩
    exact ⟨id, rest, htodo, hat, fun hdone => hgrows id (hskips hdone)⟩
  · exact h.failed

variable {id : String} {rest : List String}

/-- The present migration is the first of the pending ones, unless it is recorded. -/
theorem RunnerAt.present_pending (h : RunnerAt migrations before committed r)
    (htodo : r.todo = id :: rest) (hnew : id ∉ committed.recorded) :
    [id] <+: pending committed.recorded migrations := by
  have hpassed : pending committed.recorded before = [] := by
    unfold pending
    rw [List.filter_eq_nil_iff]
    intro id' hid'
    simpa using h.passed id' hid'
  rw [h.split, htodo, pending_append, hpassed, pending_cons hnew]
  exact List.prefix_append [id] _

theorem runnerAt_start (migrations : List String) (committed : Store) :
    RunnerAt migrations [] committed (Runner.start migrations) := by
  constructor
  · rfl
  · intro id hid
    cases hid
  · exact List.Sublist.refl _
  · exact List.Sublist.refl _
  · exact List.Perm.refl _
  · intro tx htx
    cases htx
  · intro failure hfailure
    cases hfailure

theorem RunnerAt.fail (h : RunnerAt migrations before committed r)
    (htodo : r.todo = id :: rest) (thrown : Thrown) :
    RunnerAt migrations before committed (r.fail id thrown) := by
  constructor
  · exact h.split
  · exact h.passed
  · exact h.applied
  · exact h.skipped
  · exact h.parts
  · intro tx htx
    cases htx
  · intro failure hfailure
    cases hfailure
    refine ⟨rfl, rest, ?_⟩
    cases thrown with
    | exception what => exact htodo
    | other => exact htodo

variable {tx : Tx Bool × Store}

theorem RunnerAt.inside (h : RunnerAt migrations before committed r)
    (htodo : r.todo = id :: rest) (hfailure : r.failure = none) (hat : TxAt id tx)
    (hskips : tx.1 = .done false -> id ∈ committed.recorded) :
    RunnerAt migrations before committed { r with tx := some tx } := by
  constructor
  · exact h.split
  · exact h.passed
  · exact h.applied
  · exact h.skipped
  · exact h.parts
  · intro tx' htx'
    cases htx'
    exact ⟨id, rest, htodo, hat, hskips⟩
  · intro failure hsome
    rw [hfailure] at hsome
    cases hsome

theorem RunnerAt.next (h : RunnerAt migrations before committed r)
    (htodo : r.todo = id :: rest) (hfailure : r.failure = none)
    (hrecorded : id ∈ committed.recorded) (applied : Bool) :
    RunnerAt migrations (before ++ [id]) committed
      { r with todo := rest, result := r.result.add id applied, tx := none } := by
  have hone := List.sublist_append_left before [id]
  constructor
  · rw [h.split, htodo, List.append_assoc]
    rfl
  · intro id' hid'
    rcases List.mem_append.mp hid' with hmem | hmem
    · exact h.passed id' hmem
    · rw [List.mem_singleton.mp hmem]
      exact hrecorded
  · cases applied with
    | true => exact h.applied.append (List.Sublist.refl [id])
    | false => exact h.applied.trans hone
  · cases applied with
    | true => exact h.skipped.trans hone
    | false => exact h.skipped.append (List.Sublist.refl [id])
  · cases applied with
    | true =>
        show ((r.result.applied ++ [id]) ++ r.result.skipped).Perm (before ++ [id])
        refine List.Perm.trans ?_ (h.parts.append_right [id])
        rw [List.append_assoc, List.append_assoc]
        exact List.Perm.append_left _ List.perm_append_comm
    | false =>
        show (r.result.applied ++ (r.result.skipped ++ [id])).Perm (before ++ [id])
        rw [← List.append_assoc]
        exact h.parts.append_right [id]
  · intro tx htx
    cases htx
  · intro failure hsome
    rw [hfailure] at hsome
    cases hsome

theorem runners_set {property : Runner -> Prop}
    (h : forall r, r ∈ s.runners -> property r) (hr' : property r') (i : Nat) :
    forall r, r ∈ s.runners.set i r' -> property r := by
  intro r hr
  rcases List.mem_or_eq_of_mem_set hr with hmem | heq
  · exact h r hmem
  · rw [heq]
    exact hr'

theorem gathered_set_same {held : Runner -> List String} (hr : s.runners[i]? = some r)
    (h : held r' = held r) :
    (gathered held (s.runners.set i r')).Perm (gathered held s.runners) := by
  have hset := gathered_set held hr r'
  rw [h] at hset
  exact (List.perm_append_right_iff _).mp hset

theorem gathered_set_released {held : Runner -> List String} (hr : s.runners[i]? = some r)
    (h : held r' = []) :
    (gathered held (s.runners.set i r') ++ held r).Perm (gathered held s.runners) := by
  have hset := gathered_set held hr r'
  rwa [h, List.append_nil] at hset

theorem gathered_set_added {held : Runner -> List String} (hr : s.runners[i]? = some r)
    (h : held r' = held r ++ [id]) :
    (gathered held (s.runners.set i r')).Perm (gathered held s.runners ++ [id]) := by
  have hset := gathered_set held hr r'
  rw [h] at hset
  have hswap : (gathered held s.runners ++ (held r ++ [id])).Perm
      ((gathered held s.runners ++ [id]) ++ held r) := by
    rw [List.append_assoc]
    exact List.Perm.append_left _ List.perm_append_comm
  exact (List.perm_append_right_iff _).mp (hset.trans hswap)

theorem Inv.set (h : Inv migrations s0 s) (hr : s.runners[i]? = some r)
    (hat : exists before, RunnerAt migrations before s.committed r')
    (happlied : r'.result.applied = r.result.applied)
    (huncommitted : (gathered Runner.uncommitted (s.runners.set i r')).Nodup)
    (hfresh : forall id, id ∈ gathered Runner.uncommitted (s.runners.set i r') ->
      id ∉ s.committed.recorded) :
    Inv migrations s0 (s.setRunner i r') := by
  constructor
  · exact h.advanced
  · exact runners_set h.runners hat i
  · exact huncommitted
  · exact hfresh
  · have hshare : (gathered (fun r => r.result.applied) (s.runners.set i r')).Perm
        (gathered (fun r => r.result.applied) s.runners) :=
      gathered_set_same hr happlied
    exact (hshare.append_left s0.effects).trans h.shared

theorem Inv.set_same (h : Inv migrations s0 s) (hr : s.runners[i]? = some r)
    (hat : exists before, RunnerAt migrations before s.committed r')
    (happlied : r'.result.applied = r.result.applied)
    (hsame : r'.uncommitted = r.uncommitted) : Inv migrations s0 (s.setRunner i r') := by
  have hperm := gathered_set_same hr hsame
  refine h.set hr hat happlied (hperm.nodup_iff.mpr h.uncommitted) ?_
  intro id hid
  exact h.fresh id (hperm.mem_iff.mp hid)

theorem Inv.set_released (h : Inv migrations s0 s) (hr : s.runners[i]? = some r)
    (hat : exists before, RunnerAt migrations before s.committed r')
    (happlied : r'.result.applied = r.result.applied)
    (hreleased : r'.uncommitted = []) : Inv migrations s0 (s.setRunner i r') := by
  have hperm := gathered_set_released hr hreleased
  refine h.set hr hat happlied ?_ ?_
  · exact (List.nodup_append.mp (hperm.nodup_iff.mpr h.uncommitted)).1
  · intro id hid
    exact h.fresh id (hperm.mem_iff.mp (List.mem_append_left _ hid))

theorem Inv.set_inserted (h : Inv migrations s0 s) (hr : s.runners[i]? = some r)
    (hat : exists before, RunnerAt migrations before s.committed r')
    (happlied : r'.result.applied = r.result.applied)
    (hempty : r.uncommitted = []) (hinserted : r'.uncommitted = [id])
    (hnew : id ∉ s.committed.recorded) (hfree : id ∉ gathered Runner.uncommitted s.runners) :
    Inv migrations s0 (s.setRunner i r') := by
  have hperm := gathered_set Runner.uncommitted hr r'
  rw [hempty, hinserted, List.append_nil] at hperm
  refine h.set hr hat happlied ?_ ?_
  · rw [hperm.nodup_iff, List.nodup_append]
    refine ⟨h.uncommitted, List.nodup_singleton id, ?_⟩
    intro id' hid' id'' hid'' heq
    rw [heq, List.mem_singleton.mp hid''] at hid'
    exact hfree hid'
  · intro id' hid'
    rcases List.mem_append.mp (hperm.mem_iff.mp hid') with hmem | hmem
    · exact h.fresh id' hmem
    · rw [List.mem_singleton.mp hmem]
      exact hnew

theorem Inv.skip (h : Inv migrations s0 s) (hr : s.runners[i]? = some r)
    (hat : RunnerAt migrations before s.committed r)
    (htodo : r.todo = id :: rest) (hfailure : r.failure = none)
    (hrecorded : id ∈ s.committed.recorded) :
    Inv migrations s0 (s.setRunner i
      { r with todo := rest, result := r.result.add id false, tx := none }) :=
  h.set_released hr ⟨_, hat.next htodo hfailure hrecorded false⟩ rfl rfl

theorem Inv.commit (h : Inv migrations s0 s) (hnodup : migrations.Nodup)
    (hr : s.runners[i]? = some r) (hat : RunnerAt migrations before s.committed r)
    (htodo : r.todo = id :: rest) (hfailure : r.failure = none) (hinserted : r.uncommitted = [id]) :
    Inv migrations s0
      { committed := s.committed.applied [id]
        runners := s.runners.set i
          { r with todo := rest, result := r.result.add id true, tx := none } } := by
  have hmem : id ∈ gathered Runner.uncommitted s.runners := by
    refine List.mem_flatMap.mpr ⟨r, List.mem_of_getElem? hr, ?_⟩
    rw [hinserted]
    exact List.mem_singleton_self id
  have hnew := h.fresh id hmem
  have hgrows : forall id', id' ∈ s.committed.recorded ->
      id' ∈ (s.committed.applied [id]).recorded :=
    fun id' hid' => List.mem_append_left [id] hid'
  have hrecorded : id ∈ (s.committed.applied [id]).recorded :=
    List.mem_append_right _ (List.mem_singleton_self id)
  have hperm : (gathered Runner.uncommitted (s.runners.set i
        { r with todo := rest, result := r.result.add id true, tx := none }) ++
      r.uncommitted).Perm (gathered Runner.uncommitted s.runners) :=
    gathered_set_released hr rfl
  rw [hinserted] at hperm
  have hparts := List.nodup_append.mp (hperm.nodup_iff.mpr h.uncommitted)
  constructor
  · apply h.advanced.further hnodup
    exact hat.present_pending htodo hnew
  · apply runners_set
    · intro r0 hr0
      rcases h.runners r0 hr0 with ⟨before0, hat0⟩
      exact ⟨before0, hat0.mono hgrows⟩
    · exact ⟨_, (hat.mono hgrows).next htodo hfailure hrecorded true⟩
  · exact hparts.1
  · intro id' hid' hmem'
    rcases List.mem_append.mp hmem' with hold | hone
    · exact h.fresh id' (hperm.mem_iff.mp (List.mem_append_left _ hid')) hold
    · exact hparts.2.2 id' hid' id (List.mem_singleton_self id) (List.mem_singleton.mp hone)
  · have happlied : (gathered (fun r => r.result.applied) (s.runners.set i
          { r with todo := rest, result := r.result.add id true, tx := none })).Perm
        (gathered (fun r => r.result.applied) s.runners ++ [id]) :=
      gathered_set_added hr rfl
    show (s0.effects ++ _).Perm (s.committed.effects ++ [id])
    refine (happlied.append_left s0.effects).trans ?_
    rw [← List.append_assoc]
    exact h.shared.append_right [id]

theorem Runner.uncommitted_some (htx : r.tx = some tx) :
    r.uncommitted = tx.2.recorded := by
  unfold Runner.uncommitted
  rw [htx]

theorem not_mem_of_not_waits {tx tx' : Tx Bool × Store} (h : s.waits tx tx' = false)
    (hempty : tx.2.recorded = []) (hinserted : tx'.2.recorded = [id]) :
    id ∉ gathered Runner.uncommitted s.runners := by
  intro hmem
  rcases List.mem_flatMap.mp hmem with ⟨r, hr, hid⟩
  have hwaits : s.waits tx tx' = true := by
    unfold System.waits
    rw [hempty, hinserted]
    simp only [List.any_cons, List.contains_nil, Bool.not_false, Bool.true_and, List.any_nil,
      Bool.or_false, List.any_eq_true, List.contains_iff_mem]
    exact ⟨r, hr, hid⟩
  rw [h] at hwaits
  cases hwaits

theorem Inv.statement (h : Inv migrations s0 s) (hr : s.runners[i]? = some r)
    (hat : RunnerAt migrations before s.committed r)
    (htodo : r.todo = id :: rest) (hfailure : r.failure = none)
    (htx : r.tx = some tx) (htxat : TxAt id tx) (hrunning : tx.1 ≠ .done false) (faults : Faults) :
    Inv migrations s0
      (if s.waits tx (txStep s.committed faults tx) then s
      else s.setRunner i { r with tx := some (txStep s.committed faults tx) }) := by
  have hmoves := txStep_moves htxat s.committed faults
  have hinside : RunnerAt migrations before s.committed
      { r with tx := some (txStep s.committed faults tx) } := by
    apply hat.inside htodo hfailure hmoves.reached
    intro hdone
    rcases hmoves.skips hdone with hbefore | hrecorded
    · exact absurd hbefore hrunning
    · exact hrecorded
  have hown := Runner.uncommitted_some htx
  split
  · exact h
  · rename_i hgoes
    rcases hmoves.inserted with hsame | ⟨hempty, hinserted, hnew⟩
    · exact h.set_same hr ⟨before, hinside⟩ rfl (hsame.trans hown.symm)
    · have hfree := not_mem_of_not_waits (by simpa using hgoes) hempty hinserted
      exact h.set_inserted hr ⟨before, hinside⟩ rfl (hown.trans hempty) hinserted hnew hfree

theorem Inv.txEvent (h : Inv migrations s0 s) (hnodup : migrations.Nodup)
    (hr : s.runners[i]? = some r) (hat : RunnerAt migrations before s.committed r)
    (htodo : r.todo = id :: rest) (hfailure : r.failure = none) (htx : r.tx = some tx)
    (faults : Faults) : Inv migrations s0 (s.txEvent i faults r id rest tx) := by
  have hfail : forall thrown, Inv migrations s0 (s.setRunner i (r.fail id thrown)) :=
    fun thrown => h.set_released hr ⟨_, hat.fail htodo thrown⟩ rfl rfl
  have hat' : TxAt id tx ∧ (tx.1 = .done false -> id ∈ s.committed.recorded) := by
    rcases hat.inTx tx htx with ⟨id', rest', htodo', htxat, hskips⟩
    rw [htodo] at htodo'
    cases htodo'
    exact ⟨htxat, hskips⟩
  have hstatement := fun hrunning =>
    h.statement hr hat htodo hfailure htx hat'.1 hrunning faults
  rcases hat' with ⟨htxat, hskips⟩
  cases htxat with
  | begun => exact hstatement (fun hdone => by cases hdone)
  | unapplied => exact hstatement (fun hdone => by cases hdone)
  | unrecorded => exact hstatement (fun hdone => by cases hdone)
  | recorded =>
      unfold System.txEvent
      cases faults.commit with
      | some thrown => exact hfail thrown
      | none =>
          exact h.commit hnodup hr hat htodo hfailure (Runner.uncommitted_some htx)
  | skipped =>
      unfold System.txEvent
      cases faults.commit with
      | some thrown => exact hfail thrown
      | none =>
          simp only [Store.merge_empty]
          exact h.skip hr hat htodo hfailure (hskips rfl)
  | thrown thrown own hown => exact hfail thrown

end Steps

theorem Inv.step {migrations : List String} {s0 : Store} {s : System}
    (h : Inv migrations s0 s) (hnodup : migrations.Nodup) (e : Event) :
    Inv migrations s0 (s.step migrations e) := by
  cases e with
  | start =>
      constructor
      · exact h.advanced
      · intro r hr
        rcases List.mem_append.mp hr with hmem | hmem
        · exact h.runners r hmem
        · rw [List.mem_singleton.mp hmem]
          exact ⟨[], runnerAt_start migrations s.committed⟩
      · show (gathered Runner.uncommitted (s.runners ++ [Runner.start migrations])).Nodup
        rw [gathered_append rfl]
        exact h.uncommitted
      · intro id hid
        change id ∈ gathered Runner.uncommitted (s.runners ++ [Runner.start migrations]) at hid
        rw [gathered_append rfl] at hid
        exact h.fresh id hid
      · show (s0.effects ++ gathered (fun r => r.result.applied)
          (s.runners ++ [Runner.start migrations])).Perm s.committed.effects
        rw [gathered_append rfl]
        exact h.shared
  | run i faults =>
      show Inv migrations s0 (System.runAt s i faults)
      unfold System.runAt
      cases hr : s.runners[i]? with
      | none => exact h
      | some r =>
          rcases h.runners r (List.mem_of_getElem? hr) with ⟨before, hat⟩
          show Inv migrations s0 (s.runEvent i faults r)
          unfold System.runEvent
          cases hfailure : r.failure with
          | some failure => exact h
          | none =>
              cases htodo : r.todo with
              | nil => exact h
              | cons id rest =>
                  cases htx : r.tx with
                  | some tx => exact h.txEvent hnodup hr hat htodo hfailure htx faults
                  | none =>
                      cases faults.begin with
                      | some thrown =>
                          exact h.set_released hr ⟨_, hat.fail htodo thrown⟩ rfl rfl
                      | none =>
                          have hbegun : RunnerAt migrations before s.committed
                              { r with tx := some (applyOne id, Store.empty) } :=
                            hat.inside htodo hfailure TxAt.begun (fun hdone => by cases hdone)
                          rw [htodo, hfailure] at hbegun
                          exact h.set_released hr ⟨_, hbegun⟩ rfl rfl

theorem inv_init (migrations : List String) (s0 : Store) :
    Inv migrations s0 (System.init s0) := by
  constructor
  · exact ⟨0, by simp [System.init]⟩
  · intro r hr
    cases hr
  · exact List.nodup_nil
  · intro id hid
    cases hid
  · simp [System.init, gathered]

theorem inv_after {migrations : List String} {s0 : Store} {s : System}
    (h : Inv migrations s0 s) (hnodup : migrations.Nodup) (events : List Event) :
    Inv migrations s0 (after (System.step migrations) s events) := by
  induction events generalizing s with
  | nil => exact h
  | cons e rest ih => exact ih (h.step hnodup e)

structure RunnerLaw (migrations : List String) (committed : Store) (r : Runner) :
    Prop where
  finished : r.todo = [] ->
    (r.result.applied ++ r.result.skipped).Perm migrations ∧
      r.result.applied.Sublist migrations ∧ r.result.skipped.Sublist migrations ∧
      forall id, id ∈ migrations -> id ∈ committed.effects
  failed : forall failure, r.failure = some failure ->
    exists before later, migrations = before ++ failure.migrationId :: later ∧
      (r.result.applied ++ r.result.skipped).Perm before ∧
      forall id, id ∈ before -> id ∈ committed.effects

theorem RunnerAt.law {migrations before : List String} {committed : Store} {r : Runner}
    (h : RunnerAt migrations before committed r) (hconsistent : Consistent committed) :
    RunnerLaw migrations committed r := by
  constructor
  · intro htodo
    have hall : migrations = before := by
      rw [h.split, htodo, List.append_nil]
    rw [hall]
    exact ⟨h.parts, h.applied, h.skipped,
      fun id hid => (hconsistent.recorded id).mp (h.passed id hid)⟩
  · intro failure hfailure
    rcases (h.failed failure hfailure).2 with ⟨later, htodo⟩
    refine ⟨before, later, by rw [h.split, htodo], h.parts, ?_⟩
    intro id hid
    exact (hconsistent.recorded id).mp (h.passed id hid)

open Tenancy in
/-- The laws of the runner: in reruns one after another, for any number of runners at the
same time, and for the databases of all tenants. -/
theorem migrations_exactlyOnce {migrations : List String} (hnodup : migrations.Nodup)
    {s0 : Store} (hs0 : Consistent s0) :
    (forall attempts,
      Consistent (after (attempt migrations) s0 attempts) ∧
        Advanced migrations s0 (after (attempt migrations) s0 attempts) ∧
        forall faults, Ends migrations MigrationResult.empty
          (after (attempt migrations) s0 attempts)
          (applyPending faults migrations (after (attempt migrations) s0 attempts))) ∧
      (forall events s, after (System.step migrations) (System.init s0) events = s ->
        Consistent s.committed ∧ Advanced migrations s0 s.committed ∧
          (s0.effects ++ gathered (fun r => r.result.applied) s.runners).Perm
            s.committed.effects ∧
          forall r, r ∈ s.runners -> RunnerLaw migrations s.committed r) ∧
      forall (faults : String -> String -> Faults) (tenants : Tenants)
        (databases : Databases) (name : String), databases name = s0 ->
          Consistent ((migrateAllTenants faults migrations tenants databases).2 name) ∧
            Advanced migrations s0
              ((migrateAllTenants faults migrations tenants databases).2 name) := by
  refine ⟨attempts_advance hnodup hs0, ?_, ?_⟩
  · intro events s hs
    have hinv : Inv migrations s0 s := by
      rw [← hs]
      exact inv_after (inv_init migrations s0) hnodup events
    have hconsistent := hinv.advanced.consistent hs0 hnodup
    refine ⟨hconsistent, hinv.advanced, hinv.shared, ?_⟩
    intro r hr
    rcases hinv.runners r hr with ⟨before, hat⟩
    exact hat.law hconsistent
  · intro faults tenants databases name hname
    have hadvanced := migrateTenants_advanced faults hnodup (listActive tenants) []
      (fun name => (⟨0, by simp⟩ : Advanced migrations (databases name) (databases name)))
      name
    rw [hname] at hadvanced
    exact ⟨hadvanced.consistent hs0 hnodup, hadvanced⟩

theorem consistent_empty : Consistent Store.empty := by
  constructor
  · exact List.nodup_nil
  · intro id
    exact Iff.rfl

/-- Two runners find a migration pending, and the one that inserts its id second fails. -/
def overtaken : List Event :=
  [.start, .start, .run 0 Faults.none, .run 0 Faults.none] ++
    List.replicate 5 (.run 1 Faults.none) ++ List.replicate 3 (.run 0 Faults.none)

theorem migrations_exactlyOnce_two :
    (after (System.step ["0001_baseline"]) (System.init Store.empty)
        overtaken).committed.effects = ["0001_baseline"] ∧
      Consistent (after (System.step ["0001_baseline"]) (System.init Store.empty)
        overtaken).committed :=
  ⟨rfl, ((migrations_exactlyOnce (by decide : ["0001_baseline"].Nodup)
    consistent_empty).2.1 _ _ rfl).1⟩

/-- A runner that fails leaves what was recorded before and the pending migrations before
the failed one. -/
def FailureLeaves (migrations : List String) (s0 : Store) (s : System) : Prop :=
  forall r, r ∈ s.runners -> forall failure, r.failure = some failure ->
    exists before later, migrations = before ++ failure.migrationId :: later ∧
      s.committed.effects = s0.effects ++ pending s0.recorded before

/-- The failed runner leaves the effect of the very migration that it failed at. -/
theorem failureLeaves_overtaken :
    Not (forall migrations s0 events, migrations.Nodup -> Consistent s0 ->
      FailureLeaves migrations s0
        (after (System.step migrations) (System.init s0) events)) := by
  intro h
  have hleaves := h ["0001_baseline"] Store.empty overtaken (by decide) consistent_empty
  have hfailed : exists r, r ∈ (after (System.step ["0001_baseline"])
        (System.init Store.empty) overtaken).runners ∧
      r.failure = some (migrationFailure "0001_baseline" SchemaMigrations.duplicateKey) :=
    ⟨_, List.Mem.head _, rfl⟩
  have heffects : (after (System.step ["0001_baseline"]) (System.init Store.empty)
      overtaken).committed.effects = ["0001_baseline"] := rfl
  rcases hfailed with ⟨r, hr, hfailure⟩
  rcases hleaves r hr _ hfailure with ⟨before, later, hsplit, hexact⟩
  rw [heffects] at hexact
  cases before with
  | nil => cases hexact
  | cons first rest =>
      rw [List.cons_append, List.cons.injEq] at hsplit
      have hrest := hsplit.2
      simp at hrest

end Migration
end ServerComponents
