import ServerComponents.DbSchema.CreateTable
import ServerComponents.DbSchema.SchemaCalls

/-!
# Runs of the foreign key manager

Which sequences of registrations leave a manager that answers with the parent
of every registration that it accepted.
-/

namespace ServerComponents
namespace DbSchema
namespace ForeignKeyManager

open Statements

def Succeeds (manager : ForeignKeyManager) (ref : ForeignKeyReference) : Prop :=
  exists manager', manager.addForeignKeyReference ref.parent ref.child ref.nullable = .ok manager'

/-- The manager after a call.  A call that throws leaves it as it was. -/
def called (manager : ForeignKeyManager) (ref : ForeignKeyReference) : ForeignKeyManager :=
  match manager.addForeignKeyReference ref.parent ref.child ref.nullable with
  | .ok manager' => manager'
  | .error _ => manager

/-- Every reference that the child already has is the one of the call. -/
def Repeats (manager : ForeignKeyManager) (ref : ForeignKeyReference) : Prop :=
  forall old, manager.find? ref.child = some old ->
    old.parent = ref.parent ∧ old.nullable = ref.nullable

/-- A call succeeds when, and only when, it contradicts no reference of its child. -/
def RefusesConflict (manager : ForeignKeyManager) (ref : ForeignKeyReference) : Prop :=
  manager.Succeeds ref ↔ manager.Repeats ref

/-- A reference that the child already has is the one of the call, or differs from it in the
table and in the column. -/
def ClearCut (manager : ForeignKeyManager) (ref : ForeignKeyReference) : Prop :=
  forall old, manager.find? ref.child = some old ->
    (old.parent = ref.parent ∧ old.nullable = ref.nullable) ∨
      (old.parent.tableName ≠ ref.parent.tableName ∧
        old.parent.columnName ≠ ref.parent.columnName)

/-- The lookups after the calls answer with the parent of every successful call. -/
def AnswersParents (calls : List ForeignKeyReference) : Prop :=
  forall pre ref post, calls = pre ++ ref :: post -> (after called empty pre).Succeeds ref ->
    (after called empty calls).getForeignReferenceOfField ref.child = some ref.parent

def Consistent (calls : List ForeignKeyReference) : Prop :=
  Along called RefusesConflict empty calls ∧ AnswersParents calls

/-!
## One call
-/

variable {manager : ForeignKeyManager}

theorem succeeds_of_new {ref : ForeignKeyReference} (hnew : manager.find? ref.child = none) :
    manager.Succeeds ref ∧ (manager.called ref).foreignKeyReferences =
      manager.foreignKeyReferences ++ [ref] := by
  rcases addForeignKeyReference_new hnew with ⟨manager', hadd, hreferences⟩
  refine ⟨⟨manager', hadd⟩, ?_⟩
  unfold called
  rw [hadd]
  exact hreferences

theorem succeeds_iff_of_present {ref old : ForeignKeyReference}
    (hold : manager.find? ref.child = some old) :
    manager.Succeeds ref ↔ Not (old.parent.tableName ≠ ref.parent.tableName ∧
      old.parent.columnName ≠ ref.parent.columnName) := by
  unfold Succeeds addForeignKeyReference
  split
  · rename_i found hfound
    obtain rfl : found = old := Option.some.inj (hfound.symm.trans hold)
    split
    · rename_i hboth
      exact ⟨fun ⟨_, h⟩ => (by cases h), fun h => absurd hboth h⟩
    · rename_i hnot
      exact ⟨fun _ => hnot, fun _ => ⟨manager, rfl⟩⟩
  · rename_i hnone
    rw [hold] at hnone
    cases hnone

theorem called_of_present {ref old : ForeignKeyReference}
    (hold : manager.find? ref.child = some old) : manager.called ref = manager := by
  unfold called
  split
  · rename_i manager' hadd
    exact addForeignKeyReference_present hold hadd
  · rfl

theorem find?_called {ref old : ForeignKeyReference}
    {child : TableColumnPair} (hold : manager.find? child = some old) :
    (manager.called ref).find? child = some old := by
  cases hfind : manager.find? ref.child with
  | some present => rwa [called_of_present hfind]
  | none =>
      unfold find? at hold ⊢
      rw [(succeeds_of_new hfind).2, List.find?_append, hold]
      rfl

theorem find?_child_called {ref : ForeignKeyReference} (hrepeats : manager.Repeats ref) :
    exists found, (manager.called ref).find? ref.child = some found ∧
      found.parent = ref.parent := by
  cases hfind : manager.find? ref.child with
  | some old => exact ⟨old, find?_called hfind, (hrepeats old hfind).1⟩
  | none =>
      refine ⟨ref, ?_, rfl⟩
      unfold find? at hfind ⊢
      rw [(succeeds_of_new hfind).2, List.find?_append, hfind]
      simp

theorem refusesConflict_iff (manager : ForeignKeyManager) (ref : ForeignKeyReference) :
    manager.RefusesConflict ref ↔ manager.ClearCut ref := by
  unfold RefusesConflict Repeats ClearCut
  cases hfind : manager.find? ref.child with
  | none =>
      have hsucceeds := (succeeds_of_new hfind).1
      simp [hsucceeds]
  | some old =>
      simp only [succeeds_iff_of_present hfind, Option.some.injEq, forall_eq']
      constructor
      · intro h
        by_cases hboth : old.parent.tableName ≠ ref.parent.tableName ∧
            old.parent.columnName ≠ ref.parent.columnName
        · exact Or.inr hboth
        · exact Or.inl (h.mp hboth)
      · rintro (hsame | hboth)
        · refine ⟨fun _ => hsame, fun _ hboth => ?_⟩
          rw [hsame.1] at hboth
          exact hboth.1 rfl
        · refine ⟨fun hnot => absurd hboth hnot, fun hsame => ?_⟩
          rw [hsame.1] at hboth
          exact absurd rfl hboth.1

/-!
## Sequences of calls
-/

theorem answersParents_of_clearCut {calls : List ForeignKeyReference}
    (hclear : Along called ClearCut empty calls) : AnswersParents calls := by
  intro pre ref post hcalls hsucceeds
  have hlaw := (refusesConflict_iff _ ref).mpr (hclear pre ref post hcalls)
  rcases find?_child_called (hlaw.mp hsucceeds) with ⟨found, hfound, hparent⟩
  have hkept : (after called ((after called empty pre).called ref) post).find? ref.child =
      some found :=
    @invariant_run _ _ called (fun manager => manager.find? ref.child = some found) _ post hfound
      fun _ _ h => find?_called h
  rw [hcalls, after_append, after_cons, getForeignReferenceOfField, hkept, Option.map_some,
    hparent]

theorem consistent_iff (calls : List ForeignKeyReference) :
    Consistent calls ↔ Along called ClearCut empty calls := by
  constructor
  · intro h
    exact h.1.mono fun manager ref => (refusesConflict_iff manager ref).mp
  · intro h
    exact ⟨h.mono fun manager ref => (refusesConflict_iff manager ref).mpr,
      answersParents_of_clearCut h⟩

/-- A reference to another column of the same table is accepted, and not found afterwards. -/
theorem otherColumn_notConsistent :
    Not (forall calls, Consistent calls) := by
  intro h
  have hclear := (h [⟨⟨"parents", "id"⟩, ⟨"children", "parent"⟩, false⟩,
    ⟨⟨"parents", "code"⟩, ⟨"children", "parent"⟩, false⟩]).2
      [⟨⟨"parents", "id"⟩, ⟨"children", "parent"⟩, false⟩] _ [] rfl ⟨_, rfl⟩
  exact absurd hclear (by decide)

end ForeignKeyManager
end DbSchema
end ServerComponents
