import ServerComponents.DbSchema.DatabaseInfo
import ServerComponents.Statements.Run

/-!
# Building a schema

A call that throws should leave the schema as it was, and each registered reference
should have its column.  Both fail together: a reference to a column that is there
already is registered before the column is refused.
-/

namespace ServerComponents
namespace DbSchema

open Control
open Statements

inductive SchemaCall where
  | addTable (tableName : String)
  | addColumnSimple (tableName columnName : String) (databaseType : DatabaseTypes)
  | addColumnPrimaryKey (tableName columnName : String) (databaseType : DatabaseTypes)
  | addColumnUnique (tableName columnName : String) (databaseType : DatabaseTypes)
  | addColumnNullable (tableName columnName : String) (databaseType : DatabaseTypes)
  | addColumnForeignKeyRef
      (tableNameParent columnNameParent tableNameChild columnNameChild : String)
  | addColumnForeignKeyRefNullable
      (tableNameParent columnNameParent tableNameChild columnNameChild : String)
  | addColumnNotNullableWithDefault (tableName columnName : String)
      (databaseType : DatabaseTypes) (defaultValue : String)
  | addUniqueConstraintHelper (tableName : String) (tableUniqueValues : TableUniqueValues)
  | addCheckConstraint (tableName name expression : String)

namespace SchemaCall

def run : SchemaCall -> Work DatabaseInfo Exn Unit
  | addTable tableName => DatabaseInfo.addTable tableName
  | addColumnSimple tableName columnName databaseType =>
      DatabaseInfo.addColumnSimple tableName columnName databaseType
  | addColumnPrimaryKey tableName columnName databaseType =>
      DatabaseInfo.addColumnPrimaryKey tableName columnName databaseType
  | addColumnUnique tableName columnName databaseType =>
      DatabaseInfo.addColumnUnique tableName columnName databaseType
  | addColumnNullable tableName columnName databaseType =>
      DatabaseInfo.addColumnNullable tableName columnName databaseType
  | addColumnForeignKeyRef tableNameParent columnNameParent tableNameChild columnNameChild =>
      DatabaseInfo.addColumnForeignKeyRef
        tableNameParent columnNameParent tableNameChild columnNameChild
  | addColumnForeignKeyRefNullable tableNameParent columnNameParent tableNameChild
      columnNameChild =>
      DatabaseInfo.addColumnForeignKeyRefNullable
        tableNameParent columnNameParent tableNameChild columnNameChild
  | addColumnNotNullableWithDefault tableName columnName databaseType defaultValue =>
      DatabaseInfo.addColumnNotNullableWithDefault tableName columnName databaseType
        defaultValue
  | addUniqueConstraintHelper tableName tableUniqueValues =>
      DatabaseInfo.addUniqueConstraintHelper tableName tableUniqueValues
  | addCheckConstraint tableName name expression =>
      DatabaseInfo.addCheckConstraint tableName name expression

/-- The schema after a call; the caller may have caught what the call threw. -/
def perform (d : DatabaseInfo) (call : SchemaCall) : DatabaseInfo :=
  (call.run d).2

def reference? : SchemaCall -> Option ForeignKeyReference
  | addColumnForeignKeyRef tableNameParent columnNameParent tableNameChild columnNameChild =>
      some ⟨⟨tableNameParent, columnNameParent⟩, ⟨tableNameChild, columnNameChild⟩, false⟩
  | addColumnForeignKeyRefNullable tableNameParent columnNameParent tableNameChild
      columnNameChild =>
      some ⟨⟨tableNameParent, columnNameParent⟩, ⟨tableNameChild, columnNameChild⟩, true⟩
  | _ => none

/-- A call that throws leaves the schema as it was. -/
def Atomic (d : DatabaseInfo) (call : SchemaCall) : Prop :=
  forall err, (call.run d).1 = .error err -> call.perform d = d

end SchemaCall

/-- The column of a reference is there, with the type and the nullability of it. -/
def ForeignKeyReference.HasColumn (d : DatabaseInfo) (ref : ForeignKeyReference) : Prop :=
  exists parent child, d.column ref.parent = .ok parent ∧ d.column ref.child = .ok child ∧
    child.databaseType = parent.databaseType.referenced ∧ child.nullable = ref.nullable

def DatabaseInfo.Consistent (d : DatabaseInfo) : Prop :=
  forall ref, ref ∈ d.foreignKeyManager.foreignKeyReferences -> ref.HasColumn d

/-- A reference from a column that is there already, though no reference is registered
for it. -/
def ForeignKeyReference.TakesColumn (d : DatabaseInfo) (ref : ForeignKeyReference) : Prop :=
  (exists parent, d.column ref.parent = .ok parent) ∧
    (exists child, d.column ref.child = .ok child) ∧
    d.foreignKeyManager.find? ref.child = none

def SchemaCall.NamesNewColumn (d : DatabaseInfo) (call : SchemaCall) : Prop :=
  forall ref, call.reference? = some ref -> Not (ref.TakesColumn d)

/-!
# Columns that are added
-/

variable {tableName : String}

section Columns

variable {d : DatabaseInfo} {tableInfo tableInfo' : TableInfo} {columnInfo : ColumnInfo}

/-- A change of a table that keeps its name and its columns. -/
structure TableInfo.Extends (tableInfo' tableInfo : TableInfo) : Prop where
  tableName : tableInfo'.tableName = tableInfo.tableName
  columns : forall name info, tableInfo.getColumn name = .ok info ->
    tableInfo'.getColumn name = .ok info

theorem TableInfo.addColumn_ok (h : TableInfo.addColumn columnInfo tableInfo = .ok tableInfo') :
    tableInfo'.Extends tableInfo ∧
      tableInfo'.getColumn columnInfo.columnName = .ok columnInfo := by
  unfold addColumn at h
  split at h
  · cases h
  · rename_i hnew
    cases h
    have hnone : tableInfo.columnInfoList.find?
        (fun info => decide (info.columnName = columnInfo.columnName)) = none := by
      refine List.find?_eq_none.mpr (fun info hinfo heq => hnew ?_)
      exact List.mem_map.mpr ⟨info, hinfo, by simpa using heq⟩
    constructor
    · refine ⟨rfl, fun name info hinfo => ?_⟩
      unfold getColumn at hinfo ⊢
      cases hfind : tableInfo.columnInfoList.find?
          (fun info => decide (info.columnName = name)) with
      | none =>
          rw [hfind] at hinfo
          cases hinfo
      | some info' =>
          rw [hfind] at hinfo
          simp only [List.find?_append, hfind, Option.some_or]
          exact hinfo
    · unfold getColumn
      simp [List.find?_append, hnone]

theorem TableInfo.addColumn_error {err : Exn}
    (h : TableInfo.addColumn columnInfo tableInfo = .error err) :
    exists info, tableInfo.getColumn columnInfo.columnName = .ok info := by
  unfold addColumn at h
  split at h
  · rename_i hmem
    rcases List.mem_map.mp hmem with ⟨info, hinfo, hname⟩
    unfold getColumn
    cases hfind : tableInfo.columnInfoList.find?
        (fun info => decide (info.columnName = columnInfo.columnName)) with
    | none =>
        have hnot := List.find?_eq_none.mp hfind info hinfo
        simp [hname] at hnot
    | some info' => exact ⟨info', rfl⟩
  · cases h

theorem TableInfo.addColumn_of_getColumn {info : ColumnInfo}
    (h : tableInfo.getColumn columnInfo.columnName = .ok info) :
    exists err, TableInfo.addColumn columnInfo tableInfo = .error err := by
  unfold getColumn at h
  cases hfind : tableInfo.columnInfoList.find?
      (fun info => decide (info.columnName = columnInfo.columnName)) with
  | none =>
      rw [hfind] at h
      cases h
  | some info' =>
      have hmem : columnInfo.columnName ∈ tableInfo.columnInfoList.map ColumnInfo.columnName :=
        List.mem_map.mpr ⟨info', List.mem_of_find?_eq_some hfind, by
          simpa using List.find?_some hfind⟩
      unfold addColumn
      rw [dif_pos hmem]
      exact ⟨_, rfl⟩

theorem TableInfo.addUniqueConstraintHelper_ok {tableUniqueValues : TableUniqueValues}
    (h : TableInfo.addUniqueConstraintHelper tableUniqueValues tableInfo = .ok tableInfo') :
    tableInfo'.Extends tableInfo := by
  unfold addUniqueConstraintHelper at h
  split at h
  · cases h
  · cases h
    exact ⟨rfl, fun _ _ hinfo => hinfo⟩

theorem TableInfo.addCheckConstraint_ok {name expression : String}
    (h : TableInfo.addCheckConstraint name expression tableInfo = .ok tableInfo') :
    tableInfo'.Extends tableInfo := by
  unfold addCheckConstraint at h
  split at h
  · cases h
  · cases h
    exact ⟨rfl, fun _ _ hinfo => hinfo⟩

namespace DatabaseInfo

theorem getTableInfo_ok (h : d.getTableInfo tableName = .ok tableInfo) :
    tableInfo.tableName = tableName := by
  unfold getTableInfo at h
  cases hfind : d.tableInfoList.find?
      (fun tableInfo => decide (tableInfo.tableName = tableName)) with
  | none =>
      rw [hfind] at h
      cases h
  | some t =>
      rw [hfind] at h
      cases h
      simpa using List.find?_some hfind

theorem getTableInfo_replaceTable {t : TableInfo}
    (ht : d.getTableInfo tableInfo.tableName = .ok t) :
    (d.replaceTable tableInfo).getTableInfo tableName =
      if tableName = tableInfo.tableName then .ok tableInfo else d.getTableInfo tableName := by
  have hsame : ((fun t : TableInfo => decide (t.tableName = tableName)) ∘
      fun t => if t.tableName = tableInfo.tableName then tableInfo else t) =
        fun t => decide (t.tableName = tableName) := by
    funext t
    by_cases h : t.tableName = tableInfo.tableName
    · simp [h]
    · simp [h]
  have htable := getTableInfo_ok ht
  unfold getTableInfo at ht ⊢
  rw [replaceTable, List.find?_map, hsame]
  by_cases hname : tableName = tableInfo.tableName
  · subst hname
    cases hfind : d.tableInfoList.find?
        (fun t => decide (t.tableName = tableInfo.tableName)) with
    | none =>
        rw [hfind] at ht
        cases ht
    | some t' =>
        rw [hfind] at ht
        cases ht
        simp [htable]
  · cases hfind : d.tableInfoList.find? (fun t => decide (t.tableName = tableName)) with
    | none => simp [hname]
    | some t' =>
        have htable' : t'.tableName = tableName := by simpa using List.find?_some hfind
        have hother : t'.tableName ≠ tableInfo.tableName := htable' ▸ hname
        simp [hother, hname]

theorem column_ok {field : TableColumnPair} {info : ColumnInfo} :
    d.column field = .ok info <->
      exists t, d.getTableInfo field.tableName = .ok t ∧
        t.getColumn field.columnName = .ok info := by
  constructor
  · intro h
    exact exceptBind_ok h
  · rintro ⟨t, ht, hinfo⟩
    unfold column
    rw [ht]
    exact hinfo

def Extends (d' d : DatabaseInfo) : Prop :=
  forall field info, d.column field = .ok info -> d'.column field = .ok info

theorem extends_replaceTable
    (ht : d.getTableInfo tableName = .ok tableInfo) (h : tableInfo'.Extends tableInfo) :
    (d.replaceTable tableInfo').Extends d := by
  intro field info hinfo
  have hname := getTableInfo_ok ht
  have ht' : d.getTableInfo tableInfo'.tableName = .ok tableInfo := by
    rw [h.tableName, hname]
    exact ht
  rcases column_ok.mp hinfo with ⟨t, hfield, hcolumn⟩
  refine column_ok.mpr ?_
  rw [getTableInfo_replaceTable ht']
  by_cases heq : field.tableName = tableInfo'.tableName
  · rw [heq, ht'] at hfield
    cases hfield
    exact ⟨tableInfo', by simp [heq], h.columns _ _ hcolumn⟩
  · exact ⟨t, by simp [heq, hfield], hcolumn⟩

theorem Extends.hasColumn {d' : DatabaseInfo} {ref : ForeignKeyReference}
    (h : d'.Extends d) (href : ref.HasColumn d) : ref.HasColumn d' := by
  rcases href with ⟨parent, child, hparent, hchild, htype, hnullable⟩
  exact ⟨parent, child, h _ _ hparent, h _ _ hchild, htype, hnullable⟩

end DatabaseInfo

end Columns

/-!
# What a call does
-/

section Calls

namespace DatabaseInfo

variable {a b : Type} {d : DatabaseInfo} {read : DatabaseInfo -> Except Exn a}
  {rest : a -> Work DatabaseInfo Exn b}

theorem reading_ok {value : a} (h : read d = .ok value) :
    ((reading read).bind rest) d = rest value d := by
  simp only [Work.bind, reading, h]

theorem reading_error {err : Exn} (h : read d = .error err) :
    ((reading read).bind rest) d = (.error err, d) := by
  simp only [Work.bind, reading, h]

theorem lift_ok {value : a} : ((lift (.ok value)).bind rest) d = rest value d := rfl

theorem lift_error {err : Exn} :
    ((lift (.error err)).bind rest) d = (.error err, d) := rfl

theorem alterTable_spec (d : DatabaseInfo) (tableName : String)
    (change : TableInfo -> Except Exn TableInfo) :
    (exists err, alterTable tableName change d = (.error err, d) ∧
      forall t, d.getTableInfo tableName = .ok t -> change t = .error err) ∨
      exists t t', d.getTableInfo tableName = .ok t ∧ change t = .ok t' ∧
        alterTable tableName change d = (.ok (), d.replaceTable t') := by
  unfold alterTable
  simp only [Work.bind_eq]
  cases htable : d.getTableInfo tableName with
  | error err =>
      rw [reading_error htable]
      exact Or.inl ⟨err, rfl, fun t ht => by cases ht⟩
  | ok t =>
      rw [reading_ok htable]
      cases hchange : change t with
      | error err =>
          rw [lift_error]
          refine Or.inl ⟨err, rfl, fun t' ht' => ?_⟩
          cases ht'
          exact hchange
      | ok t' =>
          rw [lift_ok]
          exact Or.inr ⟨t, t', rfl, hchange, rfl⟩

end DatabaseInfo

/-- A call has left the schema alone, or has kept its columns and its references. -/
def KeepsSchema (d : DatabaseInfo) (w : Work DatabaseInfo Exn Unit) : Prop :=
  (exists err, w d = (.error err, d)) ∨
    ((w d).1 = .ok () ∧ (w d).2.Extends d ∧
      (w d).2.foreignKeyManager = d.foreignKeyManager)

variable {d : DatabaseInfo}

theorem keepsSchema_alterTable {change : TableInfo -> Except Exn TableInfo}
    (hchange : forall t t', change t = .ok t' -> t'.Extends t) :
    KeepsSchema d (DatabaseInfo.alterTable tableName change) := by
  rcases DatabaseInfo.alterTable_spec d tableName change with ⟨err, h, _⟩ | ⟨t, t', ht, ht', h⟩
  · exact Or.inl ⟨err, h⟩
  · refine Or.inr ?_
    rw [h]
    exact ⟨rfl, DatabaseInfo.extends_replaceTable ht (hchange t t' ht'), rfl⟩

theorem keepsSchema_addTable :
    KeepsSchema d (DatabaseInfo.addTable tableName) := by
  unfold KeepsSchema DatabaseInfo.addTable
  by_cases hold : tableName ∈ d.tableInfoList.map TableInfo.tableName
  · rw [dif_pos hold]
    exact Or.inl ⟨_, rfl⟩
  · rw [dif_neg hold]
    refine Or.inr ⟨rfl, ?_, rfl⟩
    intro field info hinfo
    rcases DatabaseInfo.column_ok.mp hinfo with ⟨t, ht, hcolumn⟩
    refine DatabaseInfo.column_ok.mpr ⟨t, ?_, hcolumn⟩
    unfold DatabaseInfo.getTableInfo at ht ⊢
    cases hfind : d.tableInfoList.find?
        (fun tableInfo => decide (tableInfo.tableName = field.tableName)) with
    | none =>
        rw [hfind] at ht
        cases ht
    | some t' =>
        rw [hfind] at ht
        simp only [List.find?_append, hfind, Option.some_or]
        exact ht

theorem keepsSchema_addColumn {columnInfo : ColumnInfo} :
    KeepsSchema d (DatabaseInfo.alterTable tableName (TableInfo.addColumn columnInfo)) :=
  keepsSchema_alterTable (fun _ _ h => (TableInfo.addColumn_ok h).1)

theorem SchemaCall.keepsSchema {call : SchemaCall}
    (h : call.reference? = none) : KeepsSchema d call.run := by
  cases call with
  | addTable tableName => exact keepsSchema_addTable
  | addColumnSimple tableName columnName databaseType => exact keepsSchema_addColumn
  | addColumnPrimaryKey tableName columnName databaseType => exact keepsSchema_addColumn
  | addColumnUnique tableName columnName databaseType => exact keepsSchema_addColumn
  | addColumnNullable tableName columnName databaseType => exact keepsSchema_addColumn
  | addColumnForeignKeyRef tableNameParent columnNameParent tableNameChild columnNameChild =>
      cases h
  | addColumnForeignKeyRefNullable tableNameParent columnNameParent tableNameChild
      columnNameChild =>
      cases h
  | addColumnNotNullableWithDefault tableName columnName databaseType defaultValue =>
      exact keepsSchema_addColumn
  | addUniqueConstraintHelper tableName tableUniqueValues =>
      exact keepsSchema_alterTable (fun _ _ h => TableInfo.addUniqueConstraintHelper_ok h)
  | addCheckConstraint tableName name expression =>
      exact keepsSchema_alterTable (fun _ _ h => TableInfo.addCheckConstraint_ok h)

variable {ref : ForeignKeyReference}

theorem SchemaCall.run_of_reference {call : SchemaCall} (h : call.reference? = some ref) :
    call.run = DatabaseInfo.addReferencingColumn ref.parent ref.child ref.nullable := by
  cases call <;> cases h <;> rfl

/-!
# What a reference does
-/

theorem addForeignKeyReference_new {manager : ForeignKeyManager}
    (h : manager.find? ref.child = none) :
    exists manager', manager.addForeignKeyReference ref.parent ref.child ref.nullable =
        .ok manager' ∧
      manager'.foreignKeyReferences = manager.foreignKeyReferences ++ [ref] := by
  unfold ForeignKeyManager.addForeignKeyReference
  split
  · rename_i old hold
    rw [h] at hold
    cases hold
  · exact ⟨_, rfl, rfl⟩

theorem addForeignKeyReference_present {manager manager' : ForeignKeyManager}
    {ref old : ForeignKeyReference} (hold : manager.find? ref.child = some old)
    (h : manager.addForeignKeyReference ref.parent ref.child ref.nullable = .ok manager') :
    manager' = manager := by
  unfold ForeignKeyManager.addForeignKeyReference at h
  split at h
  · split at h
    · cases h
    · cases h
      rfl
  · rename_i hnone
    rw [hold] at hnone
    cases hnone

def ForeignKeyReference.columnInfo (ref : ForeignKeyReference) (parent : ColumnInfo) :
    ColumnInfo where
  columnName := ref.child.columnName
  databaseType := parent.databaseType.referenced
  nullable := ref.nullable

theorem addReferencingColumn_eq {parent : ColumnInfo} {t : TableInfo} {manager : ForeignKeyManager}
    (hparent : d.column ref.parent = .ok parent)
    (hchild : d.getTableInfo ref.child.tableName = .ok t)
    (hadd : d.foreignKeyManager.addForeignKeyReference ref.parent ref.child ref.nullable =
      .ok manager) :
    DatabaseInfo.addReferencingColumn ref.parent ref.child ref.nullable d =
      DatabaseInfo.alterTable ref.child.tableName (TableInfo.addColumn (ref.columnInfo parent))
        { d with foreignKeyManager := manager } := by
  rcases DatabaseInfo.column_ok.mp hparent with ⟨tableInfoParent, htable, hcolumn⟩
  unfold DatabaseInfo.addReferencingColumn
  simp only [Work.bind_eq]
  rw [DatabaseInfo.reading_ok htable, DatabaseInfo.reading_ok hchild, hcolumn,
    DatabaseInfo.lift_ok, DatabaseInfo.reading_ok hadd]
  rfl

theorem addReferencingColumn_spec (d : DatabaseInfo) (ref : ForeignKeyReference) :
    (exists err, DatabaseInfo.addReferencingColumn ref.parent ref.child ref.nullable d =
      (.error err, d)) ∨
    exists parent t manager, d.column ref.parent = .ok parent ∧
      d.getTableInfo ref.child.tableName = .ok t ∧
      d.foreignKeyManager.addForeignKeyReference ref.parent ref.child ref.nullable =
        .ok manager := by
  unfold DatabaseInfo.addReferencingColumn
  simp only [Work.bind_eq]
  cases hparent : d.getTableInfo ref.parent.tableName with
  | error err =>
      rw [DatabaseInfo.reading_error hparent]
      exact Or.inl ⟨err, rfl⟩
  | ok tableInfoParent =>
      rw [DatabaseInfo.reading_ok hparent]
      cases hchild : d.getTableInfo ref.child.tableName with
      | error err =>
          rw [DatabaseInfo.reading_error hchild]
          exact Or.inl ⟨err, rfl⟩
      | ok t =>
          rw [DatabaseInfo.reading_ok hchild]
          cases hcolumn : tableInfoParent.getColumn ref.parent.columnName with
          | error err => exact Or.inl ⟨err, DatabaseInfo.lift_error⟩
          | ok parent =>
              have hfound : d.column ref.parent = .ok parent :=
                DatabaseInfo.column_ok.mpr ⟨tableInfoParent, hparent, hcolumn⟩
              rw [DatabaseInfo.lift_ok]
              cases hadd : d.foreignKeyManager.addForeignKeyReference ref.parent ref.child
                  ref.nullable with
              | error err =>
                  rw [DatabaseInfo.reading_error hadd]
                  exact Or.inl ⟨err, rfl⟩
              | ok manager => exact Or.inr ⟨parent, t, manager, hfound, rfl, rfl⟩

theorem addReferencingColumn_takes (h : ref.TakesColumn d) :
    exists err, (DatabaseInfo.addReferencingColumn ref.parent ref.child ref.nullable d).1 =
        .error err ∧
      (DatabaseInfo.addReferencingColumn ref.parent ref.child ref.nullable
        d).2.foreignKeyManager.foreignKeyReferences =
          d.foreignKeyManager.foreignKeyReferences ++ [ref] := by
  rcases h with ⟨⟨parent, hparent⟩, ⟨child, hchild⟩, hnone⟩
  rcases DatabaseInfo.column_ok.mp hchild with ⟨t, ht, hcolumn⟩
  rcases addForeignKeyReference_new hnone with ⟨manager, hadd, hreferences⟩
  rw [addReferencingColumn_eq hparent ht hadd]
  rcases DatabaseInfo.alterTable_spec { d with foreignKeyManager := manager }
      ref.child.tableName (TableInfo.addColumn (ref.columnInfo parent)) with
    ⟨err, hrun, _⟩ | ⟨t', t'', ht', hadded, _⟩
  · rw [hrun]
    exact ⟨err, rfl, hreferences⟩
  · have htable : t' = t := Except.ok.inj (ht'.symm.trans ht)
    have hrefused : exists err,
        TableInfo.addColumn (ref.columnInfo parent) t' = .error err :=
      TableInfo.addColumn_of_getColumn (htable ▸ hcolumn)
    rcases hrefused with ⟨err, hrefused⟩
    rw [hadded] at hrefused
    cases hrefused

/-- Any other reference is refused, or it is registered and has its column, or a reference
for its child was there although its column was not. -/
theorem addReferencingColumn_new (h : Not (ref.TakesColumn d)) :
    (exists err, DatabaseInfo.addReferencingColumn ref.parent ref.child ref.nullable d =
      (.error err, d)) ∨
    exists d', DatabaseInfo.addReferencingColumn ref.parent ref.child ref.nullable d =
        (.ok (), d') ∧ d'.Extends d ∧
      ((exists old, d.foreignKeyManager.find? ref.child = some old ∧
          forall child, Not (d.column ref.child = .ok child)) ∨
        (d'.foreignKeyManager.foreignKeyReferences =
          d.foreignKeyManager.foreignKeyReferences ++ [ref] ∧ ref.HasColumn d')) := by
  rcases addReferencingColumn_spec d ref with hrefused | ⟨parent, t, manager, hparent, ht, hadd⟩
  · exact Or.inl hrefused
  · rw [addReferencingColumn_eq hparent ht hadd]
    rcases DatabaseInfo.alterTable_spec { d with foreignKeyManager := manager }
        ref.child.tableName (TableInfo.addColumn (ref.columnInfo parent)) with
      ⟨err, hrun, hchange⟩ | ⟨t', t'', ht', hadded, hrun⟩
    · rcases TableInfo.addColumn_error (hchange t ht) with ⟨child, hchild⟩
      have hfound : d.column ref.child = .ok child :=
        DatabaseInfo.column_ok.mpr ⟨t, ht, hchild⟩
      cases hfind : d.foreignKeyManager.find? ref.child with
      | none => exact absurd ⟨⟨parent, hparent⟩, ⟨child, hfound⟩, hfind⟩ h
      | some old =>
          rw [addForeignKeyReference_present hfind hadd] at hrun ⊢
          exact Or.inl ⟨err, hrun⟩
    · have hextends : DatabaseInfo.Extends
          (DatabaseInfo.replaceTable { d with foreignKeyManager := manager } t'') d :=
        DatabaseInfo.extends_replaceTable ht' (TableInfo.addColumn_ok hadded).1
      refine Or.inr ⟨_, hrun, hextends, ?_⟩
      cases hfind : d.foreignKeyManager.find? ref.child with
      | some old =>
          refine Or.inl ⟨old, rfl, fun child hchild => ?_⟩
          rcases DatabaseInfo.column_ok.mp hchild with ⟨t0, ht0, hcolumn⟩
          have htable : t' = t0 := Except.ok.inj (ht'.symm.trans ht0)
          have hrefused : exists err,
              TableInfo.addColumn (ref.columnInfo parent) t' = .error err :=
            TableInfo.addColumn_of_getColumn (htable ▸ hcolumn)
          rcases hrefused with ⟨err, hrefused⟩
          rw [hadded] at hrefused
          cases hrefused
      | none =>
          rcases addForeignKeyReference_new hfind with ⟨manager', hadd', hreferences⟩
          have hmanager : manager' = manager := Except.ok.inj (hadd'.symm.trans hadd)
          have hcolumn := (TableInfo.addColumn_ok hadded).2
          refine Or.inr ⟨hmanager ▸ hreferences, parent, ref.columnInfo parent,
            hextends _ _ hparent, ?_, rfl, rfl⟩
          have hname := (TableInfo.addColumn_ok hadded).1.tableName
          have htable := DatabaseInfo.getTableInfo_ok ht'
          have ht'' : DatabaseInfo.getTableInfo { d with foreignKeyManager := manager }
              t''.tableName = .ok t' := by
            rw [hname, htable]
            exact ht'
          refine DatabaseInfo.column_ok.mpr ⟨t'', ?_, hcolumn⟩
          rw [DatabaseInfo.getTableInfo_replaceTable ht'', if_pos (by rw [hname, htable])]

end Calls

/-!
# Runs of calls
-/

section SchemaRuns

variable {d : DatabaseInfo} {call : SchemaCall}

theorem KeepsSchema.atomic (h : KeepsSchema d call.run) : call.Atomic d := by
  intro err herr
  rcases h with ⟨err', hrun⟩ | ⟨hok, _, _⟩
  · unfold SchemaCall.perform
    rw [hrun]
  · rw [hok] at herr
    cases herr

theorem SchemaCall.atomic_iff : call.Atomic d <-> call.NamesNewColumn d := by
  constructor
  · intro hatomic ref href htakes
    rcases addReferencingColumn_takes htakes with ⟨err, herr, hreferences⟩
    rw [← SchemaCall.run_of_reference href] at herr hreferences
    have hsame : (call.run d).2 = d := hatomic err herr
    rw [hsame] at hreferences
    have hlength := congrArg List.length hreferences
    simp at hlength
  · intro hnew
    cases href : call.reference? with
    | none => exact KeepsSchema.atomic (SchemaCall.keepsSchema href)
    | some ref =>
        intro err herr
        unfold SchemaCall.perform
        rw [SchemaCall.run_of_reference href] at herr ⊢
        rcases addReferencingColumn_new (hnew ref href) with ⟨err', hrun⟩ | ⟨d', hrun, _⟩
        · rw [hrun]
        · rw [hrun] at herr
          cases herr

theorem DatabaseInfo.Consistent.childColumn {ref old : ForeignKeyReference}
    (h : d.Consistent) (hold : d.foreignKeyManager.find? ref.child = some old) :
    exists child, d.column ref.child = .ok child := by
  rcases h old (List.mem_of_find?_eq_some hold) with ⟨_, child, _, hchild, _⟩
  have hname : old.child = ref.child := by simpa using List.find?_some hold
  exact ⟨child, hname ▸ hchild⟩

theorem SchemaCall.consistent_perform (h : d.Consistent) (hnew : call.NamesNewColumn d) :
    (call.perform d).Consistent := by
  unfold SchemaCall.perform
  cases href : call.reference? with
  | none =>
      rcases SchemaCall.keepsSchema (d := d) href with ⟨err, hrun⟩ | ⟨_, hextends, hmanager⟩
      · rw [hrun]
        exact h
      · intro ref hmem
        rw [hmanager] at hmem
        exact hextends.hasColumn (h ref hmem)
  | some ref =>
      rw [SchemaCall.run_of_reference href]
      rcases addReferencingColumn_new (hnew ref href) with
        ⟨err, hrun⟩ | ⟨d', hrun, hextends, hold | ⟨hreferences, hcolumn⟩⟩
      · rw [hrun]
        exact h
      · rcases hold with ⟨old, hfind, habsent⟩
        rcases DatabaseInfo.Consistent.childColumn h hfind with ⟨child, hchild⟩
        exact absurd hchild (habsent child)
      · rw [hrun]
        intro ref' hmem
        rw [hreferences] at hmem
        rcases List.mem_append.mp hmem with hmem | hmem
        · exact hextends.hasColumn (h ref' hmem)
        · rw [List.mem_singleton.mp hmem]
          exact hcolumn

theorem consistent_empty (databaseName : String) :
    (DatabaseInfo.empty databaseName).Consistent := by
  intro ref hmem
  cases hmem

/-- A run of calls is atomic and consistent throughout exactly when none of its references
takes a column that was there. -/
theorem schemaBuilding (databaseName : String) (calls : List SchemaCall) :
    Along SchemaCall.perform
        (fun d call => call.Atomic d ∧ (call.perform d).Consistent)
        (DatabaseInfo.empty databaseName) calls <->
      Along SchemaCall.perform (fun d call => call.NamesNewColumn d)
        (DatabaseInfo.empty databaseName) calls := by
  constructor
  · intro h
    exact h.mono (fun d call hcall => SchemaCall.atomic_iff.mp hcall.1)
  · intro h pre call post hcalls
    have hpre : Along SchemaCall.perform (fun d call => call.NamesNewColumn d)
        (DatabaseInfo.empty databaseName) pre := by
      rw [hcalls, along_append] at h
      exact h.1
    have hconsistent := invariant_after (consistent_empty databaseName)
      (fun d call hd hcall => SchemaCall.consistent_perform hd hcall) hpre
    have hnew := h pre call post hcalls
    exact ⟨SchemaCall.atomic_iff.mpr hnew, SchemaCall.consistent_perform hconsistent hnew⟩

/-- The column of a text is there before it is to reference the people. -/
def takenColumn : List SchemaCall :=
  [.addTable "people", .addColumnPrimaryKey "people" "id" .serial, .addTable "orders",
    .addColumnSimple "orders" "buyer" .string,
    .addColumnForeignKeyRef "people" "id" "orders" "buyer"]

theorem schemaBuilding_takenColumn :
    Not (forall databaseName calls, Along SchemaCall.perform
      (fun d call => call.Atomic d ∧ (call.perform d).Consistent)
      (DatabaseInfo.empty databaseName) calls) := by
  intro h
  have hlast := (h "shop" takenColumn (takenColumn.take 4)
    (.addColumnForeignKeyRef "people" "id" "orders" "buyer") [] rfl).1
  have hthrows : exists err, ((SchemaCall.addColumnForeignKeyRef "people" "id" "orders"
      "buyer").run (after SchemaCall.perform (DatabaseInfo.empty "shop")
        (takenColumn.take 4))).1 = .error err := ⟨_, rfl⟩
  rcases hthrows with ⟨err, herr⟩
  have hsame := congrArg (fun d => d.foreignKeyManager.foreignKeyReferences)
    (hlast err herr)
  revert hsame
  decide

end SchemaRuns

end DbSchema
end ServerComponents
