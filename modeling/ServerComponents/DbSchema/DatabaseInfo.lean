import ServerComponents.Basics
import ServerComponents.Control.Work
import Mathlib.Data.List.Nodup

/-!
# Database schemas

A `DatabaseInfo` is built table by table and column by column.  The columns stand in
their tables and the references between them in a foreign-key manager, so one call may
change two structures.  What a call has changed before it throws stays changed.
-/

namespace ServerComponents
namespace DbSchema

open Control

theorem nodup_map_append {a b : Type} {name : a -> b} {l : List a} {x : a}
    (h : (l.map name).Nodup) (hnew : name x ∉ l.map name) :
    ((l ++ [x]).map name).Nodup := by
  rw [List.map_append, List.map_singleton, ← List.concat_eq_append]
  exact h.concat hnew

inductive DatabaseTypes where
  | int
  | serial
  | bool
  | double
  | string
  | json
  | bytes
  | date
  | time
  | uuid
  | null
  | timestamp
  | timestamptz
  | bigint
  | bigserial
  | citext
  deriving Repr, DecidableEq

/-- A reference to an auto increment has the type of its numbers. -/
def DatabaseTypes.referenced : DatabaseTypes -> DatabaseTypes
  | .serial => .int
  | .bigserial => .bigint
  | databaseType => databaseType

structure ColumnInfo where
  columnName : String
  databaseType : DatabaseTypes
  primaryKey : Bool := false
  unique : Bool := false
  nullable : Bool := false
  defaultValue : String := ""
  deriving Repr, DecidableEq

structure TableUniqueValues where
  name : String
  columns : List String
  deriving Repr, DecidableEq

structure TableCheckConstraint where
  name : String
  expression : String
  deriving Repr, DecidableEq

/-- A table, whose columns have different names. -/
structure TableInfo where
  tableName : String
  columnInfoList : List ColumnInfo
  tableUniqueValuesArray : List TableUniqueValues
  tableCheckConstraintArray : List TableCheckConstraint
  distinct : (columnInfoList.map ColumnInfo.columnName).Nodup
  deriving Repr, DecidableEq

namespace TableInfo

def empty (tableName : String) : TableInfo where
  tableName := tableName
  columnInfoList := []
  tableUniqueValuesArray := []
  tableCheckConstraintArray := []
  distinct := List.nodup_nil

def getColumn (tableInfo : TableInfo) (columnName : String) : Except Exn ColumnInfo :=
  match tableInfo.columnInfoList.find? (fun info => decide (info.columnName = columnName)) with
  | some info => .ok info
  | none =>
      .error (.invalidArgument
        ("TableInfoImpl::GetColumn column(" ++ columnName ++ ") not found."))

def addColumn (columnInfo : ColumnInfo) (tableInfo : TableInfo) : Except Exn TableInfo :=
  if h : columnInfo.columnName ∈ tableInfo.columnInfoList.map ColumnInfo.columnName then
    .error (.invalidArgument
      ("TableInfoImpl::AddColumn - column(" ++ columnInfo.columnName ++ ") already exists."))
  else
    .ok { tableInfo with
      columnInfoList := tableInfo.columnInfoList ++ [columnInfo]
      distinct := nodup_map_append tableInfo.distinct h }

def addUniqueConstraintHelper (tableUniqueValues : TableUniqueValues)
    (tableInfo : TableInfo) : Except Exn TableInfo :=
  if tableUniqueValues.columns = [] then
    .error (.invalidArgument
      ("TableInfoImpl::AddUniqueConstraintHelper - " ++
        "unique constraint must have at least one column."))
  else
    .ok { tableInfo with
      tableUniqueValuesArray := tableInfo.tableUniqueValuesArray ++ [tableUniqueValues] }

def addCheckConstraint (name expression : String) (tableInfo : TableInfo) :
    Except Exn TableInfo :=
  if expression = "" then
    .error (.invalidArgument
      ("TableInfoImpl::AddCheckConstraint - " ++
        "check constraint must have a non-empty expression."))
  else
    .ok { tableInfo with
      tableCheckConstraintArray :=
        tableInfo.tableCheckConstraintArray ++ [⟨name, expression⟩] }

end TableInfo

structure TableColumnPair where
  tableName : String
  columnName : String
  deriving Repr, DecidableEq

structure ForeignKeyReference where
  parent : TableColumnPair
  child : TableColumnPair
  nullable : Bool
  deriving Repr, DecidableEq

/-- The references, at most one for a child. -/
structure ForeignKeyManager where
  foreignKeyReferences : List ForeignKeyReference
  distinct : (foreignKeyReferences.map ForeignKeyReference.child).Nodup
  deriving Repr, DecidableEq

namespace ForeignKeyManager

def empty : ForeignKeyManager where
  foreignKeyReferences := []
  distinct := List.nodup_nil

def find? (manager : ForeignKeyManager) (child : TableColumnPair) :
    Option ForeignKeyReference :=
  manager.foreignKeyReferences.find? (fun ref => decide (ref.child = child))

theorem child_not_mem {manager : ForeignKeyManager} {child : TableColumnPair}
    (h : manager.find? child = none) :
    child ∉ manager.foreignKeyReferences.map ForeignKeyReference.child := by
  intro hmem
  rcases List.mem_map.mp hmem with ⟨ref, href, hchild⟩
  have hnot := List.find?_eq_none.mp h ref href
  simp [hchild] at hnot

/-- A child that is present is refused only when both names of its parent differ. -/
def addForeignKeyReference (manager : ForeignKeyManager) (parent child : TableColumnPair)
    (nullable : Bool) : Except Exn ForeignKeyManager :=
  match h : manager.find? child with
  | some ref =>
      if ref.parent.tableName ≠ parent.tableName ∧
          ref.parent.columnName ≠ parent.columnName then
        .error (.invalidArgument
          ("ForeignKeyManagerImpl::AddForeignKeyReference child(" ++ child.tableName ++
            ", " ++ child.columnName ++ ") is already present for (" ++
            ref.parent.tableName ++ ", " ++ ref.parent.columnName ++
            ") and trying to add (" ++ parent.tableName ++ ", " ++ parent.columnName ++ ")"))
      else .ok manager
  | none =>
      .ok { foreignKeyReferences := manager.foreignKeyReferences ++ [⟨parent, child, nullable⟩]
            distinct := nodup_map_append manager.distinct (child_not_mem h) }

end ForeignKeyManager

/-- A schema, whose tables have different names. -/
structure DatabaseInfo where
  databaseName : String
  tableInfoList : List TableInfo
  foreignKeyManager : ForeignKeyManager
  distinct : (tableInfoList.map TableInfo.tableName).Nodup
  deriving Repr, DecidableEq

namespace DatabaseInfo

def empty (databaseName : String) : DatabaseInfo where
  databaseName := databaseName
  tableInfoList := []
  foreignKeyManager := ForeignKeyManager.empty
  distinct := List.nodup_nil

def getTableInfo (d : DatabaseInfo) (tableName : String) : Except Exn TableInfo :=
  match d.tableInfoList.find? (fun tableInfo => decide (tableInfo.tableName = tableName)) with
  | some tableInfo => .ok tableInfo
  | none =>
      .error (.invalidArgument
        ("DatabaseInfoImpl::GetTableInfo - table not found: " ++ tableName))

def column (d : DatabaseInfo) (field : TableColumnPair) : Except Exn ColumnInfo := do
  let tableInfo ← d.getTableInfo field.tableName
  tableInfo.getColumn field.columnName

theorem map_replace_tableName (tables : List TableInfo) (tableInfo : TableInfo) :
    (tables.map (fun t => if t.tableName = tableInfo.tableName then tableInfo else t)).map
      TableInfo.tableName = tables.map TableInfo.tableName := by
  rw [List.map_map]
  refine List.map_congr_left (fun t _ => ?_)
  by_cases h : t.tableName = tableInfo.tableName
  · simp [h]
  · simp [h]

def replaceTable (d : DatabaseInfo) (tableInfo : TableInfo) : DatabaseInfo :=
  { d with
    tableInfoList := d.tableInfoList.map
      (fun t => if t.tableName = tableInfo.tableName then tableInfo else t)
    distinct := by
      rw [map_replace_tableName]
      exact d.distinct }

def reading {a : Type} (read : DatabaseInfo -> Except Exn a) : Work DatabaseInfo Exn a :=
  fun d => (read d, d)

def lift {a : Type} (result : Except Exn a) : Work DatabaseInfo Exn a :=
  fun d => (result, d)

/-- What changes one table, through the reference that `GetTableInfo` gives. -/
def alterTable (tableName : String) (change : TableInfo -> Except Exn TableInfo) :
    Work DatabaseInfo Exn Unit := do
  let tableInfo ← reading (fun d => d.getTableInfo tableName)
  let tableInfo' ← lift (change tableInfo)
  Work.modify (fun d => d.replaceTable tableInfo')

def addTable (tableName : String) : Work DatabaseInfo Exn Unit :=
  fun d =>
    if h : tableName ∈ d.tableInfoList.map TableInfo.tableName then
      (.error (.invalidArgument
        ("DatabaseInfoImpl::AddTable - table already exists: " ++ tableName)), d)
    else
      (.ok (), { d with
        tableInfoList := d.tableInfoList ++ [TableInfo.empty tableName]
        distinct := nodup_map_append d.distinct h })

def addColumnSimple (tableName columnName : String) (databaseType : DatabaseTypes) :
    Work DatabaseInfo Exn Unit :=
  alterTable tableName
    (TableInfo.addColumn { columnName := columnName, databaseType := databaseType })

def addColumnPrimaryKey (tableName columnName : String) (databaseType : DatabaseTypes) :
    Work DatabaseInfo Exn Unit :=
  alterTable tableName
    (TableInfo.addColumn
      { columnName := columnName, databaseType := databaseType, primaryKey := true })

def addColumnUnique (tableName columnName : String) (databaseType : DatabaseTypes) :
    Work DatabaseInfo Exn Unit :=
  alterTable tableName
    (TableInfo.addColumn
      { columnName := columnName, databaseType := databaseType, unique := true })

def addColumnNullable (tableName columnName : String) (databaseType : DatabaseTypes) :
    Work DatabaseInfo Exn Unit :=
  alterTable tableName
    (TableInfo.addColumn
      { columnName := columnName, databaseType := databaseType, nullable := true })

/-- A column that references another: it is registered first and added to its table then. -/
def addReferencingColumn (parent child : TableColumnPair) (nullable : Bool) :
    Work DatabaseInfo Exn Unit := do
  let tableInfoParent ← reading (fun d => d.getTableInfo parent.tableName)
  let _ ← reading (fun d => d.getTableInfo child.tableName)
  let columnInfoParent ← lift (tableInfoParent.getColumn parent.columnName)
  let foreignKeyManager ← reading (fun d =>
    d.foreignKeyManager.addForeignKeyReference parent child nullable)
  Work.modify (fun d => { d with foreignKeyManager := foreignKeyManager })
  alterTable child.tableName
    (TableInfo.addColumn
      { columnName := child.columnName
        databaseType := columnInfoParent.databaseType.referenced
        nullable := nullable })

def addColumnForeignKeyRef
    (tableNameParent columnNameParent tableNameChild columnNameChild : String) :
    Work DatabaseInfo Exn Unit :=
  addReferencingColumn ⟨tableNameParent, columnNameParent⟩
    ⟨tableNameChild, columnNameChild⟩ false

def addColumnForeignKeyRefNullable
    (tableNameParent columnNameParent tableNameChild columnNameChild : String) :
    Work DatabaseInfo Exn Unit :=
  addReferencingColumn ⟨tableNameParent, columnNameParent⟩
    ⟨tableNameChild, columnNameChild⟩ true

def addColumnNotNullableWithDefault (tableName columnName : String)
    (databaseType : DatabaseTypes) (defaultValue : String) : Work DatabaseInfo Exn Unit :=
  alterTable tableName
    (TableInfo.addColumn
      { columnName := columnName, databaseType := databaseType,
        defaultValue := defaultValue })

def addUniqueConstraintHelper (tableName : String) (tableUniqueValues : TableUniqueValues) :
    Work DatabaseInfo Exn Unit :=
  alterTable tableName (TableInfo.addUniqueConstraintHelper tableUniqueValues)

def addCheckConstraint (tableName name expression : String) : Work DatabaseInfo Exn Unit :=
  alterTable tableName (TableInfo.addCheckConstraint name expression)

end DatabaseInfo

end DbSchema
end ServerComponents
