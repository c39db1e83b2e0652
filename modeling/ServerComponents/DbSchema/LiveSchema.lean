import ServerComponents.DbSchema.DatabaseInfo
import ServerComponents.Relational.SortedMap
import Mathlib.Data.String.Basic

/-!
# The live schema

What a database answers to the queries about its own schema.  The foreign keys are not
read from one place: a query joins the columns that constraints are on, the constraints,
and the columns that constraints use, on the constraint's name alone.
-/

namespace ServerComponents
namespace DbSchema

open Relational

/-- A column as `ListColumns` gives it. -/
structure DatabaseColumnInfo where
  columnName : String
  dataType : String
  udtName : String
  primaryKey : Bool
  unique : Bool
  deriving Repr, DecidableEq

def kPrimaryLookup : List (String × DatabaseTypes) :=
  [("BOOL", .bool), ("BOOLEAN", .bool), ("BYTEA", .bytes), ("CHARACTER VARYING", .string),
    ("VARCHAR", .string), ("DATE", .date), ("DOUBLE PRECISION", .double), ("FLOAT8", .double),
    ("INTEGER", .int), ("INT", .int), ("INT4", .int), ("JSON", .json), ("SERIAL", .serial),
    ("SERIAL4", .serial), ("TEXT", .string), ("TIME WITHOUT TIME ZONE", .time),
    ("TIME WITH TIME ZONE", .time), ("TIMTZ", .time), ("UUID", .uuid), ("NULL", .null),
    ("TIMESTAMP WITHOUT TIME ZONE", .timestamp),
    ("TIMESTAMP WITH TIME ZONE", .timestamptz), ("TIMESTAMPTZ", .timestamptz),
    ("BIGINT", .bigint), ("INT8", .bigint), ("BIGSERIAL", .bigserial),
    ("SERIAL8", .bigserial), ("CITEXT", .citext)]

def kUserDefinedLookup : List (String × DatabaseTypes) := [("CITEXT", .citext)]

def databaseTypesFromDatabaseColumnInfo (databaseColumnInfo : DatabaseColumnInfo) :
    Except Exn DatabaseTypes :=
  match kPrimaryLookup.lookup databaseColumnInfo.dataType.toUpper with
  | some databaseType => .ok databaseType
  | none =>
      if databaseColumnInfo.dataType.toUpper = "USER-DEFINED" then
        match kUserDefinedLookup.lookup databaseColumnInfo.udtName.toUpper with
        | some databaseType => .ok databaseType
        | none =>
            .error (.invalidArgument
              ("DatabaseTypesFromDatabaseColumnInfo - unsupported user-defined type: " ++
                databaseColumnInfo.udtName))
      else
        .error (.invalidArgument
          ("DatabaseTypesFromDatabaseColumnInfo - invalid database type: " ++
            databaseColumnInfo.dataType))

/-!
# Constraints and the views over them
-/

inductive ConstraintKind where
  | primaryKey
  | unique
  | check
  | foreignKey (parentTable : String) (parentColumns : List String)
  deriving Repr, DecidableEq

structure Constraint where
  constraintSchema : String
  constraintName : String
  tableName : String
  kind : ConstraintKind
  columns : List String
  deriving Repr, DecidableEq

/-- A row of `key_column_usage` or of `constraint_column_usage`. -/
structure ColumnUsage where
  constraintSchema : String
  constraintName : String
  tableName : String
  columnName : String
  deriving Repr, DecidableEq

/-- A row of the joined views: one column that refers to another. -/
structure ForeignKeyRow where
  parentTable : String
  parentColumn : String
  childTable : String
  childColumn : String
  deriving Repr, DecidableEq

namespace Constraint

def isForeignKey (c : Constraint) : Bool :=
  match c.kind with
  | .foreignKey _ _ => true
  | _ => false

def usage (c : Constraint) (tableName columnName : String) : ColumnUsage :=
  ⟨c.constraintSchema, c.constraintName, tableName, columnName⟩

def keyColumnUsage (c : Constraint) : List ColumnUsage :=
  match c.kind with
  | .check => []
  | _ => c.columns.map (c.usage c.tableName)

def constraintColumnUsage (c : Constraint) : List ColumnUsage :=
  match c.kind with
  | .foreignKey parentTable parentColumns => parentColumns.map (c.usage parentTable)
  | _ => c.columns.map (c.usage c.tableName)

/-- The columns that the constraint makes refer to others. -/
def references (c : Constraint) : List ForeignKeyRow :=
  match c.kind with
  | .foreignKey parentTable parentColumns =>
      (c.columns.zip parentColumns).map (fun pair =>
        ⟨parentTable, pair.2, c.tableName, pair.1⟩)
  | _ => []

end Constraint

def ColumnUsage.of (usage : ColumnUsage) (c : Constraint) : Bool :=
  decide (usage.constraintSchema = c.constraintSchema ∧
    usage.constraintName = c.constraintName)

/-- A database as far as its schema is read.  The rows of a join come in an order of the
database's choice; a failed statement throws.  Constraints are on columns of their
tables. -/
structure LiveSchema where
  tables : List String
  constraints : List Constraint
  columns : String -> Except Exn (List DatabaseColumnInfo)
  constrained : forall c, c ∈ constraints -> forall infos, columns c.tableName = .ok infos ->
    forall column, column ∈ c.columns ->
      column ∈ infos.map DatabaseColumnInfo.columnName
  isNullable : String -> String -> Option Bool
  arrange : List ForeignKeyRow -> List ForeignKeyRow
  arrange_perm : forall rows, (arrange rows).Perm rows

namespace LiveSchema

variable (s : LiveSchema)

def references : List ForeignKeyRow := s.constraints.flatMap Constraint.references

def keyColumnUsage : List ColumnUsage := s.constraints.flatMap Constraint.keyColumnUsage

def constraintColumnUsage : List ColumnUsage :=
  s.constraints.flatMap Constraint.constraintColumnUsage

def foreignKeyRows : List ForeignKeyRow :=
  s.keyColumnUsage.flatMap (fun kcu =>
    (s.constraints.filter (fun tc => kcu.of tc && tc.isForeignKey)).flatMap (fun tc =>
      (s.constraintColumnUsage.filter (fun ccu => ccu.of tc)).map (fun ccu =>
        ⟨ccu.tableName, ccu.columnName, kcu.tableName, kcu.columnName⟩)))

def listTables : List String := s.tables

def listParentTables (childTableName : String) : List String :=
  (s.arrange (s.foreignKeyRows.filter (fun row => row.childTable = childTableName))).map
    ForeignKeyRow.parentTable

def childTables : List String :=
  (s.keyColumnUsage.filter (fun kcu =>
    s.constraints.any (fun tc => kcu.of tc && tc.isForeignKey))).map ColumnUsage.tableName

def listRootTables : List String :=
  s.listTables.filter (fun table => decide (table ∉ s.childTables))

def parentChildRows (parentTableName childTableName : String) : List ForeignKeyRow :=
  s.arrange (s.foreignKeyRows.filter (fun row =>
    row.parentTable = parentTableName ∧ row.childTable = childTableName))

def getParentChildForeignKeyColumns (parentTableName childTableName : String) :
    Except Exn ForeignKeyRow :=
  match s.parentChildRows parentTableName childTableName with
  | [] =>
      .error (.runtimeError
        ("GetParentChildForeignKeyColumns - no foreign key relationship found between " ++
          "parent table " ++ parentTableName ++ " and child table " ++ childTableName))
  | row :: _ => .ok row

def isForeignKeyNullable (tableName columnName : String) : Except Exn Bool :=
  match s.isNullable tableName columnName with
  | some isNullable => .ok isNullable
  | none =>
      .error (.invalidArgument
        ("IsForeignKeyNullable - column not found: " ++ tableName ++ "." ++ columnName))

def uniqueConstraintRows (tableName : String) : List (String × String) :=
  (s.constraints.filter (fun tc =>
    tc.kind = .unique ∧ tc.tableName = tableName ∧ tc.constraintSchema = "public")).flatMap
    (fun tc => tc.columns.map (fun column => (tc.constraintName, column)))

def constraintColumns (rows : List (String × String)) : SortedMap String (List String) :=
  rows.foldl (fun m row => m.set row.1 ((m.find? row.1).getD [] ++ [row.2])) SortedMap.empty

/-- Constraints of one column are left to the column. -/
def listTableUniqueValuesArrayForTable (tableName : String) : List TableUniqueValues :=
  ((constraintColumns (s.uniqueConstraintRows tableName)).entries.filter
    (fun e => decide (1 < e.2.length))).map (fun e => ⟨e.1, e.2⟩)

end LiveSchema

end DbSchema
end ServerComponents
