import ServerComponents.Basics
import ServerComponents.Rest.DisplayTemplate

/-!
# Tables by name

The store behind the REST helper.  Tables and columns are named by the request,
every value is read as text, and SQL folds the names to lower case.  The names in
the schema are folded already, because the tables were created through SQL.
-/

namespace ServerComponents
namespace Rest

open Relational

structure ColumnInfo where
  columnName : String
  primaryKey : Bool
  nullable : Bool
  isText : Bool
  deriving Repr, DecidableEq

structure TableInfo where
  tableName : String
  columns : List ColumnInfo
  deriving Repr, DecidableEq

def TableInfo.names (t : TableInfo) : List String := t.columns.map ColumnInfo.columnName

/-- `EscSqlTableName` and `EscSqlColumnName`, up to quoting. -/
def escSqlName (name : String) : String := name.toLower

/-- The alias under which a page is told how many rows there are. -/
def kTotalCount : String := "_total_count"

/-- The names are folded. -/
structure Schema where
  tables : List TableInfo
  folded : forall t, t ∈ tables -> escSqlName t.tableName = t.tableName ∧
    forall name, name ∈ t.names -> escSqlName name = name

def Schema.find? (s : Schema) (name : String) : Option TableInfo :=
  s.tables.find? (fun t => t.tableName == name)

theorem Schema.find?_some {s : Schema} {name : String} {t : TableInfo}
    (h : s.find? name = some t) : t ∈ s.tables ∧ t.tableName = name :=
  ⟨List.mem_of_find?_eq_some h, by simpa using List.find?_some h⟩

/-- The value of each column, `none` for NULL. -/
abbrev Row := String -> Option String

structure Database (s : Schema) where
  rows : String -> List Row

/--
What Postgres adds: whether a parameter can be read at a column's type, the
comparison of a value with it, `::text ILIKE` of a value of a column, and the order in
which a query returns its rows.
-/
structure Engine (s : Schema) where
  castable : String -> String -> String -> Except Exn Unit
  equals : String -> String -> Option String -> String -> Bool
  ilike : String -> String -> Option String -> String -> Bool
  arrange : String -> Option (String × Bool) -> List Row -> List Row
  arrange_perm : forall table order rows, (arrange table order rows).Perm rows

/-- Text columns, and rows in the order of the table. -/
def Engine.plain (s : Schema) : Engine s where
  castable := fun _ _ _ => .ok ()
  equals := fun _ _ cell value => decide (cell = some value)
  ilike := fun _ _ cell pattern => decide (cell = some pattern)
  arrange := fun _ _ rows => rows
  arrange_perm := fun _ _ rows => List.Perm.refl rows

/-!
# Statements
-/

def sqlTable (s : Schema) (tableName : String) : Except Exn TableInfo :=
  match s.find? (escSqlName tableName) with
  | none => .error (.sql .undefinedTable)
  | some t => .ok t

def sqlColumn (t : TableInfo) (columnName : String) : Except Exn String :=
  if escSqlName columnName ∈ t.names then .ok (escSqlName columnName)
  else .error (.sql .undefinedColumn)

/-- `ORDER BY` of rows with their count beside them: the column's name may not be the
count's. -/
def countedSortColumn (t : TableInfo) (columnName : String) : Except Exn String := do
  let column ← sqlColumn t columnName
  if column = kTotalCount then .error (.sql .ambiguousColumn) else .ok column

/-- A row as `TransactionImpl` returns it: NULL is read as the empty text. -/
def toKeyValueTable (columns : List String) (row : Row) : KeyValueTable :=
  columns.foldl (fun keyValueTable c => keyValueTable.set c ((row c).getD ""))
    SortedMap.empty

/-- `LIMIT` and `OFFSET`; NULL is no limit. -/
def limitOffset {a : Type} (limit : Option Int) (offset : Int) (rows : List a) :
    Except Exn (List a) :=
  if offset < 0 then .error (.sql .invalidRowCount)
  else
    match limit with
    | none => .ok (rows.drop offset.toNat)
    | some n =>
        if n < 0 then .error (.sql .invalidRowCount)
        else .ok ((rows.drop offset.toNat).take n.toNat)

/-- The first row of a page.  The page and its size are of type `int`, and so is their product. -/
def pageOffset (page pageSize : Int) : Int := toInt32 (page * pageSize)

@[simp] theorem pageOffset_zero (pageSize : Int) : pageOffset 0 pageSize = 0 := by
  rw [pageOffset, Int.zero_mul]
  rfl

@[simp] theorem pageOffset_empty (page : Int) : pageOffset page 0 = 0 := by
  rw [pageOffset, Int.mul_zero]
  rfl

def KeyValueTable.at (row : KeyValueTable) (key : String) : Except Exn String :=
  match row.find? key with
  | none => .error (.outOfRange "map::at")
  | some value => .ok value

namespace DbMeta

/-- The columns of the table with exactly this name.  The name must also name a
table in a statement. -/
def listColumns (s : Schema) (tableName : String) : Except Exn (List String) := do
  let t ← sqlTable s tableName
  pure (if t.tableName = tableName then t.names else [])

end DbMeta

/-!
# The reading half of `DbCrud`
-/

namespace DbCrud

variable {s : Schema} (engine : Engine s) (db : Database s)

def lookupDatabaseColumnInfoByColumnName (columns : List String) (columnName : String) :
    Except Exn Unit :=
  if columnName ∈ columns then .ok ()
  else .error (.invalidArgument
    ("LookupDatabaseColumnInfoByColumnName - column name not found: " ++ columnName))

def checkKeysInTable (table : KeyValueTable) (columns : List String) : Except Exn Unit :=
  table.keys.forM (fun key =>
    if key ∈ columns then .ok ()
    else .error (.invalidArgument
      ("CheckKeysInTable key(" ++ key ++ ") not found in table.")))

/-- The columns and values of a `WHERE` clause that compares for equality. -/
def whereClause (t : TableInfo) (conditions : List (String × String)) :
    Except Exn (List (String × String)) :=
  conditions.mapM (fun e => do
    let column ← sqlColumn t e.1
    engine.castable t.tableName column e.2
    pure (column, e.2))

def holdsAll (t : TableInfo) (conditions : List (String × String)) (row : Row) : Bool :=
  conditions.all (fun e => engine.equals t.tableName e.1 (row e.1) e.2)

def selectRows (t : TableInfo) (filter : Row -> Bool) (order : Option (String × Bool)) :
    List Row :=
  engine.arrange t.tableName order ((db.rows t.tableName).filter filter)

/-- The first row of a result, or an empty table. -/
def oneRow (columns : List String) : List Row -> KeyValueTable
  | [] => SortedMap.empty
  | row :: _ => toKeyValueTable columns row

def extractTotalCount (results : List KeyValueTable) :
    Except Exn (List KeyValueTable × Int) :=
  match results with
  | [] => .ok ([], 0)
  | first :: _ => do
      let totalCount ← stoll ((first.find? kTotalCount).getD "")
      pure (results.map (fun row => row.erase kTotalCount), totalCount)

/-- `COUNT(*) OVER() AS _total_count` over all rows, and one page of them. -/
def countedPage (columns : List String) (rows : List Row) (pageSize page : Int) :
    Except Exn (List KeyValueTable × Int) := do
  let pageRows ← limitOffset (if pageSize = 0 then none else some pageSize)
    (pageOffset page pageSize) rows
  extractTotalCount (pageRows.map (fun row =>
    (toKeyValueTable columns row).set kTotalCount (toString rows.length)))

def getTableRows (tableName : String) : Except Exn (List KeyValueTable) := do
  let columns ← DbMeta.listColumns s tableName
  let t ← sqlTable s tableName
  pure ((selectRows engine db t (fun _ => true) none).map (toKeyValueTable columns))

def getRowsByColumn (tableName columnName : String) (asc : Bool) (pageSize page : Int) :
    Except Exn (List KeyValueTable) := do
  let columns ← DbMeta.listColumns s tableName
  lookupDatabaseColumnInfoByColumnName columns columnName
  let t ← sqlTable s tableName
  let sortColumn ← sqlColumn t columnName
  let rows ← limitOffset (some pageSize) (pageOffset page pageSize)
    (selectRows engine db t (fun _ => true) (some (sortColumn, asc)))
  pure (rows.map (toKeyValueTable columns))

def getTableRowCount (tableName : String) : Except Exn Int := do
  let t ← sqlTable s tableName
  pure (db.rows t.tableName).length

def getRowsByValues (tableName sortColumnName : String) (lookupValues : KeyValueTable)
    (asc : Bool) (pageSize page : Int) : Except Exn (List KeyValueTable × Int) := do
  let columns ← DbMeta.listColumns s tableName
  lookupDatabaseColumnInfoByColumnName columns sortColumnName
  checkKeysInTable lookupValues columns
  let t ← sqlTable s tableName
  let sortColumn ← countedSortColumn t sortColumnName
  let conditions ← whereClause engine t lookupValues.entries
  countedPage columns
    (selectRows engine db t (holdsAll engine t conditions) (some (sortColumn, asc)))
    pageSize page

/-- `LookupRowByValue` and `GetRow` send the same statement. -/
def lookupRowByValue (tableName columnName lookupValue : String) :
    Except Exn KeyValueTable := do
  let columns ← DbMeta.listColumns s tableName
  lookupDatabaseColumnInfoByColumnName columns columnName
  let t ← sqlTable s tableName
  let conditions ← whereClause engine t [(columnName, lookupValue)]
  pure (oneRow columns (selectRows engine db t (holdsAll engine t conditions) none))

def getRow (tableName columnName columnValue : String) : Except Exn KeyValueTable :=
  lookupRowByValue engine db tableName columnName columnValue

/-- The keys are not checked before they go into the statement. -/
def lookupRowByValues (tableName : String) (lookupValues : KeyValueTable) :
    Except Exn KeyValueTable := do
  let columns ← DbMeta.listColumns s tableName
  if lookupValues.entries = [] then throw (.sql .syntaxError)
  let t ← sqlTable s tableName
  let conditions ← whereClause engine t lookupValues.entries
  pure (oneRow columns (selectRows engine db t (holdsAll engine t conditions) none))

def getRowsByValuesWithOrderBy (tableName : String) (lookupValues : KeyValueTable)
    (orderByColumn : String) (asc : Bool) : Except Exn (List KeyValueTable) := do
  let columns ← DbMeta.listColumns s tableName
  lookupDatabaseColumnInfoByColumnName columns orderByColumn
  if lookupValues.entries = [] then
    throw (.invalidArgument "GetRowsByValuesWithOrderBy - lookupValues must not be empty.")
  checkKeysInTable lookupValues columns
  let t ← sqlTable s tableName
  let sortColumn ← sqlColumn t orderByColumn
  let conditions ← whereClause engine t lookupValues.entries
  pure ((selectRows engine db t (holdsAll engine t conditions)
    (some (sortColumn, asc))).map (toKeyValueTable columns))

/-- `SELECT * FROM tableName WHERE ...`, as some helpers write it out. -/
def selectAll (tableName : String) (conditions : List (String × String)) :
    Except Exn (List KeyValueTable) := do
  let t ← sqlTable s tableName
  let conditions ← whereClause engine t conditions
  pure ((selectRows engine db t (holdsAll engine t conditions) none).map
    (toKeyValueTable t.names))

def checkSearchColumns (searchColumns columns : List String) : Except Exn Unit :=
  searchColumns.forM (fun c =>
    if c ∈ columns then .ok ()
    else .error (.invalidArgument ("Search column '" ++ c ++ "' not found in table.")))

/-- One of the columns matches; without columns there is no `WHERE` clause. -/
def matchesSearch (t : TableInfo) (searchColumns : List String) (searchText : String)
    (row : Row) : Bool :=
  searchColumns.isEmpty ||
    searchColumns.any (fun c =>
      engine.ilike t.tableName (escSqlName c) (row (escSqlName c)) ("%" ++ searchText ++ "%"))

def searchRowsByILike (tableName sortColumnName : String) (searchColumns : List String)
    (searchText : String) (asc : Bool) (pageSize page : Int) :
    Except Exn (List KeyValueTable × Int) := do
  let columns ← DbMeta.listColumns s tableName
  lookupDatabaseColumnInfoByColumnName columns sortColumnName
  checkSearchColumns searchColumns columns
  let t ← sqlTable s tableName
  let sortColumn ← countedSortColumn t sortColumnName
  countedPage columns
    (selectRows engine db t (matchesSearch engine t searchColumns searchText)
      (some (sortColumn, asc)))
    pageSize page

/-- `SELECT * ... WHERE key IN (...)`. -/
def lookupRowsByPrimaryKeyValues (tableName primaryKeyColumn : String)
    (values : List String) : Except Exn (List KeyValueTable) :=
  if values = [] then .ok []
  else do
    let t ← sqlTable s tableName
    let column ← sqlColumn t primaryKeyColumn
    values.forM (fun value => engine.castable t.tableName column value)
    let rows := selectRows engine db t (fun row =>
      values.any (fun value => engine.equals t.tableName column (row column) value)) none
    pure (rows.map (toKeyValueTable t.names))

def resolveDisplayValues (rows : List KeyValueTable)
    (primaryKeyColumn displayTemplate : String) : KeyValueTable :=
  rows.foldl (fun result row =>
    match row.find? primaryKeyColumn with
    | none => result
    | some pkValue =>
        if displayTemplate = "" then result.set pkValue pkValue
        else result.set pkValue (formatString displayTemplate row))
    SortedMap.empty

end DbCrud

end Rest
end ServerComponents
