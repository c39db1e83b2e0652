import ServerComponents.Rest.RowStatements

/-!
# The texts of the CRUD statements

Every function of `DbCrud` writes one statement and binds its parameters.  A statement
is kept here as its parts, from which follow both its text and the places at which a
value stands in it.
-/

namespace ServerComponents
namespace Rest

open Relational

/-!
# Statements
-/

/-- The condition of a statement; a search writes its pattern once for each column. -/
inductive Filter where
  | all
  | equals (conditions : List (String × SqlValue))
  | search (columns : List String) (pattern : SqlValue)
  deriving Repr, DecidableEq

structure Paging where
  nullIf : Bool
  limit : SqlValue
  offset : SqlValue
  deriving Repr, DecidableEq

structure SelectStatement where
  columns : List String
  counted : Bool
  tableName : String
  filter : Filter
  order : Option (String × Bool)
  paging : Option Paging
  params : List String
  deriving Repr, DecidableEq

inductive CrudStatement where
  | write (stmt : RowStatement)
  | select (stmt : SelectStatement)
  | tableRows (tableName : String) (columns : List String)
  | count (tableName : String)
  | selectIn (tableName columnName : String) (values : List SqlValue) (params : List String)
  | delete (tableName : String) (conditions : List (String × SqlValue)) (params : List String)
  deriving Repr, DecidableEq

section Text

def isSimpleName (name : String) : Bool :=
  match name.toList with
  | [] => false
  | first :: rest =>
      (first.isAlpha || first == '_') && rest.all (fun c => c.isAlphanum || c == '_')

-- The driver's `quote_name`.
variable (quoteName : String -> String)

/-- A name that is in lower case already, as it stands in a statement. -/
def quotedName (name : String) : String :=
  if isSimpleName name then name else quoteName name

def RowKind.quoted : RowKind -> RowKind
  | .insert returning => .insert returning
  | .update columnName lookup => .update (quotedName quoteName columnName) lookup

def RowStatement.quoted (stmt : RowStatement) : RowStatement where
  tableName := quotedName quoteName stmt.tableName
  kind := stmt.kind.quoted quoteName
  columns := stmt.columns.map (quotedName quoteName)
  values := stmt.values
  params := stmt.params

def conditionText (condition : String × SqlValue) : String :=
  quotedName quoteName condition.1 ++ " = " ++ condition.2.text

def Filter.text : Filter -> String
  | .all => ""
  | .equals conditions =>
      " WHERE " ++ " AND ".intercalate (conditions.map (conditionText quoteName))
  | .search columns pattern =>
      " WHERE (" ++ " OR ".intercalate (columns.map (fun column =>
        quotedName quoteName column ++ "::text ILIKE " ++ pattern.text)) ++ ")"

def orderText : Option (String × Bool) -> String
  | none => ""
  | some (column, asc) =>
      " ORDER BY " ++ quotedName quoteName column ++ (if asc then " ASC" else " DESC")

def pagingText : Option Paging -> String
  | none => ""
  | some paging =>
      if paging.nullIf then
        " LIMIT NULLIF(" ++ paging.limit.text ++ ", 0) OFFSET " ++ paging.offset.text
      else " LIMIT " ++ paging.limit.text ++ " OFFSET " ++ paging.offset.text

def SelectStatement.text (stmt : SelectStatement) : String :=
  "SELECT " ++
    stringArrayToCommaSeparatedString (stmt.columns.map (quotedName quoteName)) ++
    (if stmt.counted then ", COUNT(*) OVER() AS _total_count" else "") ++
    " FROM " ++ quotedName quoteName stmt.tableName ++ stmt.filter.text quoteName ++
    orderText quoteName stmt.order ++ pagingText stmt.paging

def CrudStatement.text : CrudStatement -> String
  | .write stmt => (stmt.quoted quoteName).sql
  | .select stmt => stmt.text quoteName
  | .tableRows tableName columns =>
      "SELECT " ++ stringArrayToCommaSeparatedString columns ++ " FROM " ++ tableName
  | .count tableName => "SELECT COUNT(*) FROM " ++ quotedName quoteName tableName
  | .selectIn tableName columnName values _ =>
      "SELECT * FROM " ++ quotedName quoteName tableName ++ " WHERE " ++
        quotedName quoteName columnName ++ " IN (" ++
        stringArrayToCommaSeparatedString (values.map SqlValue.text) ++ ")"
  | .delete tableName conditions _ =>
      "DELETE FROM " ++ quotedName quoteName tableName ++ " WHERE" ++
        " AND".intercalate
          (conditions.map (fun condition => " " ++ conditionText quoteName condition))

end Text

inductive Use where
  | column (name : String)
  | searched (columns : List String)
  | limit
  | offset
  deriving Repr, DecidableEq

def columnUses (conditions : List (String × SqlValue)) : List (Use × SqlValue) :=
  conditions.map (fun condition => (.column condition.1, condition.2))

def RowStatement.uses (stmt : RowStatement) : List (Use × SqlValue) :=
  columnUses stmt.assignments ++
    match stmt.kind with
    | .insert _ => []
    | .update columnName lookup => [(.column columnName, lookup)]

def Filter.uses : Filter -> List (Use × SqlValue)
  | .all => []
  | .equals conditions => columnUses conditions
  | .search columns pattern => [(.searched columns, pattern)]

def pagingUses : Option Paging -> List (Use × SqlValue)
  | none => []
  | some paging => [(.limit, paging.limit), (.offset, paging.offset)]

/-- The values of a statement, in the order in which they stand in its text. -/
def CrudStatement.uses : CrudStatement -> List (Use × SqlValue)
  | .write stmt => stmt.uses
  | .select stmt => stmt.filter.uses ++ pagingUses stmt.paging
  | .tableRows _ _ => []
  | .count _ => []
  | .selectIn _ columnName values _ => values.map (fun value => (.column columnName, value))
  | .delete _ conditions _ => columnUses conditions

def CrudStatement.params : CrudStatement -> List String
  | .write stmt => stmt.params
  | .select stmt => stmt.params
  | .tableRows _ _ => []
  | .count _ => []
  | .selectIn _ _ _ params => params
  | .delete _ _ params => params

def SqlValue.number? : SqlValue -> Option Nat
  | .keyword _ => none
  | .param number => some number

/-- The numbers of the placeholders in a statement. -/
def CrudStatement.placeholders (stmt : CrudStatement) : List Nat :=
  stmt.uses.filterMap (fun use => use.2.number?)

/-!
# The generators
-/

namespace DbCrud

def getColumnNames (columns : List String) : List String := columns.map escSqlName

def addParams : List String -> ExecParamsHelper -> List SqlValue × ExecParamsHelper
  | [], helper => ([], helper)
  | value :: rest, helper =>
      let (param, helper') := helper.addParam value
      let (params, helper'') := addParams rest helper'
      (param :: params, helper'')

def whereClauseFromKeyValueTable :
    List (String × String) -> ExecParamsHelper -> List (String × SqlValue) × ExecParamsHelper
  | [], helper => ([], helper)
  | e :: rest, helper =>
      let (param, helper') := helper.addParam e.2
      let (conditions, helper'') := whereClauseFromKeyValueTable rest helper'
      ((escSqlName e.1, param) :: conditions, helper'')

variable (s : Schema)

/-- The statement names its parameter as the first; the caller binds it. -/
def selectByColumn (tableName columnName lookupValue : String) :
    Except Exn CrudStatement := do
  let columns ← DbMeta.listColumns s tableName
  lookupDatabaseColumnInfoByColumnName columns columnName
  let (_, helper) := (ExecParamsHelper.mk []).addParam lookupValue
  pure (.select
    { columns := getColumnNames columns, counted := false
      tableName := escSqlName tableName
      filter := .equals [(escSqlName columnName, .param 1)]
      order := none, paging := none, params := helper.params })

def generateLookupRowByValueSql (tableName columnName lookupValue : String) :
    Except Exn CrudStatement :=
  selectByColumn s tableName columnName lookupValue

def generateGetRowSql (tableName columnName columnValue : String) :
    Except Exn CrudStatement :=
  selectByColumn s tableName columnName columnValue

def generateLookupRowByValuesSql (tableName : String) (lookupValues : KeyValueTable) :
    Except Exn CrudStatement := do
  let columns ← DbMeta.listColumns s tableName
  let (conditions, helper) := whereClauseFromKeyValueTable lookupValues.entries ⟨[]⟩
  pure (.select
    { columns := getColumnNames columns, counted := false
      tableName := escSqlName tableName, filter := .equals conditions
      order := none, paging := none, params := helper.params })

/-- The names go into the statement of `GetTableRows` as they are. -/
def getTableRowsSql (tableName : String) : Except Exn CrudStatement := do
  let columns ← DbMeta.listColumns s tableName
  pure (.tableRows tableName columns)

/-- The offset is computed before it becomes a parameter. -/
def generateGetRowsByColumnSql (tableName columnName : String) (asc : Bool)
    (pageSize page : Int) : Except Exn CrudStatement := do
  let columns ← DbMeta.listColumns s tableName
  lookupDatabaseColumnInfoByColumnName columns columnName
  let (_, helper) := (ExecParamsHelper.mk []).addParam (toString pageSize)
  let (_, helper') := helper.addParam (toString (pageOffset page pageSize))
  pure (.select
    { columns := getColumnNames columns, counted := false
      tableName := escSqlName tableName, filter := .all
      order := some (escSqlName columnName, asc)
      paging := some { nullIf := false, limit := .param 1, offset := .param 2 }
      params := helper'.params })

/-- The paging parameters come after those of the condition. -/
def countedSelect (columns : List String) (tableName sortColumnName : String) (asc : Bool)
    (pageSize page : Int) (filter : Filter) (helper : ExecParamsHelper) : CrudStatement :=
  let (limit, helper') := helper.addParam (toString pageSize)
  let (offset, helper'') := helper'.addParam (toString (pageOffset page pageSize))
  .select
    { columns := getColumnNames columns, counted := true
      tableName := escSqlName tableName, filter := filter
      order := some (escSqlName sortColumnName, asc)
      paging := some { nullIf := true, limit := limit, offset := offset }
      params := helper''.params }

def generateGetRowsByValuesSql (tableName sortColumnName : String)
    (lookupValues : KeyValueTable) (asc : Bool) (pageSize page : Int) :
    Except Exn CrudStatement := do
  let columns ← DbMeta.listColumns s tableName
  lookupDatabaseColumnInfoByColumnName columns sortColumnName
  if lookupValues.entries = [] then
    pure (countedSelect columns tableName sortColumnName asc pageSize page .all ⟨[]⟩)
  else
    checkKeysInTable lookupValues columns
    let (conditions, helper) := whereClauseFromKeyValueTable lookupValues.entries ⟨[]⟩
    pure (countedSelect columns tableName sortColumnName asc pageSize page
      (.equals conditions) helper)

def generateGetRowsByValuesWithOrderBySql (tableName : String)
    (lookupValues : KeyValueTable) (orderByColumn : String) (asc : Bool) :
    Except Exn CrudStatement := do
  let columns ← DbMeta.listColumns s tableName
  lookupDatabaseColumnInfoByColumnName columns orderByColumn
  if lookupValues.entries = [] then
    throw (.invalidArgument "GetRowsByValuesWithOrderBy - lookupValues must not be empty.")
  else
    checkKeysInTable lookupValues columns
    let (conditions, helper) := whereClauseFromKeyValueTable lookupValues.entries ⟨[]⟩
    pure (.select
      { columns := getColumnNames columns, counted := false
        tableName := escSqlName tableName, filter := .equals conditions
        order := some (escSqlName orderByColumn, asc), paging := none
        params := helper.params })

def generateSearchRowsByILikeSql (tableName sortColumnName : String)
    (searchColumns : List String) (searchText : String) (asc : Bool)
    (pageSize page : Int) : Except Exn CrudStatement := do
  let columns ← DbMeta.listColumns s tableName
  lookupDatabaseColumnInfoByColumnName columns sortColumnName
  checkSearchColumns searchColumns columns
  if searchColumns = [] then
    pure (countedSelect columns tableName sortColumnName asc pageSize page .all ⟨[]⟩)
  else
    let (pattern, helper) := (ExecParamsHelper.mk []).addParam ("%" ++ searchText ++ "%")
    pure (countedSelect columns tableName sortColumnName asc pageSize page
      (.search (getColumnNames searchColumns) pattern) helper)

def getTableRowCountSql (tableName : String) : CrudStatement :=
  .count (escSqlName tableName)

/-- The statement names its parameter as the first; the caller binds it. -/
def generateDeleteRowSql (tableName columnName columnValue : String) :
    Except Exn CrudStatement := do
  let columns ← DbMeta.listColumns s tableName
  lookupDatabaseColumnInfoByColumnName columns columnName
  let (_, helper) := (ExecParamsHelper.mk []).addParam columnValue
  pure (.delete (escSqlName tableName) [(escSqlName columnName, .param 1)] helper.params)

/-- The loop over the conditions; each column is looked up before its value is bound. -/
def deleteConditions (columns : List String) :
    List (String × String) -> ExecParamsHelper ->
      Except Exn (List (String × SqlValue) × ExecParamsHelper)
  | [], helper => .ok ([], helper)
  | e :: rest, helper => do
      lookupDatabaseColumnInfoByColumnName columns e.1
      let (param, helper') := helper.addParam e.2
      let (conditions, helper'') ← deleteConditions columns rest helper'
      pure ((escSqlName e.1, param) :: conditions, helper'')

def generateDeleteRowByValuesSql (tableName : String) (keyValueTable : KeyValueTable) :
    Except Exn CrudStatement := do
  let columns ← DbMeta.listColumns s tableName
  let (conditions, helper) ← deleteConditions columns keyValueTable.entries ⟨[]⟩
  pure (.delete (escSqlName tableName) conditions helper.params)

def lookupRowsByPrimaryKeyValuesSql (tableName primaryKeyColumn : String)
    (values : List String) : Option CrudStatement :=
  if values = [] then none
  else
    let (params, helper) := addParams values ⟨[]⟩
    some (.selectIn (escSqlName tableName) (escSqlName primaryKeyColumn) params
      helper.params)

end DbCrud

/-- The functions of `DbCrud` with what they are given. -/
inductive CrudCall where
  | addRowToTable (tableName : String) (table : KeyValueTable)
      (allowedSqlKeywords : List String)
  | addRowToTableFetchPrimaryKey (tableName : String) (table : KeyValueTable)
      (allowedSqlKeywords : List String)
  | lookupRowByValue (tableName columnName lookupValue : String)
  | lookupRowByValues (tableName : String) (lookupValues : KeyValueTable)
  | getTableRows (tableName : String)
  | getRowsByColumn (tableName columnName : String) (asc : Bool) (pageSize page : Int)
  | getRowsByValues (tableName sortColumnName : String) (lookupValues : KeyValueTable)
      (asc : Bool) (pageSize page : Int)
  | getRowsByValuesWithOrderBy (tableName : String) (lookupValues : KeyValueTable)
      (orderByColumn : String) (asc : Bool)
  | getTableRowCount (tableName : String)
  | getRow (tableName columnName columnValue : String)
  | updateRow (tableName columnName columnValue : String) (table : KeyValueTable)
      (allowedSqlKeywords : List String)
  | deleteRow (tableName columnName columnValue : String)
  | deleteRowByValues (tableName : String) (keyValueTable : KeyValueTable)
  | searchRowsByILike (tableName sortColumnName : String) (searchColumns : List String)
      (searchText : String) (asc : Bool) (pageSize page : Int)
  | lookupRowsByPrimaryKeyValues (tableName primaryKeyColumn : String)
      (values : List String)

open DbCrud in
/-- The statement that a call sends, if it sends one. -/
def CrudCall.generate (s : Schema) : CrudCall -> Except Exn (Option CrudStatement)
  | .addRowToTable tableName table keywords =>
      (generateAddRowToTableSql s tableName table keywords).map (some ∘ .write)
  | .addRowToTableFetchPrimaryKey tableName table keywords =>
      (generateAddRowToTableFetchIntPrimaryKeySql s tableName table keywords).map
        (some ∘ .write)
  | .lookupRowByValue tableName columnName lookupValue =>
      (generateLookupRowByValueSql s tableName columnName lookupValue).map some
  | .lookupRowByValues tableName lookupValues =>
      (generateLookupRowByValuesSql s tableName lookupValues).map some
  | .getTableRows tableName => (getTableRowsSql s tableName).map some
  | .getRowsByColumn tableName columnName asc pageSize page =>
      (generateGetRowsByColumnSql s tableName columnName asc pageSize page).map some
  | .getRowsByValues tableName sortColumnName lookupValues asc pageSize page =>
      (generateGetRowsByValuesSql s tableName sortColumnName lookupValues asc pageSize
        page).map some
  | .getRowsByValuesWithOrderBy tableName lookupValues orderByColumn asc =>
      (generateGetRowsByValuesWithOrderBySql s tableName lookupValues orderByColumn
        asc).map some
  | .getTableRowCount tableName => .ok (some (getTableRowCountSql tableName))
  | .getRow tableName columnName columnValue =>
      (generateGetRowSql s tableName columnName columnValue).map some
  | .updateRow tableName columnName columnValue table keywords =>
      (generateUpdateRowSql s tableName columnName columnValue table keywords).map
        (some ∘ .write)
  | .deleteRow tableName columnName columnValue =>
      (generateDeleteRowSql s tableName columnName columnValue).map some
  | .deleteRowByValues tableName keyValueTable =>
      (generateDeleteRowByValuesSql s tableName keyValueTable).map some
  | .searchRowsByILike tableName sortColumnName searchColumns searchText asc pageSize page =>
      (generateSearchRowsByILikeSql s tableName sortColumnName searchColumns searchText asc
        pageSize page).map some
  | .lookupRowsByPrimaryKeyValues tableName primaryKeyColumn values =>
      .ok (lookupRowsByPrimaryKeyValuesSql tableName primaryKeyColumn values)

end Rest
end ServerComponents
