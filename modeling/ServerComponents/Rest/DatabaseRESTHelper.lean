import ServerComponents.Rest.Database
import ServerComponents.Rest.Json

/-!
# Reading through the REST helper

Seven operations drop the redacted columns from the rows before they build the
answer.  The two operations of the foreign-key picker build theirs from the rows
as they are.
-/

namespace ServerComponents
namespace Rest

open Relational

structure DataResults where
  sortedColumnNames : List String
  dataTable : List (List String)
  deriving Repr, DecidableEq

def makeDataResults (table : KeyValueTable) : DataResults where
  sortedColumnNames := table.keys
  dataTable := if table.entries = [] then [] else [table.entries.map Prod.snd]

def makeDataResultsFromKeyValueTableArray (tables : List KeyValueTable) :
    Except Exn DataResults :=
  match tables with
  | [] => .ok ⟨[], []⟩
  | first :: _ => do
      tables.forM (fun table =>
        if table.keys.all (fun key => first.keys.contains key) then .ok ()
        else .error (.runtimeError "Inconsistent keys in KeyValueTableArray"))
      pure ⟨first.keys, tables.map (fun table => table.entries.map Prod.snd)⟩

def jsonFromDataResults (dataResults : DataResults) : Json :=
  .obj [("dataTable", .arr (dataResults.dataTable.map Json.ofStringArray)),
    ("sortedColumnNames", Json.ofStringArray dataResults.sortedColumnNames)]

def jsonFromDataResultsWithCount (dataResults : DataResults) (totalCount : Int) : Json :=
  .obj [("dataTable", .arr (dataResults.dataTable.map Json.ofStringArray)),
    ("sortedColumnNames", Json.ofStringArray dataResults.sortedColumnNames),
    ("totalCount", .int totalCount)]

/-- The (table, column) pairs that no read path may show. -/
abbrev ColumnRedactionSet := List (String × String)

namespace DatabaseRESTHelper

def applyRedactions (columnRedactions : ColumnRedactionSet) (tableName : String)
    (row : KeyValueTable) : KeyValueTable :=
  row.filterKeys (fun c => ! columnRedactions.contains (tableName, c))

variable {s : Schema} (engine : Engine s) (columnRedactions : ColumnRedactionSet)
  (db : Database s)

def getTableValues (tableName : String) : Except Exn Json := do
  let keyValueTableArray ← DbCrud.getTableRows engine db tableName
  let dataResults ← makeDataResultsFromKeyValueTableArray
    (keyValueTableArray.map (applyRedactions columnRedactions tableName))
  pure (jsonFromDataResults dataResults)

def getRowsByColumn (tableName columnName : String) (asc : Bool) (pageSize page : Int) :
    Except Exn Json := do
  let keyValueTableArray ←
    DbCrud.getRowsByColumn engine db tableName columnName asc pageSize page
  let dataResults ← makeDataResultsFromKeyValueTableArray
    (keyValueTableArray.map (applyRedactions columnRedactions tableName))
  pure (jsonFromDataResults dataResults)

def getRowsByColumnWithCount (tableName columnName : String) (asc : Bool)
    (pageSize page : Int) : Except Exn Json := do
  let keyValueTableArray ←
    DbCrud.getRowsByColumn engine db tableName columnName asc pageSize page
  let redacted := keyValueTableArray.map (applyRedactions columnRedactions tableName)
  let totalCount ← DbCrud.getTableRowCount db tableName
  let dataResults ← makeDataResultsFromKeyValueTableArray redacted
  pure (jsonFromDataResultsWithCount dataResults totalCount)

def getRowsByValuesWithCount (tableName sortColumnName : String)
    (lookupValues : KeyValueTable) (asc : Bool) (pageSize page : Int) :
    Except Exn Json := do
  let (keyValueTableArray, totalCount) ←
    DbCrud.getRowsByValues engine db tableName sortColumnName lookupValues asc
      pageSize page
  let dataResults ← makeDataResultsFromKeyValueTableArray
    (keyValueTableArray.map (applyRedactions columnRedactions tableName))
  pure (jsonFromDataResultsWithCount dataResults totalCount)

def getRow (tableName columnName value : String) : Except Exn Json := do
  let keyValueTable ← DbCrud.getRow engine db tableName columnName value
  pure (jsonFromDataResults
    (makeDataResults (applyRedactions columnRedactions tableName keyValueTable)))

def getRowByValues (tableName : String) (lookupValues : KeyValueTable) :
    Except Exn Json := do
  let keyValueTable ← DbCrud.lookupRowByValues engine db tableName lookupValues
  pure (jsonFromDataResults
    (makeDataResults (applyRedactions columnRedactions tableName keyValueTable)))

def getTableValue (tableName columnName value : String) : Except Exn Json := do
  let keyValueTable ← DbCrud.lookupRowByValue engine db tableName columnName value
  let redacted := applyRedactions columnRedactions tableName keyValueTable
  pure (if redacted.entries = [] then .null else .obj (Json.ofKeyValueTable redacted))

/-- One option of the picker; a row without the key column has none. -/
def fkOption (primaryKeyColumn : String) (displayValues row : KeyValueTable) :
    Option Json :=
  (row.find? primaryKeyColumn).map (fun pkValue =>
    .obj [("display", .str ((displayValues.find? pkValue).getD "")),
      ("value", .str pkValue)])

def fkOptions (primaryKeyColumn displayTemplate : String) (rows : List KeyValueTable)
    (totalCount : Int) : Json :=
  let displayValues :=
    DbCrud.resolveDisplayValues rows primaryKeyColumn displayTemplate
  .obj [("options", .arr (rows.filterMap (fkOption primaryKeyColumn displayValues))),
    ("total_count", .int totalCount)]

def fkRows (tableName primaryKeyColumn displayTemplate searchText : String)
    (pageSize : Int) : Except Exn (List KeyValueTable × Int) :=
  if searchText = "" then
    DbCrud.getRowsByValues engine db tableName primaryKeyColumn SortedMap.empty true
      pageSize 0
  else
    let parsed := parseTemplateColumns displayTemplate
    DbCrud.searchRowsByILike engine db tableName primaryKeyColumn
      (if parsed = [] then [primaryKeyColumn] else parsed) searchText true pageSize 0

def getFkOptions (tableName primaryKeyColumn displayTemplate searchText : String)
    (pageSize : Int) : Except Exn Json := do
  let (rows, totalCount) ←
    fkRows engine db tableName primaryKeyColumn displayTemplate searchText pageSize
  pure (fkOptions primaryKeyColumn displayTemplate rows totalCount)

def resolveFkDisplay (tableName primaryKeyColumn displayTemplate : String)
    (values : List String) : Except Exn Json := do
  let rows ←
    DbCrud.lookupRowsByPrimaryKeyValues engine db tableName primaryKeyColumn values
  let displayValues := DbCrud.resolveDisplayValues rows primaryKeyColumn displayTemplate
  pure (.obj [("resolved", .obj (Json.ofKeyValueTable displayValues))])

end DatabaseRESTHelper

end Rest
end ServerComponents
