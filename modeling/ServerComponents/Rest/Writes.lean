import ServerComponents.Rest.DatabaseRESTHelper

/-!
# Writing through the REST helper

The statements that change rows, executed by Postgres, and the operations of the
REST helper that send them.
-/

namespace ServerComponents
namespace Rest

open Relational

inductive Change where
  | insert (tableName : String) (values : KeyValueTable) (returning : Option String)
  | update (tableName : String) (values : KeyValueTable) (columnName value : String)
  | setNull (tableName column columnName value : String)
  | delete (tableName : String) (conditions : List (String × String))

/-- The execution of a change: defaults, constraints, cascades, and the text of a
`RETURNING` clause. -/
structure WriteEngine (s : Schema) extends Engine s where
  execute : Change -> Database s -> Except Exn (Database s × String)

abbrev Tx (s : Schema) (result : Type) := Database s -> Except Exn (result × Database s)

namespace Tx

variable {s : Schema} {a b : Type}

instance : Monad (Tx s) where
  pure := fun value db => .ok (value, db)
  bind := fun p f db => do
    let (value, db') ← p db
    f value db'

def fail (err : Exn) : Tx s a := fun _ => .error err

def lift (x : Except Exn a) : Tx s a := fun db => x.map (fun value => (value, db))

def read (f : Database s -> Except Exn a) : Tx s a := fun db => lift (f db) db

def run (p : Tx s a) (db : Database s) : Except Exn a × Database s :=
  match p db with
  | .ok (value, db') => (.ok value, db')
  | .error err => (.error err, db)

end Tx

namespace DbCrud

variable {s : Schema} (engine : WriteEngine s)

def execute (change : Change) : Tx s String :=
  fun db => (engine.execute change db).map Prod.swap

def addRowToTable (tableName : String) (table : KeyValueTable) : Tx s Unit := do
  let columns ← Tx.lift (DbMeta.listColumns s tableName)
  Tx.lift (checkKeysInTable table columns)
  let _ ← execute engine (.insert tableName table none)
  pure ()

def primaryKeyOf (tableName : String) : Except Exn String := do
  let columns ← DbMeta.listColumns s tableName
  let t ← sqlTable s tableName
  pure (((t.columns.find? (fun c => c.primaryKey && columns.contains c.columnName)).map
    ColumnInfo.columnName).getD "")

def addRowToTableFetchInt64PrimaryKey (tableName : String) (table : KeyValueTable) :
    Tx s Int := do
  let columns ← Tx.lift (DbMeta.listColumns s tableName)
  Tx.lift (checkKeysInTable table columns)
  let primaryKey ← Tx.lift (primaryKeyOf (s := s) tableName)
  let idParam ← execute engine (.insert tableName table (some primaryKey))
  if idParam = "" then
    Tx.fail (.runtimeError
      "AddRowToTableFetchInt64PrimaryKey - Most likely duplicate email.")
  else Tx.lift (stoll idParam)

def updateRow (tableName columnName columnValue : String) (table : KeyValueTable) :
    Tx s Unit := do
  let columns ← Tx.lift (DbMeta.listColumns s tableName)
  Tx.lift (checkKeysInTable table columns)
  Tx.lift (lookupDatabaseColumnInfoByColumnName columns columnName)
  let _ ← execute engine (.update tableName table columnName columnValue)
  pure ()

def deleteRow (tableName columnName columnValue : String) : Tx s Unit := do
  let columns ← Tx.lift (DbMeta.listColumns s tableName)
  Tx.lift (lookupDatabaseColumnInfoByColumnName columns columnName)
  let _ ← execute engine (.delete tableName [(columnName, columnValue)])
  pure ()

end DbCrud

/-- The tables that the application was built with. -/
abbrev DatabaseInfo := List TableInfo

namespace DatabaseInfo

def getTableInfo (info : DatabaseInfo) (tableName : String) : Except Exn TableInfo :=
  match info.find? (fun t => t.tableName == tableName) with
  | none => .error (.invalidArgument
      ("DatabaseInfoImpl::GetTableInfo - table not found: " ++ tableName))
  | some t => .ok t

end DatabaseInfo

/-- An empty text is the only way to clear a text column that refuses NULL. -/
def keepsEmptyString (columnInfo : ColumnInfo) : Bool :=
  ! columnInfo.nullable && columnInfo.isText

def keyValueTableFromJsonValue (info : DatabaseInfo) (tableName : String)
    (jsonValue : Json) : Except Exn KeyValueTable := do
  let tableInfo ← info.getTableInfo tableName
  match jsonValue with
  | .obj children =>
      children.foldlM (fun (keyValueTable : KeyValueTable) e =>
        if e.1 ∈ tableInfo.names then
          .ok (keyValueTable.set e.1 e.2.toSimpleString)
        else .error (.invalidArgument
          ("DatabaseRESTHelper::AddTableValue - invalid key: " ++ e.1)))
        SortedMap.empty
  | _ =>
      throw (.invalidArgument "DatabaseRESTHelper::AddTableValue - expected JSON object")

namespace DatabaseRESTHelper

variable {s : Schema} (engine : WriteEngine s) (info : DatabaseInfo)

def addTableValue (tableName : String) (jsonValue : Json) : Tx s Unit := do
  let keyValueTable ← Tx.lift (keyValueTableFromJsonValue info tableName jsonValue)
  DbCrud.addRowToTable engine tableName keyValueTable

def addTableValueFetchPrimaryKey (tableName : String) (jsonValue : Json) :
    Tx s Json := do
  let tableInfo ← Tx.lift (info.getTableInfo tableName)
  match tableInfo.columns.find? ColumnInfo.primaryKey with
  | none =>
      Tx.fail (.invalidArgument ("DatabaseRESTHelper::AddTableValueFetchPrimaryKey " ++
        "called on table with no primary key: " ++ tableName))
  | some primaryKey => do
      let keyValueTable ← Tx.lift (keyValueTableFromJsonValue info tableName jsonValue)
      let id ← DbCrud.addRowToTableFetchInt64PrimaryKey engine tableName keyValueTable
      pure (.obj [(primaryKey.columnName, .str (toString id))])

/-- The columns that an update sets to NULL: an empty text in a column that does
not keep it. -/
def isCleared (tableInfo : TableInfo) (e : String × String) : Bool :=
  e.2 == "" && (tableInfo.columns.find? (fun c => c.columnName == e.1)).all
    (fun c => ! keepsEmptyString c)

def updateTableValue (tableName columnName value : String) (jsonValue : Json) :
    Tx s Unit := do
  let keyValueTable ← Tx.lift (keyValueTableFromJsonValue info tableName jsonValue)
  let tableInfo ← Tx.lift (info.getTableInfo tableName)
  let nullColumns :=
    (keyValueTable.entries.filter (isCleared tableInfo)).map Prod.fst
  let kept := keyValueTable.filterKeys (fun key => ! nullColumns.contains key)
  if kept.entries ≠ [] then
    DbCrud.updateRow engine tableName columnName value kept
  nullColumns.forM (fun column => do
    let _ ← DbCrud.execute engine (.setNull tableName column columnName value)
    pure ())

def deleteTableValue (tableName columnName value : String) : Tx s Unit :=
  DbCrud.deleteRow engine tableName columnName value

end DatabaseRESTHelper

/-!
# The photo of an item
-/

namespace Photos

variable {s : Schema} (engine : WriteEngine s)

def isPhotoSupportedForTable (tableName : String) : Tx s Bool := do
  let row ← Tx.read (fun db =>
    DbCrud.getRow engine.toEngine db "photo_support_tables" "table_name" tableName)
  pure (! row.entries.isEmpty)

def deleteScaledPhotosBySourcePhotoId (sourcePhotoId : Int) : Tx s Unit := do
  let scaledPhotos ← Tx.read (fun db => DbCrud.selectAll engine.toEngine db
    "scaled_photos" [("source_photo_id", toString sourcePhotoId)])
  let _ ← DbCrud.execute engine
    (.delete "scaled_photos" [("source_photo_id", toString sourcePhotoId)])
  scaledPhotos.forM (fun sp => do
    let photoInstanceId ← Tx.lift (sp.at "photo_instance_id")
    DbCrud.deleteRow engine "photo_instances" "photo_instance_id" photoInstanceId)

def deleteSourcePhoto (id : Int) : Tx s Unit := do
  let sourcePhoto ← Tx.read (fun db => DbCrud.getRow engine.toEngine db
    "source_photos" "source_photo_id" (toString id))
  if sourcePhoto.entries = [] then pure ()
  else do
    let photoInstanceId ← Tx.lift (sourcePhoto.at "photo_instance_id")
    DbCrud.deleteRow engine "source_photos" "source_photo_id" (toString id)
    DbCrud.deleteRow engine "photo_instances" "photo_instance_id" photoInstanceId

def deletePhotoForItem (tableName : String) (tableItemId : Int) : Tx s Bool := do
  let key := [("table_name", tableName), ("table_item_id", toString tableItemId)]
  let rows ← Tx.read (fun db =>
    DbCrud.selectAll engine.toEngine db "table_item_photos" key)
  match rows with
  | [] => pure false
  | tipRow :: _ => do
      let sourcePhotoId ← Tx.lift (do stoll (← tipRow.at "source_photo_id"))
      let _ ← DbCrud.execute engine (.delete "table_item_photos" key)
      deleteScaledPhotosBySourcePhotoId engine sourcePhotoId
      deleteSourcePhoto engine sourcePhotoId
      pure true

end Photos

end Rest
end ServerComponents
