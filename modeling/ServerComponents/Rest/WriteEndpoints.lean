import ServerComponents.Rest.EndpointAuthHelper

/-!
# The generic write endpoints

Four endpoints change a row of a table that the request names.  Each asks
whether the caller may read the table.
-/

namespace ServerComponents
namespace Rest

open Relational

inductive WriteRequest where
  | addItem (message : Json)
  | addItemFetchPrimaryKey (message : Json)
  | updateItem (message : Json)
  | deleteItem (tableName columnName value : String)

/-- The request after the checks of its form: the table that it names, and the
work behind the check of the table. -/
structure ParsedWrite (s : Schema) where
  tableName : String
  write : Tx s Json

namespace WriteRequest

variable {s : Schema} (engine : WriteEngine s) (info : DatabaseInfo)

def requireChild (message : Json) (key : String) : Except Exn Json :=
  match message.child? key with
  | none => .error (.invalidArgument (key ++ " not found."))
  | some value => .ok value

def requireObject (message : Json) : Except Exn Unit :=
  if message.hasChildren then .ok ()
  else .error (.invalidArgument "Invalid JSON object.")

def parseAdd (message : Json) : Except Exn (String × Json) := do
  requireObject message
  let tableNameValue ← requireChild message "table_name"
  let value ← requireChild message "value"
  match tableNameValue with
  | .str tableName => pure (tableName, value)
  | _ => throw (.invalidArgument "table_name must be a string.")

def parseUpdate (message : Json) : Except Exn (String × Json × String × String) := do
  requireObject message
  let tableNameValue ← requireChild message "table_name"
  let value ← requireChild message "value"
  let columnNameValue ← requireChild message "column_name"
  let columnValueValue ← requireChild message "column_value"
  match tableNameValue, columnNameValue, columnValueValue with
  | .str tableName, .str columnName, .str columnValue =>
      pure (tableName, value, columnName, columnValue)
  | _, _, _ => throw (.invalidArgument "Invalid message types.")

/-- The photo of a deleted item goes first, if the table has photos. -/
def deletePhoto (tableName value : String) : Tx s Unit :=
  if (s.find? "photo_support_tables").isSome then do
    let supported ← Photos.isPhotoSupportedForTable engine tableName
    if supported then do
      let tableItemId ← Tx.lift (stoll value)
      let _ ← Photos.deletePhotoForItem engine tableName tableItemId
      pure ()
    else pure ()
  else pure ()

def parse : WriteRequest -> Except Exn (ParsedWrite s)
  | addItem message => do
      let (tableName, value) ← parseAdd message
      pure
        { tableName := tableName
          write := do
            DatabaseRESTHelper.addTableValue engine info tableName value
            pure .null }
  | addItemFetchPrimaryKey message => do
      let (tableName, value) ← parseAdd message
      pure
        { tableName := tableName
          write :=
            DatabaseRESTHelper.addTableValueFetchPrimaryKey engine info tableName value }
  | updateItem message => do
      let (tableName, value, columnName, columnValue) ← parseUpdate message
      pure
        { tableName := tableName
          write := do
            DatabaseRESTHelper.updateTableValue engine info tableName columnName
              columnValue value
            pure .null }
  | deleteItem tableName columnName value =>
      pure
        { tableName := tableName
          write := do
            deletePhoto engine tableName value
            DatabaseRESTHelper.deleteTableValue engine tableName columnName value
            pure .null }

def requireTableAllowed (session : Session) (tableName : String) : Tx s Unit := do
  let (allowed, swallowed) ← Tx.read (fun db =>
    EndpointAuthHelper.isTableAllowed engine.toEngine session db tableName)
  if allowed then
    match swallowed with
    | some (.sql err) => Tx.fail (.sql err)
    | _ => pure ()
  else
    Tx.fail (.invalidArgument ("Table(" ++ tableName ++ ") is not an allowed table."))

def endpoint (session : Session) (request : WriteRequest) : Tx s Json := do
  let parsed ← Tx.lift (request.parse engine info)
  requireTableAllowed engine session parsed.tableName
  parsed.write

def serve (session : Session) (request : WriteRequest) (db : Database s) : Database s :=
  ((request.endpoint engine info session).run db).2

/-!
# The law
-/

/-- The transaction of the request changes rows of the table, whichever table the request
names. -/
def Changes (session : Session) (db : Database s) (tableName : String)
    (request : WriteRequest) : Prop :=
  (request.serve engine info session db).rows tableName ≠ db.rows tableName

/-- Only a caller with write access changes rows of the table. -/
def WritesAuthorised (session : Session) (db : Database s) (tableName : String) : Prop :=
  forall request, Changes engine info session db tableName request ->
    EndpointAuthHelper.requireTableWriteAccess engine.toEngine session db tableName =
      .granted

/-- Some request that names the one table would change the other, if nobody checked the
caller: the same table, the photo tables of a table with photos, or what the database
changes along. -/
def Reaches (db : Database s) (named tableName : String) : Prop :=
  exists (request : WriteRequest) (parsed : ParsedWrite s),
    request.parse engine info = .ok parsed ∧ parsed.tableName = named ∧
      (parsed.write.run db).2.rows tableName ≠ db.rows tableName

/-- The application's base list can be read. -/
def ListReadable (db : Database s) : Prop :=
  exists tables, TableHelpers.getAllowedTables engine.toEngine db = .ok tables

/-- A database error in the look-up of the caller's roles aborts the
transaction. -/
def LookupAborts (session : Session) (db : Database s) : Prop :=
  exists err, EndpointAuthHelper.swallowedException engine.toEngine session db =
    some (.sql err)

/-- The check lets the caller through to the table. -/
def Passes (session : Session) (db : Database s) (tableName : String) : Prop :=
  (exists swallowed, EndpointAuthHelper.isTableAllowed engine.toEngine session db
      tableName = .ok (true, swallowed)) ∧
    Not (LookupAborts engine session db)

section Rules

variable {engine} {info} {session : Session} {db : Database s} {request : WriteRequest}
  {parsed : ParsedWrite s} {tableName : String}

theorem requireTableAllowed_cases (engine : WriteEngine s) (session : Session)
    (tableName : String) (db : Database s) :
    (Not (Passes engine session db tableName) ∧
        exists err, requireTableAllowed engine session tableName db = .error err) ∨
      (Passes engine session db tableName ∧
        requireTableAllowed engine session tableName db = .ok ((), db)) := by
  unfold Passes requireTableAllowed
  cases hallowed : EndpointAuthHelper.isTableAllowed engine.toEngine session db
      tableName with
  | error err =>
      left
      simp [Tx.read, Tx.lift, hallowed, bind, Except.bind, Except.map]
  | ok pair =>
      rcases pair with ⟨allowed, swallowed⟩
      have hswallowed := EndpointAuthHelper.isTableAllowed_swallowed _ _ _ hallowed
      have hread : Tx.read (fun db => EndpointAuthHelper.isTableAllowed engine.toEngine
          session db tableName) db = .ok ((allowed, swallowed), db) := by
        simp [Tx.read, Tx.lift, hallowed, Except.map]
      cases allowed with
      | false =>
          left
          simp [hread, Tx.fail, bind, Except.bind]
      | true =>
          by_cases haborts : LookupAborts engine session db
          · left
            refine ⟨fun h => h.2 haborts, ?_⟩
            rcases haborts with ⟨err, herr⟩
            rw [← hswallowed] at herr
            simp [hread, herr, Tx.fail, bind, Except.bind]
          · refine Or.inr ⟨⟨⟨swallowed, rfl⟩, haborts⟩, ?_⟩
            cases swallowed with
            | none => simp [hread, bind, Except.bind, pure]
            | some exn =>
                cases exn with
                | sql err => exact absurd ⟨err, hswallowed.symm⟩ haborts
                | runtimeError what => simp [hread, bind, Except.bind, pure]
                | invalidArgument what => simp [hread, bind, Except.bind, pure]
                | outOfRange what => simp [hread, bind, Except.bind, pure]

theorem serve_cases (hparse : request.parse engine info = .ok parsed) :
    (Not (Passes engine session db parsed.tableName) ∧
        request.serve engine info session db = db) ∨
      (Passes engine session db parsed.tableName ∧
        request.serve engine info session db = (parsed.write.run db).2) := by
  have hendpoint : request.endpoint engine info session db =
      (do
        let (_, db') ← requireTableAllowed engine session parsed.tableName db
        parsed.write db') := by
    simp [endpoint, Tx.lift, hparse, bind, Except.bind, Except.map]
  unfold serve Tx.run
  rw [hendpoint]
  rcases requireTableAllowed_cases engine session parsed.tableName db with
    ⟨hnot, err, herr⟩ | ⟨hpasses, hok⟩
  · rw [herr]
    exact Or.inl ⟨hnot, rfl⟩
  · rw [hok]
    exact Or.inr ⟨hpasses, rfl⟩

theorem Changes.passes (h : Changes engine info session db tableName request) :
    exists named, Passes engine session db named ∧ Reaches engine info db named tableName := by
  unfold Changes at h
  cases hparse : request.parse engine info with
  | error err =>
      refine absurd ?_ h
      simp [serve, Tx.run, endpoint, Tx.lift, hparse, bind, Except.bind, Except.map]
  | ok parsed =>
      rcases serve_cases hparse with ⟨_, hserve⟩ | ⟨hpasses, hserve⟩
      · rw [hserve] at h
        exact absurd rfl h
      · rw [hserve] at h
        exact ⟨_, hpasses, request, parsed, hparse, rfl, h⟩

theorem Reaches.changes {named : String} (h : Reaches engine info db named tableName)
    (hpasses : Passes engine session db named) :
    exists request, Changes engine info session db tableName request := by
  rcases h with ⟨request, parsed, hparse, hname, hchange⟩
  rw [← hname] at hpasses
  rcases serve_cases hparse with ⟨hnot, _⟩ | ⟨_, hserve⟩
  · exact absurd hpasses hnot
  · refine ⟨request, ?_⟩
    unfold Changes
    rw [hserve]
    exact hchange

end Rules

/-- The law holds of a caller and a table exactly when the caller has write access to it,
the look-up of the caller's roles aborts every transaction, the base list cannot be read, or
the caller may read no table by which the rows can be reached. -/
theorem writeAuthorisation (session : Session) (db : Database s) (tableName : String) :
    WritesAuthorised engine info session db tableName <->
      (EndpointAuthHelper.requireTableWriteAccess engine.toEngine session db tableName =
          .granted ∨
        LookupAborts engine session db ∨ Not (ListReadable engine db) ∨
        forall named, Reaches engine info db named tableName ->
          Not (EndpointAuthHelper.PubliclyReadable engine.toEngine db named) ∧
            EndpointAuthHelper.requireTableWriteAccess engine.toEngine session db named ≠
              .granted) := by
  constructor
  · intro hlaw
    by_contra hnot
    simp only [not_or, not_not] at hnot
    rcases hnot with ⟨hrefused, haborts, hlist, hreach⟩
    apply hreach
    intro named hreaches
    refine ⟨fun hpublic => ?_, fun hgranted => ?_⟩
    · rcases hreaches.changes ⟨⟨_, EndpointAuthHelper.isTableAllowed_of_public engine.toEngine
        session db hpublic⟩, haborts⟩ with ⟨request, hchange⟩
      exact hrefused (hlaw request hchange)
    · rcases hreaches.changes ⟨EndpointAuthHelper.isTableAllowed_of_granted engine.toEngine
        session db hlist hrefused hgranted, haborts⟩ with ⟨request, hchange⟩
      exact hrefused (hlaw request hchange)
  · intro hcondition request hchange
    rcases hchange.passes with ⟨named, ⟨⟨swallowed, hallowed⟩, hlookup⟩, hreaches⟩
    rcases hcondition with hgranted | haborts | hunreadable | hreach
    · exact hgranted
    · exact absurd haborts hlookup
    · exact absurd (EndpointAuthHelper.listReadable_of_allowed _ _ _ hallowed) hunreadable
    · rcases EndpointAuthHelper.isTableAllowed_cases _ _ _ hallowed with hpublic | hgranted
      · exact absurd hpublic (hreach named hreaches).1
      · exact absurd hgranted (hreach named hreaches).2

end WriteRequest

/-!
## An anonymous write to a public table
-/

section PublicTable

/-- Text columns without constraints or defaults. -/
def WriteEngine.plain (s : Schema) : WriteEngine s where
  toEngine := Engine.plain s
  execute := fun change db =>
    match change with
    | .insert tableName values returning =>
        .ok ({ rows := fun name =>
                if name = tableName then db.rows name ++ [values.find?] else db.rows name },
          (returning.bind values.find?).getD "")
    | .update tableName values columnName value =>
        .ok ({ rows := fun name =>
                if name = tableName then
                  (db.rows name).map (fun row =>
                    if row columnName = some value then
                      fun c => (values.find? c).or (row c)
                    else row)
                else db.rows name }, "")
    | .setNull tableName column columnName value =>
        .ok ({ rows := fun name =>
                if name = tableName then
                  (db.rows name).map (fun row =>
                    if row columnName = some value then
                      fun c => if c = column then none else row c
                    else row)
                else db.rows name }, "")
    | .delete tableName conditions =>
        .ok ({ rows := fun name =>
                if name = tableName then
                  (db.rows name).filter (fun row =>
                    ! conditions.all (fun e => decide (row e.1 = some e.2)))
                else db.rows name }, "")

def textColumn (name : String) : ColumnInfo where
  columnName := name
  primaryKey := false
  nullable := false
  isText := true

def newsSchema : Schema where
  tables := [{ tableName := "allowed_tables", columns := [textColumn "name"] },
    { tableName := "news", columns := [textColumn "title"] }]
  folded := by decide +kernel

def newsDatabase : Database newsSchema where
  rows := fun name =>
    if name = "allowed_tables" then
      [fun c => if c = "name" then some "news" else none]
    else []

def anonymous : Session := { personId := -1 }

def addNews : WriteRequest :=
  .addItem (.obj [("table_name", .str "news"),
    ("value", .obj [("title", .str "written by nobody")])])

/-- A caller without a session adds a row. -/
theorem writesAuthorised_fails :
    Not (forall tableName, WriteRequest.WritesAuthorised (WriteEngine.plain newsSchema)
      newsSchema.tables anonymous newsDatabase tableName) := by
  intro hlaw
  have hchange : WriteRequest.Changes (WriteEngine.plain newsSchema) newsSchema.tables
      anonymous newsDatabase "news" addNews := by
    intro hsame
    have hlength := congrArg List.length hsame
    revert hlength
    decide +kernel
  have hgranted := hlaw "news" addNews hchange
  revert hgranted
  decide

end PublicTable

end Rest
end ServerComponents
