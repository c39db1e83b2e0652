import ServerComponents.Images.PhotoRemoval
import ServerComponents.Images.PhotoRuns
import ServerComponents.Rest.SimultaneousUpdate

/-!
# Deleting an item with its photo

`DeleteItem` finds the photo by the number that the value reads as, and the rows by the column
that the caller names.  The photo tables stand apart from the tables of the items: a call
that names one of them is not modelled here.
-/

namespace ServerComponents
namespace Rest

open Relational Statements SqlUtil
open Images (PhotoDb PhotoSql Consistent TableItemPhoto Removed)

/-- What Postgres does beside the rows that a `DELETE` selects: foreign keys that refuse it,
and rows of any table that go along. -/
structure DeleteEngine (s : Schema) extends Engine s where
  permits : Database s -> String -> (Row -> Bool) -> Except Exn Unit
  takesAlong : Database s -> String -> (Row -> Bool) -> String -> Row -> Bool

def Database.without {s : Schema} (db : Database s) (doomed : String -> Row -> Bool) :
    Database s where
  rows := fun name => (db.rows name).filter (fun row => ! doomed name row)

namespace DeleteEngine

variable {s : Schema} (engine : DeleteEngine s)

/-- The rows that go when these rows of a table are deleted. -/
def doomed (db : Database s) (tableName : String) (selected : Row -> Bool) (name : String)
    (row : Row) : Bool :=
  (decide (name = tableName) && selected row) || engine.takesAlong db tableName selected name row

def execute (others : Change -> Database s -> Except Exn (Database s × String)) :
    Change -> Database s -> Except Exn (Database s × String)
  | .delete tableName conditions => fun db => do
      let t ← sqlTable s tableName
      let conditions ← DbCrud.whereClause engine.toEngine t conditions
      let selected := DbCrud.holdsAll engine.toEngine t conditions
      engine.permits db t.tableName selected
      pure (db.without (engine.doomed db t.tableName selected), "")
  | change => others change

/-- Deletions as they are executed here, and the other changes in any way. -/
def writeEngine (others : Change -> Database s -> Except Exn (Database s × String)) :
    WriteEngine s where
  toEngine := engine.toEngine
  execute := engine.execute others

end DeleteEngine

/-- The tables of the items and, once they are set up, those of the photos, which no deletion
of items names. -/
structure ItemStore (s : Schema) where
  items : Database s
  photos : Option PhotoDb

/-- The row of an item, with its number in the primary key. -/
def Row.HasId (row : Row) (t : TableInfo) (id : Int) : Prop :=
  exists key, t.columns.find? ColumnInfo.primaryKey = some key ∧
    row key.columnName = some (toString id)

def deletePhoto (tableName value : String) : PhotoSql Unit := do
  let supported ← Images.PhotoSupportTables.isPhotoSupportedForTable tableName
  if supported then do
    let tableItemId ← Prog.ofExcept (stoll value)
    let _ ← Images.deletePhotoForItem tableName tableItemId
    pure ()
  else pure ()

structure ItemDeletion where
  tableName : String
  columnName : String
  value : String

namespace ItemDeletion

section Deletions

variable {s : Schema} (engine : DeleteEngine s)
  (others : Change -> Database s -> Except Exn (Database s × String))
  (env : Env) (session : Session) (store : ItemStore s) (deletion : ItemDeletion)

/-- The first step, where the photo tables are set up. -/
def deleteItsPhoto : Option PhotoDb -> Except Exn (Option PhotoDb)
  | none => .ok none
  | some photos =>
      match (deletePhoto deletion.tableName deletion.value).run env photos with
      | (.ok _, photos') => .ok (some photos')
      | (.error e, _) => .error e

/-- The transaction: a failure leaves all tables as they were. -/
def deleteItem : Except Exn (ItemStore s) := do
  let (_, items) ← WriteRequest.requireTableAllowed (engine.writeEngine others) session
    deletion.tableName store.items
  let photos ← deletion.deleteItsPhoto env store.photos
  let (_, items') ← DatabaseRESTHelper.deleteTableValue (engine.writeEngine others)
    deletion.tableName deletion.columnName deletion.value items
  pure { items := items', photos := photos }

def IsOwn (items' : Database s) (photo : TableItemPhoto) : Prop :=
  exists t row, s.find? photo.tableName = some t ∧ row ∈ store.items.rows photo.tableName ∧
    row ∉ items'.rows photo.tableName ∧ row.HasId t photo.tableItemId

/-- The photos of the deleted rows go, and no others. -/
def RemovesOwn : Prop :=
  forall photos store', store.photos = some photos ->
    deletion.deleteItem engine others env session store = .ok store' ->
      exists photos', store'.photos = some photos' ∧
        Removed (IsOwn store store'.items) photos photos'

def isMatch (row : Row) : Bool :=
  engine.equals deletion.tableName deletion.columnName (row deletion.columnName) deletion.value

/-- The rows that the caller selects can be deleted. -/
structure Accepted (photos : PhotoDb) (t : TableInfo) : Prop where
  passes : WriteRequest.Passes (engine.writeEngine others) session store.items deletion.tableName
  find : s.find? deletion.tableName = some t
  column : deletion.columnName ∈ t.names
  castable : engine.castable deletion.tableName deletion.columnName deletion.value = .ok ()
  permits : engine.permits store.items deletion.tableName (deletion.isMatch engine) = .ok ()
  number : deletion.tableName ∈ photos.photoSupportTables ->
    exists id, stoll deletion.value = .ok id

/-- The value reads as the number of an item with a photo exactly when a row of that item is
selected, or goes along with a selected row. -/
def Agrees (photos : PhotoDb) : Prop :=
  forall photo, photo ∈ photos.tableItemPhotos.rows ->
    ((photo.tableName = deletion.tableName ∧
        stoll deletion.value = .ok photo.tableItemId) <->
      exists t row, s.find? photo.tableName = some t ∧
        row ∈ store.items.rows photo.tableName ∧
          engine.doomed store.items deletion.tableName (deletion.isMatch engine)
            photo.tableName row = true ∧
            row.HasId t photo.tableItemId)

end Deletions

section Law

variable {s : Schema} {engine : DeleteEngine s}
  {others : Change -> Database s -> Except Exn (Database s × String)}
  (env : Env) {session : Session} {store : ItemStore s} {deletion : ItemDeletion}
  {library : Images.ImageLibrary} {photos : PhotoDb} {t : TableInfo}

theorem whereClause_deletion (hfind : s.find? deletion.tableName = some t)
    (hcolumn : deletion.columnName ∈ t.names)
    (hcastable : engine.castable deletion.tableName deletion.columnName deletion.value =
      .ok ()) :
    DbCrud.whereClause engine.toEngine t [(deletion.columnName, deletion.value)] =
      .ok [(deletion.columnName, deletion.value)] := by
  unfold DbCrud.whereClause
  rw [List.mapM_cons, sqlColumn_of_mem hfind hcolumn]
  simp only [bind, Except.bind, (Schema.find?_some hfind).2, hcastable]
  rfl

theorem holdsAll_deletion (hname : t.tableName = deletion.tableName) :
    DbCrud.holdsAll engine.toEngine t [(deletion.columnName, deletion.value)] =
      deletion.isMatch engine := by
  funext row
  unfold DbCrud.holdsAll isMatch
  simp [hname]

theorem execute_deletion (items : Database s) : (engine.writeEngine others).execute
    (.delete deletion.tableName [(deletion.columnName, deletion.value)]) items = (do
      let t ← sqlTable s deletion.tableName
      let conditions ← DbCrud.whereClause engine.toEngine t
        [(deletion.columnName, deletion.value)]
      let selected := DbCrud.holdsAll engine.toEngine t conditions
      engine.permits items t.tableName selected
      pure (items.without (engine.doomed items t.tableName selected), "")) := rfl

theorem deleteTableValue_accepted (h : deletion.Accepted engine others session store photos t) :
    DatabaseRESTHelper.deleteTableValue (engine.writeEngine others) deletion.tableName
        deletion.columnName deletion.value store.items =
      .ok ((), store.items.without
        (engine.doomed store.items deletion.tableName (deletion.isMatch engine))) := by
  have hname := (Schema.find?_some h.find).2
  have hwhere := whereClause_deletion h.find h.column h.castable
  have hselected := @holdsAll_deletion s engine deletion t hname
  have hexecute : (engine.writeEngine others).execute
      (.delete deletion.tableName [(deletion.columnName, deletion.value)]) store.items =
        .ok (store.items.without
          (engine.doomed store.items deletion.tableName (deletion.isMatch engine)), "") := by
    rw [execute_deletion, sqlTable_of_exact h.find]
    simp only [bind, Except.bind, hwhere, hselected, hname, h.permits]
    rfl
  unfold DatabaseRESTHelper.deleteTableValue DbCrud.deleteRow
    DbCrud.lookupDatabaseColumnInfoByColumnName
  rw [listColumns_of_exact h.find]
  simp only [bind, Except.bind, Tx.lift, Except.map, if_pos h.column, DbCrud.execute, hexecute]
  rfl

theorem mem_without {db : Database s} {doomed : String -> Row -> Bool} {name : String}
    {row : Row} :
    row ∈ (db.without doomed).rows name <-> row ∈ db.rows name ∧ doomed name row = false := by
  unfold Database.without
  rw [List.mem_filter]
  simp

theorem deleteTableValue_ok {items' : Database s}
    (h : DatabaseRESTHelper.deleteTableValue (engine.writeEngine others) deletion.tableName
      deletion.columnName deletion.value store.items = .ok ((), items')) :
    exists t, s.find? deletion.tableName = some t ∧ deletion.columnName ∈ t.names ∧
      engine.castable deletion.tableName deletion.columnName deletion.value = .ok () ∧
        engine.permits store.items deletion.tableName (deletion.isMatch engine) = .ok () := by
  unfold DatabaseRESTHelper.deleteTableValue DbCrud.deleteRow
    DbCrud.lookupDatabaseColumnInfoByColumnName at h
  rcases listColumns_cases s deletion.tableName with ⟨t, hfind⟩ | hnone | hnil
  · have hname := (Schema.find?_some hfind).2
    rw [listColumns_of_exact hfind] at h
    by_cases hcolumn : deletion.columnName ∈ t.names
    · refine ⟨t, hfind, hcolumn, ?_⟩
      simp only [bind, Except.bind, Tx.lift, Except.map, if_pos hcolumn, DbCrud.execute] at h
      cases hexecute : (engine.writeEngine others).execute
          (.delete deletion.tableName [(deletion.columnName, deletion.value)]) store.items with
      | error e =>
          rw [hexecute] at h
          cases h
      | ok pair =>
          rw [execute_deletion, sqlTable_of_exact hfind] at hexecute
          rcases exceptBind_ok hexecute with ⟨t', ht', hexecute⟩
          cases ht'
          rcases exceptBind_ok hexecute with ⟨conditions, hwhere, hexecute⟩
          rcases exceptBind_ok hexecute with ⟨_, hpermits, -⟩
          have hcastable : engine.castable deletion.tableName deletion.columnName
              deletion.value = .ok () := by
            unfold DbCrud.whereClause at hwhere
            rcases exceptMapM_passes hwhere _ (List.mem_singleton.mpr rfl) with ⟨e, he⟩
            rw [sqlColumn_of_mem hfind hcolumn] at he
            rcases exceptBind_ok he with ⟨column, hsame, he⟩
            cases hsame
            rcases exceptBind_ok he with ⟨_, hcast, -⟩
            rw [hname] at hcast
            exact hcast
          rw [whereClause_deletion hfind hcolumn hcastable] at hwhere
          rw [← Except.ok.inj hwhere, holdsAll_deletion hname, hname] at hpermits
          exact ⟨hcastable, hpermits⟩
    · simp only [bind, Except.bind, Tx.lift, Except.map, if_neg hcolumn] at h
      cases h
  · rw [hnone] at h
    cases h
  · rw [hnil] at h
    cases h

theorem run_deletePhoto (hphotos : Consistent library [] [] photos)
    (hnumber : deletion.tableName ∈ photos.photoSupportTables ->
      exists id, stoll deletion.value = .ok id) :
    exists photos', (deletePhoto deletion.tableName deletion.value).run env photos =
        (.ok (), photos') ∧ Consistent library [] [] photos' ∧
      Removed (fun photo => photo.tableName = deletion.tableName ∧
        stoll deletion.value = .ok photo.tableItemId) photos photos' := by
  unfold deletePhoto Images.PhotoSupportTables.isPhotoSupportedForTable
  rw [Prog.bind_eq, Prog.run_bind, Prog.run_ask]
  dsimp only
  by_cases hsupported : deletion.tableName ∈ photos.photoSupportTables
  · rcases hnumber hsupported with ⟨id, hid⟩
    rcases Images.run_deletePhotoForItem env hphotos deletion.tableName id with
      ⟨found, photos', hrun, hremoved⟩
    have hconsistent := (Images.ensures_deletePhotoForItem hphotos
      deletion.tableName id) found (congrArg Prod.fst hrun)
    rw [hrun] at hconsistent
    refine ⟨photos', ?_, hconsistent.1, hremoved.congr ?_⟩
    · simp only [hsupported, decide_true, if_true, hid]
      change (Prog.bind (Images.deletePhotoForItem deletion.tableName id)
        (fun _ => Prog.done ())).run env photos = _
      rw [Prog.run_bind, hrun]
      rfl
    · intro photo _
      rw [hid]
      exact and_congr_right (fun _ => ⟨fun heq => by rw [heq], fun heq =>
        (Except.ok.inj heq).symm⟩)
  · refine ⟨photos, ?_, hphotos, Removed.none ?_⟩
    · simp only [hsupported, decide_false]
      rfl
    · rintro photo hphoto ⟨hname, -⟩
      have hmem := hphotos.supported photo hphoto
      rw [hname] at hmem
      exact hsupported hmem

theorem number_of_deletePhoto {photos' : PhotoDb}
    (h : (deletePhoto deletion.tableName deletion.value).run env photos = (.ok (), photos'))
    (hsupported : deletion.tableName ∈ photos.photoSupportTables) :
    exists id, stoll deletion.value = .ok id := by
  cases hid : stoll deletion.value with
  | ok id => exact ⟨id, rfl⟩
  | error e =>
      unfold deletePhoto Images.PhotoSupportTables.isPhotoSupportedForTable at h
      rw [Prog.bind_eq, Prog.run_bind, Prog.run_ask] at h
      simp only [hsupported, decide_true, if_true, hid] at h
      cases congrArg Prod.fst h

theorem deleteItem_accepted (h : deletion.Accepted engine others session store photos t)
    (hstore : store.photos = some photos) (hphotos : Consistent library [] [] photos) :
    exists photos', deletion.deleteItem engine others env session store =
        .ok { items := store.items.without
                (engine.doomed store.items deletion.tableName (deletion.isMatch engine))
              photos := some photos' } ∧ Consistent library [] [] photos' ∧
      Removed (fun photo => photo.tableName = deletion.tableName ∧
        stoll deletion.value = .ok photo.tableItemId) photos photos' := by
  rcases run_deletePhoto env hphotos h.number with
    ⟨photos', hrun, hconsistent, hremoved⟩
  refine ⟨photos', ?_, hconsistent, hremoved⟩
  unfold deleteItem
  rw [hstore]
  rcases WriteRequest.requireTableAllowed_cases (engine.writeEngine others) session
      deletion.tableName store.items with ⟨hnot, -⟩ | ⟨-, hallowed⟩
  · exact absurd h.passes hnot
  · rw [hallowed]
    simp only [bind, Except.bind, deleteItsPhoto, hrun, deleteTableValue_accepted h]
    rfl

theorem accepted_of_ok {store' : ItemStore s} (hstore : store.photos = some photos)
    (h : deletion.deleteItem engine others env session store = .ok store') :
    exists t, deletion.Accepted engine others session store photos t := by
  unfold deleteItem at h
  rw [hstore] at h
  rcases WriteRequest.requireTableAllowed_cases (engine.writeEngine others) session
      deletion.tableName store.items with ⟨-, e, he⟩ | ⟨hpasses, hallowed⟩
  · rw [he] at h
    cases h
  · rw [hallowed] at h
    rcases exceptBind_ok h with ⟨pair, hpair, h⟩
    cases hpair
    rcases exceptBind_ok h with ⟨photos', hphotos', h⟩
    rcases exceptBind_ok h with ⟨⟨_, items'⟩, hitems, -⟩
    rcases deleteTableValue_ok hitems with ⟨t, hfind, hcolumn, hcastable, hpermits⟩
    refine ⟨t, hpasses, hfind, hcolumn, hcastable, hpermits, ?_⟩
    intro hsupported
    unfold deleteItsPhoto at hphotos'
    dsimp only at hphotos'
    cases hrun : (deletePhoto deletion.tableName deletion.value).run env photos with
    | mk reply photos'' =>
        cases reply with
        | error e =>
            rw [hrun] at hphotos'
            cases hphotos'
        | ok _ => exact number_of_deletePhoto env hrun hsupported

theorem consistent_deleteItem {store' : ItemStore s} (hstore : store.photos = some photos)
    (hphotos : Consistent library [] [] photos)
    (h : deletion.deleteItem engine others env session store = .ok store') :
    exists photos', store'.photos = some photos' ∧ Consistent library [] [] photos' := by
  rcases accepted_of_ok env hstore h with ⟨t, haccepted⟩
  rcases deleteItem_accepted env haccepted hstore hphotos with
    ⟨photos', hrun, hconsistent, -⟩
  rw [hrun] at h
  rw [← Except.ok.inj h]
  exact ⟨photos', rfl, hconsistent⟩

theorem isOwn_iff {doomed : String -> Row -> Bool} {photo : TableItemPhoto} :
    IsOwn store (store.items.without doomed) photo <->
      exists t row, s.find? photo.tableName = some t ∧
        row ∈ store.items.rows photo.tableName ∧ doomed photo.tableName row = true ∧
          row.HasId t photo.tableItemId := by
  have hgone : forall row, row ∈ store.items.rows photo.tableName ->
      (row ∉ (store.items.without doomed).rows photo.tableName <->
        doomed photo.tableName row = true) := by
    intro row hrow
    rw [mem_without, not_and, Bool.not_eq_false]
    exact ⟨fun h => h hrow, fun h _ => h⟩
  constructor
  · rintro ⟨t, row, hfind, hrow, hleft, hid⟩
    exact ⟨t, row, hfind, hrow, (hgone row hrow).mp hleft, hid⟩
  · rintro ⟨t, row, hfind, hrow, hdoomed, hid⟩
    exact ⟨t, row, hfind, hrow, (hgone row hrow).mpr hdoomed, hid⟩

/-- The photos of the deleted rows go, and no others, exactly when the number in the value and
the selected rows name the same photos. -/
theorem removesOwn_iff
    (hphotos : forall photos, store.photos = some photos -> Consistent library [] [] photos) :
    deletion.RemovesOwn engine others env session store <->
      forall photos t, store.photos = some photos ->
        deletion.Accepted engine others session store photos t ->
          deletion.Agrees engine store photos := by
  constructor
  · intro hlaw photos t hstore haccepted photo hphoto
    rcases deleteItem_accepted env haccepted hstore (hphotos photos hstore) with
      ⟨photos', hrun, -, hremoved⟩
    rcases hlaw photos _ hstore hrun with ⟨photos'', hphotos'', hown⟩
    rw [← Option.some.inj hphotos''] at hown
    rw [hremoved.iff_of_removed.mp hown photo hphoto]
    exact isOwn_iff
  · intro hagrees photos store' hstore hok
    rcases accepted_of_ok env hstore hok with ⟨t, haccepted⟩
    rcases deleteItem_accepted env haccepted hstore (hphotos photos hstore) with
      ⟨photos', hrun, -, hremoved⟩
    rw [hrun] at hok
    rw [← Except.ok.inj hok]
    refine ⟨photos', rfl, hremoved.congr ?_⟩
    intro photo hphoto
    rw [hagrees photos t hstore haccepted photo hphoto]
    exact isOwn_iff.symm

end Law

end ItemDeletion

/-!
# Deletions among the photo operations
-/

def photoTables : List String :=
  ["photo_instances", "source_photos", "scaled_photos", "photo_support_tables",
    "table_item_photos"]

/-- A call that names a photo table itself is none of these: it would delete rows that the
others refer to.  The tables of the items may change in any other way as well. -/
inductive ItemEvent (s : Schema) where
  | photo (event : Images.PhotoEvent)
  | items (items : Database s)
  | delete (env : Env) (session : Session) (deletion : ItemDeletion)
      (apart : deletion.tableName ∉ photoTables)

section Runs

variable {s : Schema} (engine : DeleteEngine s)
  (others : Change -> Database s -> Except Exn (Database s × String))
  (library : Images.ImageLibrary)

def itemStep (store : ItemStore s) : ItemEvent s -> ItemStore s
  | .photo event =>
      { store with photos := store.photos.map (fun db => Images.photoStep library db event) }
  | .items items => { store with items := items }
  | .delete env session deletion _ =>
      match deletion.deleteItem engine others env session store with
      | .ok store' => store'
      | .error _ => store

def ItemStore.Sound (store : ItemStore s) : Prop :=
  exists photos, store.photos = some photos ∧ Consistent library [] [] photos

theorem sound_itemStep (store : ItemStore s) (event : ItemEvent s) (h : store.Sound library) :
    (itemStep engine others library store event).Sound library := by
  rcases h with ⟨photos, hstore, hphotos⟩
  cases event with
  | photo event =>
      refine ⟨_, ?_, Images.consistent_photoStep hphotos event⟩
      simp only [itemStep, hstore, Option.map_some]
  | items items => exact ⟨photos, hstore, hphotos⟩
  | delete env session deletion _ =>
      dsimp only [itemStep]
      split
      · rename_i store' hok
        exact ItemDeletion.consistent_deleteItem env hstore hphotos hok
      · exact ⟨photos, hstore, hphotos⟩

/-- Whatever items are deleted between the photo operations, by whom and by which column, no
instance is left behind and no photo is without its rows. -/
theorem itemStorage_run (photoSupportTables : List String) (items : Database s)
    (events : List (ItemEvent s)) :
    exists photos, (after (itemStep engine others library)
      ⟨items, some (PhotoDb.fresh photoSupportTables)⟩ events).photos = some photos ∧
        Images.StorageInvariant photos := by
  have hstart : ItemStore.Sound library
      (⟨items, some (PhotoDb.fresh photoSupportTables)⟩ : ItemStore s) :=
    ⟨_, rfl, Images.consistent_fresh library photoSupportTables⟩
  have hrun : (after (itemStep engine others library) _ events).Sound library :=
    invariant_run hstart (sound_itemStep engine others library)
  rcases hrun with ⟨photos, hphotos, hconsistent⟩
  exact ⟨photos, hphotos, hconsistent.storageInvariant⟩

end Runs

/-!
# The position of one task is the number of another
-/

def DeleteEngine.plain (s : Schema) : DeleteEngine s where
  toEngine := Engine.plain s
  permits := fun _ _ _ => .ok ()
  takesAlong := fun _ _ _ _ _ => false

def taskTable : TableInfo where
  tableName := "tasks"
  columns := [{ textColumn "id" with primaryKey := true }, textColumn "position"]

def boardSchema : Schema where
  tables := [{ tableName := "allowed_tables", columns := [textColumn "name"] }, taskTable]
  folded := by decide +kernel

def boardTask (id position : String) : Row := fun c =>
  if c = "id" then some id else if c = "position" then some position else none

/-- Task 1 stands second on the board, and task 2 stands first. -/
def boardItems : Database boardSchema where
  rows := fun name =>
    if name = "allowed_tables" then [fun c => if c = "name" then some "tasks" else none]
    else if name = "tasks" then [boardTask "1" "2", boardTask "2" "1"]
    else []

def vectorsOnly : Images.ImageLibrary where
  getImageDimensions := fun _ => fun _ => .error (.runtimeError "unreadable")
  resizeImage := fun _ _ _ _ => .error (.runtimeError "unreadable")
  scaledSide := fun side _ _ => side

def uploadOfSecond : Images.PhotoEvent :=
  .uploadAndAssociatePhoto (Env.ofClock 0 "") none "tasks" 2 (Images.octets "<svg/>") "svg"

def boardPhotos : PhotoDb :=
  Images.photoStep vectorsOnly (PhotoDb.fresh ["tasks"]) uploadOfSecond

def boardStore : ItemStore boardSchema where
  items := boardItems
  photos := some boardPhotos

def noOtherChange (_ : Change) (db : Database boardSchema) :
    Except Exn (Database boardSchema × String) := .ok (db, "")

def deleteTask (columnName value : String) : ItemDeletion where
  tableName := "tasks"
  columnName := columnName
  value := value

theorem boardPhotos_consistent : Consistent vectorsOnly [] [] boardPhotos :=
  Images.consistent_photoStep (Images.consistent_fresh vectorsOnly ["tasks"]) uploadOfSecond

theorem boardPhotos_links :
    boardPhotos.tableItemPhotos.rows.map (fun t => (t.tableName, t.tableItemId)) =
      [("tasks", 2)] := by
  decide

theorem boardPhotos_only {photo : TableItemPhoto}
    (h : photo ∈ boardPhotos.tableItemPhotos.rows) :
    photo.tableName = "tasks" ∧ photo.tableItemId = 2 := by
  have hmem : (photo.tableName, photo.tableItemId) ∈
      boardPhotos.tableItemPhotos.rows.map (fun t => (t.tableName, t.tableItemId)) :=
    List.mem_map_of_mem h
  rw [boardPhotos_links] at hmem
  simpa using hmem

theorem accepted_deleteTask {columnName value : String} (hcolumn : columnName ∈ taskTable.names)
    (hnumber : stoll value = .ok 2) :
    (deleteTask columnName value).Accepted (DeleteEngine.plain boardSchema) noOtherChange
      anonymous boardStore boardPhotos taskTable where
  passes := by
    refine ⟨⟨_, EndpointAuthHelper.isTableAllowed_of_public _ _ _
      ⟨["tasks"], ?_, List.mem_singleton.mpr rfl⟩⟩, ?_⟩
    · decide +kernel
    · rintro ⟨err, herr⟩
      cases herr
  find := rfl
  column := hcolumn
  castable := rfl
  permits := rfl
  number := fun _ => ⟨2, hnumber⟩

/-- Deleted by its number, task 2 loses its photo. -/
theorem removesOwn_byId :
    (deleteTask "id" "2").RemovesOwn (DeleteEngine.plain boardSchema) noOtherChange
      (Env.ofClock 0 "") anonymous boardStore := by
  have hphotos : forall photos, boardStore.photos = some photos ->
      Consistent vectorsOnly [] [] photos := by
    intro photos hstore
    cases hstore
    exact boardPhotos_consistent
  apply (ItemDeletion.removesOwn_iff _ hphotos).mpr
  intro photos t hstore _ photo hphoto
  cases hstore
  rcases boardPhotos_only hphoto with ⟨hname, hid⟩
  have hnumber : stoll (deleteTask "id" "2").value = .ok 2 := by decide
  have hrow : boardTask "2" "1" ∈ boardStore.items.rows "tasks" := by
    simp [boardStore, boardItems]
  rw [hname, hid]
  refine ⟨fun _ => ⟨taskTable, boardTask "2" "1", rfl, hrow, ?_, ?_⟩, fun _ => ⟨rfl, hnumber⟩⟩
  · decide
  · exact ⟨_, rfl, by decide⟩

/-- Deleted by its position, task 1 takes the photo of task 2 along. -/
theorem deleteTask_takesOther :
    Not ((deleteTask "position" "2").RemovesOwn (DeleteEngine.plain boardSchema) noOtherChange
      (Env.ofClock 0 "") anonymous boardStore) := by
  intro hlaw
  have hnumber : stoll "2" = .ok 2 := by decide
  have hcolumn : "position" ∈ taskTable.names := by decide
  rcases ItemDeletion.deleteItem_accepted (Env.ofClock 0 "")
      (accepted_deleteTask hcolumn hnumber) rfl boardPhotos_consistent with
        ⟨photos', hrun, -, hremoved⟩
  rcases hlaw boardPhotos _ rfl hrun with ⟨photos'', hphotos'', hown⟩
  rw [← Option.some.inj hphotos''] at hown
  have hlinks : boardPhotos.tableItemPhotos.rows ≠ [] := by
    intro hnil
    have hlink := boardPhotos_links
    rw [hnil] at hlink
    cases hlink
  rcases List.exists_mem_of_ne_nil _ hlinks with ⟨photo, hphoto⟩
  rcases boardPhotos_only hphoto with ⟨hname, hid⟩
  have hphotoOwn := (hremoved.iff_of_removed.mp hown photo hphoto).mp
    ⟨hname, by rw [hid]; exact hnumber⟩
  rcases ItemDeletion.isOwn_iff.mp hphotoOwn with ⟨t, row, hfind, hrow, hdoomed, hrowId⟩
  rw [hname] at hfind hrow hdoomed
  rw [hid] at hrowId
  cases hfind
  rcases hrowId with ⟨key, hkey, hvalue⟩
  cases hkey
  have hrows : row = boardTask "1" "2" ∨ row = boardTask "2" "1" := by
    simpa [boardStore, boardItems] using hrow
  rcases hrows with heq | heq
  · rw [heq] at hvalue
    revert hvalue
    decide
  · rw [heq] at hdoomed
    revert hdoomed
    decide

end Rest
end ServerComponents
