import Mathlib.Algebra.GroupWithZero.Nat
import Mathlib.Data.List.Sort
import ServerComponents.Auth.Schema
import ServerComponents.Images.ImageFormats
import ServerComponents.Util.Bytea

/-!
# The photo tables

The binary data stands in `photo_instances`, in the text that Postgres answers for it.
Deleting a row takes the rows that refer to it along, as the foreign keys say; that a new
row refers to rows that are there is not checked again.
-/

namespace ServerComponents
namespace Images

open Relational Statements SqlUtil
open Auth (orUniqueViolation)

structure PhotoInstance where
  id : Nat
  photo : List Char
  type : String
  width : Int
  height : Int
  deriving Repr, DecidableEq

structure SourcePhoto where
  id : Nat
  photoInstanceId : Nat
  createdAtUs : Int
  lastUpdatedAtUs : Int
  deriving Repr, DecidableEq

structure ScaledPhoto where
  id : Nat
  sourcePhotoId : Nat
  photoInstanceId : Nat
  width : Int
  height : Int
  lastUsedAtUs : Int
  deriving Repr, DecidableEq

structure TableItemPhoto where
  id : Nat
  tableName : String
  tableItemId : Int
  sourcePhotoId : Nat
  deriving Repr, DecidableEq

def PhotoInstance.Clash (i i' : PhotoInstance) : Prop := i.id = i'.id

def SourcePhoto.Clash (s s' : SourcePhoto) : Prop := s.id = s'.id

def ScaledPhoto.Clash (c c' : ScaledPhoto) : Prop := c.id = c'.id

def TableItemPhoto.Clash (t t' : TableItemPhoto) : Prop :=
  t.id = t'.id ∨ (t.tableName = t'.tableName ∧ t.tableItemId = t'.tableItemId)

instance : DecidableRel PhotoInstance.Clash := fun _ _ => inferInstanceAs (Decidable (_ = _))

instance : DecidableRel SourcePhoto.Clash := fun _ _ => inferInstanceAs (Decidable (_ = _))

instance : DecidableRel ScaledPhoto.Clash := fun _ _ => inferInstanceAs (Decidable (_ = _))

instance : DecidableRel TableItemPhoto.Clash :=
  fun _ _ => inferInstanceAs (Decidable (_ ∨ _))

structure PhotoDb where
  photoSupportTables : List String
  photoInstances : Table PhotoInstance PhotoInstance.Clash
  sourcePhotos : Table SourcePhoto SourcePhoto.Clash
  scaledPhotos : Table ScaledPhoto ScaledPhoto.Clash
  tableItemPhotos : Table TableItemPhoto TableItemPhoto.Clash
  deriving DecidableEq

abbrev PhotoSql (result : Type) := Prog Env PhotoDb Exn result

namespace PhotoDb

def fresh (photoSupportTables : List String) : PhotoDb where
  photoSupportTables := photoSupportTables
  photoInstances := Table.empty
  sourcePhotos := Table.empty
  scaledPhotos := Table.empty
  tableItemPhotos := Table.empty

def instanceById (db : PhotoDb) (id : Nat) : Option PhotoInstance :=
  db.photoInstances.find? (fun i => i.id == id)

def sourceById (db : PhotoDb) (id : Nat) : Option SourcePhoto :=
  db.sourcePhotos.find? (fun s => s.id == id)

def itemPhoto (db : PhotoDb) (tableName : String) (tableItemId : Int) :
    Option TableItemPhoto :=
  db.tableItemPhotos.find? (fun t => t.tableName == tableName && t.tableItemId == tableItemId)

/-- `DELETE` of source photos, with the scaled photos and the links of each. -/
def deleteSources (db : PhotoDb) (sel : SourcePhoto -> Bool) : PhotoDb :=
  let gone := (db.sourcePhotos.rows.filter sel).map (fun s => s.id)
  { db with
    sourcePhotos := db.sourcePhotos.delete sel
    scaledPhotos := db.scaledPhotos.delete (fun c => decide (c.sourcePhotoId ∈ gone))
    tableItemPhotos := db.tableItemPhotos.delete (fun t => decide (t.sourcePhotoId ∈ gone)) }

/-- `DELETE` of an instance, with the photos that refer to it. -/
def deleteInstance (db : PhotoDb) (id : Nat) : PhotoDb :=
  let rest := db.deleteSources (fun s => s.photoInstanceId == id)
  { rest with
    photoInstances := rest.photoInstances.delete (fun i => i.id == id)
    scaledPhotos := rest.scaledPhotos.delete (fun c => c.photoInstanceId == id) }

end PhotoDb

def deleteInstanceRow (id : Nat) : PhotoSql Unit :=
  Prog.exec (fun _ db => .ok ((), db.deleteInstance id))

/-- One `DELETE` for each of the ids. -/
def deleteInstanceRows : List Nat -> PhotoSql Unit
  | [] => pure ()
  | id :: rest => do
      deleteInstanceRow id
      deleteInstanceRows rest

namespace PhotoSupportTables

def isPhotoSupportedForTable (tableName : String) : PhotoSql Bool :=
  Prog.ask (fun _ db => .ok (decide (tableName ∈ db.photoSupportTables)))

end PhotoSupportTables

namespace PhotoInstances

def addPhotoInstance (photoBytes : List Char) (type : String) (width height : Int) :
    PhotoSql Nat :=
  Prog.exec (fun _ db => do
    let (row, table) ← orUniqueViolation (db.photoInstances.insert? (fun id =>
      { id := id, photo := photoBytes, type := type, width := width, height := height }))
    pure (row.id, { db with photoInstances := table }))

def getPhotoInstance (id : Nat) : PhotoSql (Option PhotoInstance) :=
  Prog.ask (fun _ db => .ok (db.instanceById id))

end PhotoInstances

namespace SourcePhotos

def addSourcePhoto (photoInstanceId : Nat) : PhotoSql Nat :=
  Prog.exec (fun env db => do
    let (row, table) ← orUniqueViolation (db.sourcePhotos.insert? (fun id =>
      { id := id, photoInstanceId := photoInstanceId, createdAtUs := env.now
        lastUpdatedAtUs := env.now }))
    pure (row.id, { db with sourcePhotos := table }))

def getSourcePhoto (id : Nat) : PhotoSql (Option SourcePhoto) :=
  Prog.ask (fun _ db => .ok (db.sourceById id))

def getSourcePhotoWithInstance (id : Nat) : PhotoSql (Option (SourcePhoto × PhotoInstance)) :=
  Prog.ask (fun _ db => .ok ((db.sourceById id).bind (fun s =>
    (db.instanceById s.photoInstanceId).map (fun i => (s, i)))))

def deleteSourcePhoto (id : Nat) : PhotoSql Unit := do
  match ← getSourcePhoto id with
  | none => pure ()
  | some sourcePhoto => do
      Prog.exec (fun _ db => .ok ((), db.deleteSources (fun s => s.id == id)))
      deleteInstanceRow sourcePhoto.photoInstanceId

end SourcePhotos

namespace ScaledPhotos

def addScaledPhoto (sourcePhotoId photoInstanceId : Nat) (width height : Int) :
    PhotoSql Nat :=
  Prog.exec (fun env db => do
    let (row, table) ← orUniqueViolation (db.scaledPhotos.insert? (fun id =>
      { id := id, sourcePhotoId := sourcePhotoId, photoInstanceId := photoInstanceId
        width := width, height := height, lastUsedAtUs := env.now }))
    pure (row.id, { db with scaledPhotos := table }))

def getScaledPhoto (id : Nat) : PhotoSql (Option ScaledPhoto) :=
  Prog.ask (fun _ db => .ok (db.scaledPhotos.find? (fun c => c.id == id)))

def getScaledPhotoBySourceAndDimensions (sourcePhotoId : Nat) (width height : Int) :
    PhotoSql (Option ScaledPhoto) :=
  Prog.ask (fun _ db => .ok (db.scaledPhotos.find? (fun c =>
    c.sourcePhotoId == sourcePhotoId && c.width == width && c.height == height)))

def getScaledPhotosBySourcePhotoId (sourcePhotoId : Nat) : PhotoSql (List ScaledPhoto) :=
  Prog.ask (fun _ db =>
    .ok (db.scaledPhotos.rows.filter (fun c => c.sourcePhotoId == sourcePhotoId)))

def updateLastUsedAtUs (id : Nat) : PhotoSql Unit :=
  Prog.exec (fun env db => do
    let (_, table) ← orUniqueViolation (db.scaledPhotos.update? (fun c => c.id == id)
      (fun c => { c with lastUsedAtUs := env.now }))
    pure ((), { db with scaledPhotos := table }))

/-- `DELETE ... RETURNING photo_instance_id`; nothing refers to a scaled photo. -/
def deleteRows (sel : ScaledPhoto -> Bool) : PhotoSql (List Nat) :=
  Prog.exec (fun _ db =>
    .ok ((db.scaledPhotos.rows.filter sel).map (fun c => c.photoInstanceId),
      { db with scaledPhotos := db.scaledPhotos.delete sel }))

def deleteScaledPhoto (id : Nat) : PhotoSql Unit := do
  match ← getScaledPhoto id with
  | none => pure ()
  | some scaledPhoto => do
      let _ ← deleteRows (fun c => c.id == id)
      deleteInstanceRow scaledPhoto.photoInstanceId

def deleteScaledPhotosBySourcePhotoId (sourcePhotoId : Nat) : PhotoSql Unit := do
  let scaledPhotos ← getScaledPhotosBySourcePhotoId sourcePhotoId
  let _ ← deleteRows (fun c => c.sourcePhotoId == sourcePhotoId)
  deleteInstanceRows (scaledPhotos.map (fun c => c.photoInstanceId))

def LeastRecentlyUsed (c c' : ScaledPhoto) : Prop := c.lastUsedAtUs ≤ c'.lastUsedAtUs

instance : DecidableRel LeastRecentlyUsed := fun _ _ => inferInstanceAs (Decidable (_ ≤ _))

def getScaledPhotosOlderThan (cutoffUs : Int) : PhotoSql (List ScaledPhoto) :=
  Prog.ask (fun _ db =>
    .ok ((db.scaledPhotos.rows.filter (fun c => decide (c.lastUsedAtUs < cutoffUs))).insertionSort
      LeastRecentlyUsed))

def deleteOlderThan (cutoffUs : Int) : PhotoSql Int := do
  let deletedRows ← deleteRows (fun c => decide (c.lastUsedAtUs < cutoffUs))
  deleteInstanceRows deletedRows
  pure deletedRows.length

/-- The lengths of the instances that the scaled photos are joined with. -/
def storageBytes (db : PhotoDb) : Int :=
  let lengths := db.scaledPhotos.rows.flatMap (fun c =>
    (db.photoInstances.rows.filter (fun i => i.id == c.photoInstanceId)).map
      (fun i => (byteaHexDecode i.photo).length))
  (lengths.sum : Nat)

def getTotalScaledPhotoStorageBytes : PhotoSql Int :=
  Prog.ask (fun _ db => .ok (storageBytes db))

def getScaledPhotosOrderedByLastUsed (limit : Nat) : PhotoSql (List ScaledPhoto) :=
  Prog.ask (fun _ db =>
    .ok ((db.scaledPhotos.rows.insertionSort LeastRecentlyUsed).take limit))

end ScaledPhotos

namespace TableItemPhotos

def addTableItemPhoto (tableName : String) (tableItemId : Int) (sourcePhotoId : Nat) :
    PhotoSql Nat :=
  Prog.exec (fun _ db => do
    let (row, table) ← orUniqueViolation (db.tableItemPhotos.insert? (fun id =>
      { id := id, tableName := tableName, tableItemId := tableItemId
        sourcePhotoId := sourcePhotoId }))
    pure (row.id, { db with tableItemPhotos := table }))

def getTableItemPhoto (tableName : String) (tableItemId : Int) :
    PhotoSql (Option TableItemPhoto) :=
  Prog.ask (fun _ db => .ok (db.itemPhoto tableName tableItemId))

def deleteTableItemPhoto (tableName : String) (tableItemId : Int) : PhotoSql Unit :=
  Prog.exec (fun _ db => .ok ((), { db with
    tableItemPhotos := db.tableItemPhotos.delete (fun t =>
      t.tableName == tableName && t.tableItemId == tableItemId) }))

def hasPhoto (tableName : String) (tableItemId : Int) : PhotoSql Bool := do
  let row ← getTableItemPhoto tableName tableItemId
  pure row.isSome

end TableItemPhotos

end Images
end ServerComponents
