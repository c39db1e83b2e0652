import ServerComponents.Images.PhotoTables

/-!
# The image helper

An item's photo is stored once, as it was uploaded or shrunk to the limits.  Its copies in
other sizes are made when they are asked for and kept for the next request; a vector has no
copies.
-/

namespace ServerComponents
namespace Images

open Statements SqlUtil

structure SourcePhotoInfo where
  id : Nat := 0
  photoInstanceId : Nat := 0
  type : String := ""
  width : Int := 0
  height : Int := 0
  createdAtUs : Int := 0
  lastUpdatedAtUs : Int := 0
  deriving Repr, DecidableEq

structure UploadResult where
  success : Bool := false
  errorMessage : String := ""
  sourcePhoto : SourcePhotoInfo := {}
  deriving Repr, DecidableEq

structure ScaledPhotoResult where
  success : Bool := false
  errorMessage : String := ""
  photo : PhotoData :=
    { bytes := [], type := "", width := 0, height := 0, lastUpdatedAtUs := 0 }
  sourceLastUpdatedAtUs : Int := 0
  deriving Repr, DecidableEq

/-- What the lookups of a secrets helper answer in a transaction, if there is one. -/
abbrev SecretsHelperPtr := Option (String -> Except Exn String)

def kImageMaxSourceWidth := "image_max_source_width"

def kImageMaxSourceHeight := "image_max_source_height"

def maxSourceDimension (text : String) : Except Exn Int :=
  if text = "" then .ok 4096 else stoi text

def maxSourceDimensions : SecretsHelperPtr -> PhotoSql (Int × Int)
  | none => pure (4096, 4096)
  | some lookupSecret => do
      let maxWidthStr ← Prog.ofExcept (lookupSecret kImageMaxSourceWidth)
      let maxHeightStr ← Prog.ofExcept (lookupSecret kImageMaxSourceHeight)
      let maxWidth ← Prog.ofExcept (maxSourceDimension maxWidthStr)
      let maxHeight ← Prog.ofExcept (maxSourceDimension maxHeightStr)
      pure (maxWidth, maxHeight)

/-!
# Uploads and deletions
-/

def cascadeDeleteSourcePhoto (sourcePhotoId : Nat) : PhotoSql Unit := do
  ScaledPhotos.deleteScaledPhotosBySourcePhotoId sourcePhotoId
  SourcePhotos.deleteSourcePhoto sourcePhotoId

def deletePhotoForItem (tableName : String) (tableItemId : Int) : PhotoSql Bool := do
  match ← TableItemPhotos.getTableItemPhoto tableName tableItemId with
  | none => pure false
  | some tipRow => do
      TableItemPhotos.deleteTableItemPhoto tableName tableItemId
      cascadeDeleteSourcePhoto tipRow.sourcePhotoId
      pure true

def deletePhotoIfPresent (tableName : String) (tableItemId : Int) : PhotoSql Unit := do
  let present ← TableItemPhotos.hasPhoto tableName tableItemId
  if present then do
    let _ ← deletePhotoForItem tableName tableItemId
    pure ()
  else pure ()

/-- The instance, the source photo and the link of an upload that has been accepted. -/
def storePhoto (tableName : String) (tableItemId : Int) (imageType : String)
    (photo : PhotoData) : PhotoSql UploadResult := do
  let photoInstanceId ← PhotoInstances.addPhotoInstance (byteaHexEncode photo.bytes) imageType
    photo.width photo.height
  let sourcePhotoId ← SourcePhotos.addSourcePhoto photoInstanceId
  let _ ← TableItemPhotos.addTableItemPhoto tableName tableItemId sourcePhotoId
  let sourceRow ← SourcePhotos.getSourcePhotoWithInstance sourcePhotoId
  pure
    { success := true
      sourcePhoto :=
        { id := sourcePhotoId
          photoInstanceId := photoInstanceId
          type := imageType
          width := photo.width
          height := photo.height
          createdAtUs := (sourceRow.map (fun r => r.1.createdAtUs)).getD 0
          lastUpdatedAtUs := (sourceRow.map (fun r => r.1.lastUpdatedAtUs)).getD 0 } }

/-- What is stored of a vector: the bytes as they came, and no size. -/
def vectorData (imageBytes : List UInt8) (imageType : String) : PhotoData where
  bytes := imageBytes
  type := imageType
  width := 0
  height := 0
  lastUpdatedAtUs := 0

def uploadAndAssociatePhoto (library : ImageLibrary) (secretsHelper : SecretsHelperPtr)
    (tableName : String) (tableItemId : Int) (imageBytes : List UInt8)
    (imageType : String) : PhotoSql UploadResult := do
  let supported ← PhotoSupportTables.isPhotoSupportedForTable tableName
  if supported = false then
    pure { errorMessage := "Photos are not supported for table '" ++ tableName ++ "'" }
  else if isVectorType imageType then
    if isSvgDocument imageBytes = false then
      pure { errorMessage := "The file is not an SVG document" }
    else do
      let _ ← maxSourceDimensions secretsHelper
      deletePhotoIfPresent tableName tableItemId
      storePhoto tableName tableItemId imageType (vectorData imageBytes imageType)
  else
    match imageTypeFromString imageType with
    | none => pure { errorMessage := "Unsupported image type '" ++ imageType ++ "'" }
    | some imageTypeEnum => do
        let limits ← maxSourceDimensions secretsHelper
        let photo ← Prog.ofExcept (enforceMaxDimensions library imageBytes imageType
          imageTypeEnum limits.1 limits.2)
        deletePhotoIfPresent tableName tableItemId
        storePhoto tableName tableItemId imageType photo

/-!
# Scaled photos
-/

def getSourcePhotoForItem (tableName : String) (tableItemId : Int) :
    PhotoSql (Option SourcePhotoInfo) := do
  match ← TableItemPhotos.getTableItemPhoto tableName tableItemId with
  | none => pure none
  | some tipRow => do
      match ← SourcePhotos.getSourcePhotoWithInstance tipRow.sourcePhotoId with
      | none => pure none
      | some (source, photoInstance) =>
          pure (some
            { id := tipRow.sourcePhotoId
              photoInstanceId := source.photoInstanceId
              type := photoInstance.type
              width := photoInstance.width
              height := photoInstance.height
              createdAtUs := source.createdAtUs
              lastUpdatedAtUs := source.lastUpdatedAtUs })

def PhotoInstance.data (i : PhotoInstance) : PhotoData where
  bytes := byteaHexDecode i.photo
  type := i.type
  width := i.width
  height := i.height
  lastUpdatedAtUs := 0

def cachedScaledPhoto (sourcePhotoId : Nat) (width height : Int) :
    PhotoSql (Option PhotoData) := do
  match ← ScaledPhotos.getScaledPhotoBySourceAndDimensions sourcePhotoId width height with
  | none => pure none
  | some cachedRow => do
      ScaledPhotos.updateLastUsedAtUs cachedRow.id
      let instanceRow ← PhotoInstances.getPhotoInstance cachedRow.photoInstanceId
      pure (instanceRow.map PhotoInstance.data)

def resized (library : ImageLibrary) (source : PhotoInstance) (imageTypeEnum : ImageType)
    (width height : Int) : Except Exn PhotoData := do
  let fitted := getClippedRect library { width := source.width, height := source.height }
    { width := width, height := height }
  let scaledBytes ← library.resizeImage (byteaHexDecode source.photo) fitted.width
    fitted.height imageTypeEnum
  pure { bytes := scaledBytes, type := source.type, width := fitted.width
         height := fitted.height, lastUpdatedAtUs := 0 }

def createScaledPhoto (library : ImageLibrary) (sourcePhotoId : Nat) (width height : Int) :
    PhotoSql ScaledPhotoResult := do
  match ← SourcePhotos.getSourcePhotoWithInstance sourcePhotoId with
  | none => pure { errorMessage := "Source photo not found" }
  | some (source, _) => do
      match ← PhotoInstances.getPhotoInstance source.photoInstanceId with
      | none => pure { errorMessage := "Source photo instance not found" }
      | some sourceInstance =>
          if isVectorType sourceInstance.type then
            pure { success := true
                   photo := vectorData (byteaHexDecode sourceInstance.photo)
                     sourceInstance.type }
          else
            match imageTypeFromString sourceInstance.type with
            | none => pure { errorMessage := "Unsupported source image type" }
            | some imageTypeEnum => do
                let scaled ← Prog.ofExcept (resized library sourceInstance imageTypeEnum
                  width height)
                let scaledInstanceId ← PhotoInstances.addPhotoInstance
                  (byteaHexEncode scaled.bytes) sourceInstance.type scaled.width scaled.height
                let _ ← ScaledPhotos.addScaledPhoto sourcePhotoId scaledInstanceId width height
                pure { success := true, photo := scaled }

def getOrCreateScaledPhoto (library : ImageLibrary) (sourcePhotoId : Nat)
    (width height : Int) : PhotoSql ScaledPhotoResult := do
  match ← cachedScaledPhoto sourcePhotoId width height with
  | some photo => pure { success := true, photo := photo }
  | none => createScaledPhoto library sourcePhotoId width height

def getScaledPhotoForItem (library : ImageLibrary) (tableName : String) (tableItemId : Int)
    (width height : Int) : PhotoSql ScaledPhotoResult := do
  match ← getSourcePhotoForItem tableName tableItemId with
  | none => pure { errorMessage := "No photo found for item" }
  | some sourceInfo => do
      let result ← getOrCreateScaledPhoto library sourceInfo.id width height
      pure { result with sourceLastUpdatedAtUs := sourceInfo.lastUpdatedAtUs }

/-!
# Eviction
-/

def deleteEachScaledPhoto : List ScaledPhoto -> PhotoSql Unit
  | [] => pure ()
  | row :: rest => do
      ScaledPhotos.deleteScaledPhoto row.id
      deleteEachScaledPhoto rest

def deleteScaledPhotosOlderThan (maxAgeUs : Int) : PhotoSql Int := do
  let nowUs ← Prog.ask (fun env _ => .ok (env.now : Int))
  let oldPhotos ← ScaledPhotos.getScaledPhotosOlderThan (nowUs - maxAgeUs)
  deleteEachScaledPhoto oldPhotos
  pure oldPhotos.length

/-- The loop, for a number of rounds that its caller knows to be enough. -/
def deleteOldestScaledPhotosUntilSize (targetBytes : Int) : Nat -> PhotoSql Int
  | 0 => pure 0
  | rounds + 1 => do
      let currentBytes ← ScaledPhotos.getTotalScaledPhotoStorageBytes
      if currentBytes ≤ targetBytes then pure 0
      else
        match ← ScaledPhotos.getScaledPhotosOrderedByLastUsed 1 with
        | [] => pure 0
        | oldest :: _ => do
            ScaledPhotos.deleteScaledPhoto oldest.id
            let deletedCount ← deleteOldestScaledPhotosUntilSize targetBytes rounds
            pure (deletedCount + 1)

end Images
end ServerComponents
