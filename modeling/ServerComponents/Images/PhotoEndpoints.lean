import ServerComponents.Images.PhotoRuns
import ServerComponents.Rest.Json

/-!
# The photo endpoints

One endpoint answers an item's photo as it is stored, the other one answers it for a box that
is clamped to the configured limits.  Both answer under a tag made of the time at which the
photo was stored, and a request that names this tag gets no picture.
-/

namespace ServerComponents
namespace Images

open Relational Statements SqlUtil
open Rest

def imageMimeType (storedType : String) : String :=
  if isVectorType storedType then "image/svg+xml" else "image/" ++ storedType

def kImageMaxPublicScaledWidth := "image_max_public_scaled_width"

def kImageMaxPublicScaledHeight := "image_max_public_scaled_height"

def maxPublicDimension (text : String) : Except Exn Int :=
  if text = "" then .ok 800 else stoi text

/-- A box that is too large on either side is clipped, in its own proportions. -/
def clampToPublicSize (library : ImageLibrary) (secretsHelper : SecretsHelperPtr)
    (width height : Int) : Except Exn Rect :=
  match secretsHelper with
  | none => .ok { width := width, height := height }
  | some lookupSecret => do
      let maxWidthStr ← lookupSecret kImageMaxPublicScaledWidth
      let maxHeightStr ← lookupSecret kImageMaxPublicScaledHeight
      let maxWidth ← maxPublicDimension maxWidthStr
      let maxHeight ← maxPublicDimension maxHeightStr
      if maxWidth < width ∨ maxHeight < height then
        pure (getClippedRect library { width := width, height := height }
          { width := maxWidth, height := maxHeight })
      else
        pure { width := width, height := height }

def getSourcePhotoData (tableName : String) (tableItemId : Int) :
    PhotoSql (Option PhotoData) := do
  match ← getSourcePhotoForItem tableName tableItemId with
  | none => pure none
  | some sourceInfo => do
      let instanceRow ← PhotoInstances.getPhotoInstance sourceInfo.photoInstanceId
      pure (instanceRow.map (fun i =>
        { i.data with lastUpdatedAtUs := sourceInfo.lastUpdatedAtUs }))

/-!
# Requests and answers
-/

inductive PhotoUrl where
  | photo (tableName : String) (tableItemId : Int)
  | scaledPhoto (tableName : String) (tableItemId width height : Int)
  deriving Repr, DecidableEq

/-- What a request brings besides its URL, and what the helper finds out about it. -/
structure PhotoVisit where
  ifNoneMatch : String
  loggedIn : Except Exn Bool
  isPublicTable : Bool
  databaseAvailable : Bool
  tableAllowed : Except Exn Bool

inductive PhotoResponse where
  | ok (headers : List (String × String)) (body : List UInt8)
  | notModified
  | error (response : Rest.Response)
  deriving Repr, DecidableEq

def photoTag (lastUpdatedAtUs : Int) : String := "\"" ++ toString lastUpdatedAtUs ++ "\""

def photoHeaders (photo : PhotoData) (cacheControl etag : String) : List (String × String) :=
  [("Content-Type", imageMimeType photo.type), ("X-Content-Type-Options", "nosniff"),
    ("Cache-Control", cacheControl), ("ETag", etag)]

/-- The picture, unless the request names its tag. -/
def conditionally (visit : PhotoVisit) (cacheControl : String) (lastUpdatedAtUs : Int)
    (photo : PhotoData) : PhotoResponse :=
  let etag := photoTag lastUpdatedAtUs
  if visit.ifNoneMatch ≠ "" ∧ visit.ifNoneMatch = etag then .notModified
  else .ok (photoHeaders photo cacheControl etag) photo.bytes

def tableNotAllowed (tableName : String) : PhotoResponse :=
  .error (ErrorResponse.validationError ("Table(" ++ tableName ++ ") is not an allowed table."))

def getPhoto (visit : PhotoVisit) (tableName : String) (tableItemId : Int) :
    PhotoSql PhotoResponse := do
  let allowed ← Prog.ofExcept visit.tableAllowed
  if allowed = false then pure (tableNotAllowed tableName)
  else
    match ← getSourcePhotoData tableName tableItemId with
    | none => pure (.error (ErrorResponse.notFound "No photo found for this item"))
    | some photoData =>
        pure (conditionally visit "private, no-cache" photoData.lastUpdatedAtUs photoData)

def scaledPhotoCacheControl (visit : PhotoVisit) : String :=
  if visit.isPublicTable then "public, no-cache" else "private, no-cache"

def getScaledPhoto (library : ImageLibrary) (secretsHelper : SecretsHelperPtr)
    (visit : PhotoVisit) (tableName : String) (tableItemId width height : Int) :
    PhotoSql PhotoResponse := do
  let allowed ← Prog.ofExcept (if visit.isPublicTable then .ok true else visit.tableAllowed)
  if allowed = false then pure (tableNotAllowed tableName)
  else do
    let box ← Prog.ofExcept (clampToPublicSize library secretsHelper width height)
    let scaledResult ← getScaledPhotoForItem library tableName tableItemId box.width box.height
    if scaledResult.success = false then
      pure (.error (ErrorResponse.notFound scaledResult.errorMessage))
    else
      pure (conditionally visit (scaledPhotoCacheControl visit)
        scaledResult.sourceLastUpdatedAtUs scaledResult.photo)

namespace PhotoUrl

/-- The answer of a request that comes to no transaction. -/
def refusal (visit : PhotoVisit) : PhotoUrl -> Except Exn (Option Rest.Response)
  | photo _ _ => do
      let loggedIn ← visit.loggedIn
      pure (if loggedIn = false then some (ErrorResponse.notAuthenticated "Login required")
        else if visit.databaseAvailable = false then
          some (ErrorResponse.internalError "Database unavailable")
        else none)
  | scaledPhoto _ _ width height => do
      let loggedIn ← visit.loggedIn
      pure (if width ≤ 0 ∨ height ≤ 0 then
          some (ErrorResponse.badRequest "Width and height must be positive")
        else if visit.isPublicTable = false ∧ loggedIn = false then
          some (ErrorResponse.notAuthenticated "Login required")
        else if visit.databaseAvailable = false then
          some (ErrorResponse.internalError "Database unavailable")
        else none)

def transaction (library : ImageLibrary) (secretsHelper : SecretsHelperPtr)
    (visit : PhotoVisit) : PhotoUrl -> PhotoSql PhotoResponse
  | photo tableName tableItemId => getPhoto visit tableName tableItemId
  | scaledPhoto tableName tableItemId width height =>
      getScaledPhoto library secretsHelper visit tableName tableItemId width height

/-- An exception is answered once for both endpoints. -/
def handleGet (library : ImageLibrary) (secretsHelper : SecretsHelperPtr) (env : Env)
    (visit : PhotoVisit) (url : PhotoUrl) (db : PhotoDb) : PhotoResponse × PhotoDb :=
  match url.refusal visit with
  | .error _ => (.error (ErrorResponse.internalError), db)
  | .ok (some response) => (.error response, db)
  | .ok none =>
      match Prog.transact env (url.transaction library secretsHelper visit) db with
      | (.ok response, db') => (response, db')
      | (.error _, db') => (.error (ErrorResponse.internalError), db')

end PhotoUrl

/-!
# The picture behind an answer
-/

def PhotoDb.shown (db : PhotoDb) (tableName : String) (tableItemId : Int) :
    Option (SourcePhoto × PhotoInstance) :=
  (db.itemPhoto tableName tableItemId).bind (fun t =>
    (db.sourceById t.sourcePhotoId).bind (fun s =>
      (db.instanceById s.photoInstanceId).map (fun i => (s, i))))

theorem PhotoDb.shown_mem {db : PhotoDb} {tableName : String} {tableItemId : Int}
    {s : SourcePhoto} {i : PhotoInstance}
    (h : db.shown tableName tableItemId = some (s, i)) :
    s ∈ db.sourcePhotos.rows ∧ i ∈ db.photoInstances.rows ∧ i.id = s.photoInstanceId := by
  rcases Option.bind_eq_some_iff.mp h with ⟨t, _, h⟩
  rcases Option.bind_eq_some_iff.mp h with ⟨s', hsource, h⟩
  rcases Option.map_eq_some_iff.mp h with ⟨i', hinstance, hpair⟩
  cases hpair
  rcases Table.find?_some hinstance with ⟨hi, hid⟩
  exact ⟨(Table.find?_some hsource).1, hi, by simpa using hid⟩

/-- What an item's photo is to look like at a URL. -/
def PhotoUrl.Shows (library : ImageLibrary) (secretsHelper : SecretsHelperPtr)
    (i : PhotoInstance) : PhotoUrl -> PhotoData -> Prop
  | .photo _ _, picture => picture.bytes = i.data.bytes ∧ picture.type = i.type
  | .scaledPhoto _ _ width height, picture =>
      exists box, clampToPublicSize library secretsHelper width height = .ok box ∧
        ScaledFrom library i box.width box.height picture

def PhotoUrl.shownIn (db : PhotoDb) : PhotoUrl -> Option (SourcePhoto × PhotoInstance)
  | .photo tableName tableItemId => db.shown tableName tableItemId
  | .scaledPhoto tableName tableItemId _ _ => db.shown tableName tableItemId

/-- An answer with a picture shows the item's photo under the time at which it was stored. -/
inductive Answers (library : ImageLibrary) (secretsHelper : SecretsHelperPtr)
    (visit : PhotoVisit) (db : PhotoDb) (url : PhotoUrl) : PhotoResponse -> Prop
  | error (response : Rest.Response) :
      Answers library secretsHelper visit db url (.error response)
  | shown {s : SourcePhoto} {i : PhotoInstance} {photo : PhotoData} (cacheControl : String)
      (hshown : url.shownIn db = some (s, i))
      (hphoto : url.Shows library secretsHelper i photo) :
      Answers library secretsHelper visit db url
        (conditionally visit cacheControl s.lastUpdatedAtUs photo)

section Answers

variable {library : ImageLibrary} {secretsHelper : SecretsHelperPtr} {env : Env}
  {visit : PhotoVisit} {db : PhotoDb} {url : PhotoUrl}

theorem ensures_getSourcePhotoForItem_shown (tableName : String) (tableItemId : Int) :
    Prog.Ensures env (getSourcePhotoForItem tableName tableItemId) (fun found db' => db' = db ∧
      forall sourceInfo, found = some sourceInfo ->
        exists s i, db.shown tableName tableItemId = some (s, i) ∧ sourceInfo.id = s.id ∧
          sourceInfo.photoInstanceId = s.photoInstanceId ∧
            sourceInfo.lastUpdatedAtUs = s.lastUpdatedAtUs) db := by
  apply Prog.ensures_bind_ask
  intro row hread
  cases hread
  cases hfind : db.itemPhoto tableName tableItemId with
  | none => exact Prog.ensures_done ⟨rfl, fun _ hnone => nomatch hnone⟩
  | some t =>
      apply Prog.ensures_bind_ask
      intro pair hread
      have hpair := Except.ok.inj hread
      cases pair with
      | none => exact Prog.ensures_done ⟨rfl, fun _ hnone => nomatch hnone⟩
      | some pair =>
          refine Prog.ensures_done ⟨rfl, ?_⟩
          intro sourceInfo hinfo
          have hshown : db.shown tableName tableItemId = some (pair.1, pair.2) := by
            unfold PhotoDb.shown
            rw [hfind]
            exact hpair
          rcases Option.bind_eq_some_iff.mp hpair with ⟨s, hsource, hmap⟩
          rcases Option.map_eq_some_iff.mp hmap with ⟨i, _, hsame⟩
          have hid : s.id = t.sourcePhotoId := by simpa using (Table.find?_some hsource).2
          refine ⟨pair.1, pair.2, hshown, ?_, ?_, ?_⟩
          · rw [← Option.some.inj hinfo, ← hsame]
            exact hid.symm
          · rw [← Option.some.inj hinfo]
          · rw [← Option.some.inj hinfo]

theorem ensures_getSourcePhotoData (tableName : String) (tableItemId : Int) :
    Prog.Ensures env (getSourcePhotoData tableName tableItemId) (fun found db' => db' = db ∧
      forall photo, found = some photo ->
        exists s i, db.shown tableName tableItemId = some (s, i) ∧
          photo = { i.data with lastUpdatedAtUs := s.lastUpdatedAtUs }) db := by
  refine Prog.Ensures.bind (ensures_getSourcePhotoForItem_shown tableName tableItemId) ?_
  rintro found db' ⟨hdb, hshown⟩
  rw [hdb]
  cases found with
  | none => exact Prog.ensures_done ⟨rfl, fun _ hnone => nomatch hnone⟩
  | some sourceInfo =>
      rcases hshown sourceInfo rfl with ⟨s, i, hshown, _, hinstance, htime⟩
      apply Prog.ensures_bind_ask
      intro instanceRow hread
      cases hread
      refine Prog.ensures_done ⟨rfl, ?_⟩
      intro photo hphoto
      rcases Option.map_eq_some_iff.mp hphoto with ⟨i', hfind, rfl⟩
      rcases Table.find?_some hfind with ⟨hi', hid'⟩
      rcases PhotoDb.shown_mem hshown with ⟨_, hi, hid⟩
      have hid' : i'.id = i.id := by
        rw [hid, ← hinstance]
        simpa using hid'
      have hsame : i' = i := Table.eq_of_clash (fun hc => Eq.symm hc) hi' hi hid'
      exact ⟨s, i, hshown, by rw [hsame, htime]⟩

theorem ensures_getScaledPhotoForItem_shown (h : Consistent library [] [] db)
    (tableName : String) (tableItemId width height : Int) :
    Prog.Ensures env (getScaledPhotoForItem library tableName tableItemId width height)
      (fun result db' => Consistent library [] [] db' ∧ (result.success = true ->
        exists s i, db.shown tableName tableItemId = some (s, i) ∧
          result.sourceLastUpdatedAtUs = s.lastUpdatedAtUs ∧
            ScaledFrom library i width height result.photo)) db := by
  refine Prog.Ensures.bind (ensures_getSourcePhotoForItem_shown tableName tableItemId) ?_
  rintro found db₁ ⟨hdb, hshown⟩
  rw [hdb]
  cases found with
  | none => exact Prog.ensures_done ⟨h, fun hfailed => nomatch hfailed⟩
  | some sourceInfo =>
      rcases hshown sourceInfo rfl with ⟨s, i, hshown, hsource, _, htime⟩
      refine Prog.Ensures.bind (ensures_getOrCreateScaledPhoto h sourceInfo.id width height) ?_
      rintro result db₂ ⟨h₂, hserved⟩
      refine Prog.ensures_done ⟨h₂, fun hsuccess => ⟨s, i, hshown, htime, ?_⟩⟩
      -- The source photo and its instance are the only ones with their ids.
      rcases hserved hsuccess with ⟨s', i', hs', hsid', hi', hiid', hscaled⟩
      rcases PhotoDb.shown_mem hshown with ⟨hs, hi, hiid⟩
      have hsame : s' = s :=
        Table.eq_of_clash (fun hc => Eq.symm hc) hs' hs (hsid'.trans hsource)
      have hsame' : i' = i := by
        rw [hsame, ← hiid] at hiid'
        exact Table.eq_of_clash (fun hc => Eq.symm hc) hi' hi hiid'
      rw [← hsame']
      exact hscaled

theorem ensures_transaction (h : Consistent library [] [] db) :
    Prog.Ensures env (url.transaction library secretsHelper visit) (fun response db' =>
      Consistent library [] [] db' ∧
        Answers library secretsHelper visit db url response) db := by
  cases url with
  | photo tableName tableItemId =>
      apply Prog.ensures_bind_ofExcept
      intro allowed _
      split
      · exact Prog.ensures_done ⟨h, Answers.error _⟩
      · refine Prog.Ensures.bind (ensures_getSourcePhotoData tableName tableItemId) ?_
        rintro found db' ⟨hdb, hshown⟩
        rw [hdb]
        cases found with
        | none => exact Prog.ensures_done ⟨h, Answers.error _⟩
        | some photo =>
            rcases hshown photo rfl with ⟨s, i, hshown, hphoto⟩
            have htime : photo.lastUpdatedAtUs = s.lastUpdatedAtUs := by rw [hphoto]
            refine Prog.ensures_done ⟨h, ?_⟩
            rw [htime]
            refine Answers.shown _ hshown ?_
            rw [hphoto]
            exact ⟨rfl, rfl⟩
  | scaledPhoto tableName tableItemId width height =>
      apply Prog.ensures_bind_ofExcept
      intro allowed _
      split
      · exact Prog.ensures_done ⟨h, Answers.error _⟩
      · apply Prog.ensures_bind_ofExcept
        intro box hbox
        refine Prog.Ensures.bind (ensures_getScaledPhotoForItem_shown h _ _ _ _) ?_
        rintro result db' ⟨h', hshown⟩
        split
        · exact Prog.ensures_done ⟨h', Answers.error _⟩
        · rename_i hsuccess
          have hsuccess : result.success = true := by simpa using hsuccess
          rcases hshown hsuccess with ⟨s, i, hshown, htime, hscaled⟩
          refine Prog.ensures_done ⟨h', ?_⟩
          rw [htime]
          exact Answers.shown _ hshown ⟨box, hbox, hscaled⟩

theorem handleGet_answers (h : Consistent library [] [] db) :
    Answers library secretsHelper visit db url
      (url.handleGet library secretsHelper env visit db).1 := by
  unfold PhotoUrl.handleGet
  split
  · exact Answers.error _
  · exact Answers.error _
  · split
    · rename_i response db' hrun
      have hanswer : (Prog.transact env (url.transaction library secretsHelper visit) db).1 =
          .ok response := congrArg Prod.fst hrun
      exact ((ensures_transaction h).transact hanswer).2
    · exact Answers.error _

end Answers

/-!
# Requests that name a tag
-/

def PhotoVisit.naming (visit : PhotoVisit) (tag : String) : PhotoVisit :=
  { visit with ifNoneMatch := tag }

/-- What becomes of an answer when the request names a tag. -/
def PhotoResponse.unlessNamed (tag : String) : PhotoResponse -> PhotoResponse
  | .ok headers body =>
      if tag ≠ "" ∧ headers.lookup "ETag" = some tag then .notModified else .ok headers body
  | response => response

theorem lookup_contentType (photo : PhotoData) (cacheControl etag : String) :
    (photoHeaders photo cacheControl etag).lookup "Content-Type" =
      some (imageMimeType photo.type) := rfl

theorem lookup_etag (photo : PhotoData) (cacheControl etag : String) :
    (photoHeaders photo cacheControl etag).lookup "ETag" = some etag := rfl

theorem conditionally_naming (visit : PhotoVisit) (cacheControl : String)
    (lastUpdatedAtUs : Int) (photo : PhotoData) :
    conditionally visit cacheControl lastUpdatedAtUs photo =
      (conditionally (visit.naming "") cacheControl lastUpdatedAtUs photo).unlessNamed
        visit.ifNoneMatch := by
  have hfull : conditionally (visit.naming "") cacheControl lastUpdatedAtUs photo =
      .ok (photoHeaders photo cacheControl (photoTag lastUpdatedAtUs)) photo.bytes := by
    unfold conditionally
    exact if_neg (fun hnamed => hnamed.1 rfl)
  rw [hfull]
  unfold PhotoResponse.unlessNamed
  dsimp only
  rw [lookup_etag]
  by_cases hnamed : visit.ifNoneMatch ≠ "" ∧ visit.ifNoneMatch = photoTag lastUpdatedAtUs
  · rw [if_pos ⟨hnamed.1, congrArg some hnamed.2.symm⟩]
    exact if_pos hnamed
  · rw [if_neg (fun h => hnamed ⟨h.1, (Option.some.inj h.2).symm⟩)]
    exact if_neg hnamed

theorem transaction_naming (library : ImageLibrary) (secretsHelper : SecretsHelperPtr)
    (visit : PhotoVisit) (url : PhotoUrl) :
    url.transaction library secretsHelper visit =
      (url.transaction library secretsHelper (visit.naming "")).bind
        (fun response => Prog.done (response.unlessNamed visit.ifNoneMatch)) := by
  cases url with
  | photo tableName tableItemId =>
      change getPhoto visit tableName tableItemId =
        (getPhoto (visit.naming "") tableName tableItemId).bind _
      unfold getPhoto
      simp only [Prog.bind_eq, Prog.bind_assoc]
      congr 1
      funext allowed
      split
      · rfl
      · rw [Prog.bind_assoc]
        congr 1
        funext found
        cases found with
        | none => rfl
        | some photo => exact congrArg Prog.done (conditionally_naming visit _ _ _)
  | scaledPhoto tableName tableItemId width height =>
      change getScaledPhoto library secretsHelper visit tableName tableItemId width height =
        (getScaledPhoto library secretsHelper (visit.naming "") tableName tableItemId width
          height).bind _
      unfold getScaledPhoto
      simp only [Prog.bind_eq, Prog.bind_assoc]
      congr 1
      funext allowed
      split
      · rfl
      · rw [Prog.bind_assoc]
        congr 1
        funext box
        rw [Prog.bind_assoc]
        congr 1
        funext result
        split
        · rfl
        · exact congrArg Prog.done (conditionally_naming visit _ _ _)

theorem handleGet_naming (library : ImageLibrary) (secretsHelper : SecretsHelperPtr)
    (env : Env) (visit : PhotoVisit) (url : PhotoUrl) (db : PhotoDb) :
    (url.handleGet library secretsHelper env visit db).1 =
      (url.handleGet library secretsHelper env (visit.naming "") db).1.unlessNamed
        visit.ifNoneMatch := by
  have hrefusal : url.refusal (visit.naming "") = url.refusal visit := by cases url <;> rfl
  unfold PhotoUrl.handleGet
  rw [hrefusal, transaction_naming]
  cases url.refusal visit with
  | error err => rfl
  | ok refused =>
      cases refused with
      | some response => rfl
      | none =>
          unfold Prog.transact
          dsimp only
          rw [Prog.run_bind]
          rcases (url.transaction library secretsHelper (visit.naming "")).run env db with
            ⟨outcome, db'⟩
          cases outcome with
          | ok response => rfl
          | error err => rfl

end Images
end ServerComponents
