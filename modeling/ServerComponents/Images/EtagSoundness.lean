import ServerComponents.Images.PhotoTags
import ServerComponents.Text.JsonGrammar

/-!
# One tag, one picture

A tag leads back to one stored photo, in every later state in which it is answered.  The
picture that is answered depends on one thing more, the limits in force.
-/

namespace ServerComponents
namespace Images

open Relational Statements SqlUtil

theorem photoTag_injective {time time' : Int} (h : photoTag time = photoTag time') :
    time = time' := by
  have hlist := congrArg String.toList h
  unfold photoTag at hlist
  rw [String.toList_append, String.toList_append, String.toList_append,
    String.toList_append] at hlist
  have hdigits := List.append_cancel_left (List.append_cancel_right hlist)
  exact Text.JsonGrammar.toString_int_injective (String.toList_injective hdigits)

/-- The stored photo is a vector, or both boxes clip it to one size. -/
def SameFit (library : ImageLibrary) (i : PhotoInstance) (box box' : Rect) : Prop :=
  isVectorType i.type = true ∨
    getClippedRect library { width := i.width, height := i.height } box =
      getClippedRect library { width := i.width, height := i.height } box'

/-- The limits in force at two requests make no difference to this photo. -/
def PhotoUrl.FitsAlike (library : ImageLibrary) (secretsHelper secretsHelper' : SecretsHelperPtr)
    (i : PhotoInstance) : PhotoUrl -> Prop
  | .photo _ _ => True
  | .scaledPhoto _ _ width height => forall box box',
      clampToPublicSize library secretsHelper width height = .ok box ->
        clampToPublicSize library secretsHelper' width height = .ok box' ->
          SameFit library i box box'

/-- A resized image has the size that was asked for. -/
def ImageLibrary.ResizesToSize (library : ImageLibrary) : Prop :=
  forall bytes width height imageType resized,
    library.resizeImage bytes width height imageType = .ok resized ->
      library.getImageDimensions resized imageType = .ok { width := width, height := height }

section Pictures

variable {library : ImageLibrary} {secretsHelper secretsHelper' : SecretsHelperPtr}
  {i : PhotoInstance} {photo photo' : PhotoData} {url : PhotoUrl}

theorem ScaledFrom.of_sameFit {box box' : Rect}
    (h : ScaledFrom library i box.width box.height photo)
    (h' : ScaledFrom library i box'.width box'.height photo')
    (hfit : SameFit library i box box') : photo = photo' := by
  unfold ScaledFrom at h h'
  split at h
  · rename_i hvector
    rw [if_pos hvector] at h'
    rw [h, h']
  · rename_i hraster
    rw [if_neg hraster] at h'
    rcases h with ⟨imageTypeEnum, htype, hresized⟩
    rcases h' with ⟨imageTypeEnum', htype', hresized'⟩
    have hfit := hfit.resolve_left hraster
    have hsame : imageTypeEnum = imageTypeEnum' := Option.some.inj (htype.symm.trans htype')
    unfold resized at hresized hresized'
    rw [hfit, hsame, hresized'] at hresized
    exact (Except.ok.inj hresized).symm

theorem ScaledFrom.sameFit (hresizes : library.ResizesToSize) {box box' : Rect}
    (h : ScaledFrom library i box.width box.height photo)
    (h' : ScaledFrom library i box'.width box'.height photo')
    (hbytes : photo.bytes = photo'.bytes) : SameFit library i box box' := by
  unfold ScaledFrom at h h'
  split at h
  · rename_i hvector
    exact Or.inl hvector
  · rename_i hraster
    rw [if_neg hraster] at h'
    rcases h with ⟨imageTypeEnum, htype, hresized⟩
    rcases h' with ⟨imageTypeEnum', htype', hresized'⟩
    rw [← Option.some.inj (htype.symm.trans htype')] at hresized'
    rcases exceptBind_ok hresized with ⟨bytes, hcopy, hphoto⟩
    rcases exceptBind_ok hresized' with ⟨bytes', hcopy', hphoto'⟩
    cases hphoto
    cases hphoto'
    have hsize := hresizes _ _ _ _ _ hcopy
    have hsize' := hresizes _ _ _ _ _ hcopy'
    rw [show bytes = bytes' from hbytes] at hsize
    exact Or.inr (Except.ok.inj (hsize.symm.trans hsize'))

theorem PhotoUrl.Shows.same (h : url.Shows library secretsHelper i photo)
    (h' : url.Shows library secretsHelper' i photo')
    (hfits : url.FitsAlike library secretsHelper secretsHelper' i) :
    photo.bytes = photo'.bytes ∧ photo.type = photo'.type := by
  cases url with
  | photo tableName tableItemId => exact ⟨h.1.trans h'.1.symm, h.2.trans h'.2.symm⟩
  | scaledPhoto tableName tableItemId width height =>
      rcases h with ⟨box, hbox, hscaled⟩
      rcases h' with ⟨box', hbox', hscaled'⟩
      rw [hscaled.of_sameFit hscaled' (hfits box box' hbox hbox')]
      exact ⟨rfl, rfl⟩

theorem PhotoUrl.Shows.fitsAlike (hresizes : library.ResizesToSize)
    (h : url.Shows library secretsHelper i photo)
    (h' : url.Shows library secretsHelper' i photo') (hbytes : photo.bytes = photo'.bytes) :
    url.FitsAlike library secretsHelper secretsHelper' i := by
  cases url with
  | photo tableName tableItemId => exact trivial
  | scaledPhoto tableName tableItemId width height =>
      rcases h with ⟨box, hbox, hscaled⟩
      rcases h' with ⟨box', hbox', hscaled'⟩
      intro clamped clamped' hclamped hclamped'
      rw [← Except.ok.inj (hbox.symm.trans hclamped), ← Except.ok.inj (hbox'.symm.trans hclamped')]
      exact hscaled.sameFit hresizes hscaled' hbytes

theorem Answers.ok {visit : PhotoVisit} {db : PhotoDb} {headers : List (String × String)}
    {body : List UInt8}
    (h : Answers library secretsHelper visit db url (.ok headers body)) :
    exists s i photo, url.shownIn db = some (s, i) ∧
      url.Shows library secretsHelper i photo ∧ body = photo.bytes ∧
        headers.lookup "Content-Type" = some (imageMimeType photo.type) ∧
          headers.lookup "ETag" = some (photoTag s.lastUpdatedAtUs) := by
  generalize hresponse : PhotoResponse.ok headers body = response at h
  cases h with
  | error _ => cases hresponse
  | @shown s i photo cacheControl hshown hphoto =>
      unfold conditionally at hresponse
      dsimp only at hresponse
      split at hresponse
      · cases hresponse
      · cases hresponse
        exact ⟨s, i, photo, hshown, hphoto, rfl, lookup_contentType _ _ _, lookup_etag _ _ _⟩

end Pictures

section Claim

variable {library : ImageLibrary} {photoSupportTables : List String} {pre mid : List SiteEvent}
  {env env' : Env} {visit visit' : PhotoVisit} {url : PhotoUrl} {site site' : PhotoSite}

theorem get_ok (h : Consistent library [] [] site.db) {headers : List (String × String)}
    {body : List UInt8} (hok : site.get library env visit url = .ok headers body) :
    exists s i photo, url.shownIn site.db = some (s, i) ∧
      url.Shows library site.secretsHelper i photo ∧ body = photo.bytes ∧
        headers.lookup "Content-Type" = some (imageMimeType photo.type) ∧
          headers.lookup "ETag" = some (photoTag s.lastUpdatedAtUs) := by
  have hanswer : Answers library site.secretsHelper visit site.db url
      (site.get library env visit url) := handleGet_answers h
  rw [hok] at hanswer
  exact hanswer.ok

theorem shownIn_mem {db : PhotoDb} {s : SourcePhoto} {i : PhotoInstance}
    (h : url.shownIn db = some (s, i)) :
    s ∈ db.sourcePhotos.rows ∧ i ∈ db.photoInstances.rows ∧ i.id = s.photoInstanceId := by
  cases url with
  | photo tableName tableItemId => exact PhotoDb.shown_mem h
  | scaledPhoto tableName tableItemId width height => exact PhotoDb.shown_mem h

theorem get_notModified (h : Consistent library [] [] site.db)
    (hanswer : site.get library env visit url = .notModified) :
    exists headers body, site.get library env (visit.naming "") url = .ok headers body ∧
      headers.lookup "ETag" = some visit.ifNoneMatch := by
  have hnaming : site.get library env visit url =
      (site.get library env (visit.naming "") url).unlessNamed visit.ifNoneMatch :=
    handleGet_naming library site.secretsHelper env visit url site.db
  have hfull : Answers library site.secretsHelper (visit.naming "") site.db url
      (site.get library env (visit.naming "") url) := handleGet_answers h
  rw [hanswer] at hnaming
  cases hresponse : site.get library env (visit.naming "") url with
  | error response =>
      rw [hresponse] at hnaming
      cases hnaming
  | notModified =>
      rw [hresponse] at hfull
      generalize hgiven : PhotoResponse.notModified = response at hfull
      cases hfull with
      | error _ => cases hgiven
      | shown cacheControl hshown hphoto =>
          unfold conditionally at hgiven
          dsimp only at hgiven
          rw [if_neg (fun hnamed => hnamed.1 rfl)] at hgiven
          cases hgiven
  | ok headers body =>
      refine ⟨headers, body, rfl, ?_⟩
      rw [hresponse] at hnaming
      unfold PhotoResponse.unlessNamed at hnaming
      dsimp only at hnaming
      split at hnaming
      · rename_i hnamed
        exact hnamed.2
      · cases hnaming

theorem same_photo
    (hclock : ClockGoesOn (pre ++ .get env visit url :: mid ++ [.get env' visit' url]))
    (hsite : site = after (siteStep library) (PhotoSite.fresh photoSupportTables) pre)
    (hsite' : site' = after (siteStep library) (PhotoSite.fresh photoSupportTables)
      (pre ++ .get env visit url :: mid))
    {visit₂ : PhotoVisit} {headers headers' : List (String × String)} {body body' : List UInt8}
    (hfirst : site.get library env visit url = .ok headers body)
    (hsecond : site'.get library env' visit₂ url = .ok headers' body')
    (htag : headers.lookup "ETag" = headers'.lookup "ETag") :
    exists s i photo photo', url.shownIn site'.db = some (s, i) ∧
      url.Shows library site.secretsHelper i photo ∧
      url.Shows library site'.secretsHelper i photo' ∧
      body = photo.bytes ∧ headers.lookup "Content-Type" = some (imageMimeType photo.type) ∧
      body' = photo'.bytes ∧
        headers'.lookup "Content-Type" = some (imageMimeType photo'.type) := by
  have hearly : Stamped library (clocks pre) site.db := by
    rw [hsite]
    exact stamped_run photoSupportTables hclock.before.before
  have hlate : Stamped library (clocks (pre ++ .get env visit url :: mid)) site'.db := by
    rw [hsite']
    exact stamped_run photoSupportTables hclock.before
  rcases get_ok hearly.consistent hfirst with
    ⟨s, i, photo, hshown, hphoto, hbody, htype, hetag⟩
  rcases get_ok hlate.consistent hsecond with
    ⟨s', i', photo', hshown', hphoto', hbody', htype', hetag'⟩
  have htime : s.lastUpdatedAtUs = s'.lastUpdatedAtUs := by
    rw [hetag, hetag', Option.some.injEq] at htag
    exact photoTag_injective htag
  rcases shownIn_mem hshown with ⟨hs, hi, hid⟩
  rcases shownIn_mem hshown' with ⟨hs', hi', hid'⟩
  -- The tag of the second picture is a time of the first part of the run.
  have hstored : s' ∈ site.db.sourcePhotos.rows ∧ i' ∈ site.db.photoInstances.rows := by
    rw [hsite'] at hs' hi'
    rw [hsite]
    apply stored_before photoSupportTables hclock.before hs' hi' hid'
    rw [← htime]
    exact hearly.stamped s hs
  have hsource : s = s' := hearly.unique s s' hs hstored.1 htime
  have hinstance : i' = i := by
    apply Table.eq_of_clash (fun hc => Eq.symm hc) hstored.2 hi
    exact hid'.trans (hsource ▸ hid.symm)
  rw [hinstance] at hshown' hphoto'
  exact ⟨s', i, photo, photo', hshown', hphoto, hphoto', hbody, htype, hbody', htype'⟩

/-- The photo of the URL is one that the limits of both sites make no difference to. -/
def PhotoSite.FitsAlike (library : ImageLibrary) (site site' : PhotoSite) (url : PhotoUrl) :
    Prop :=
  forall s i, url.shownIn site'.db = some (s, i) ->
    url.FitsAlike library site.secretsHelper site'.secretsHelper i

/-- An answer under the tag of an earlier picture, or a 304 for it, stands for that picture. -/
structure Confirms (library : ImageLibrary) (site : PhotoSite) (env : Env) (visit : PhotoVisit)
    (url : PhotoUrl) (headers : List (String × String)) (body : List UInt8) : Prop where
  picture : forall headers' body', site.get library env visit url = .ok headers' body' ->
    headers'.lookup "ETag" = headers.lookup "ETag" ->
      body' = body ∧ headers'.lookup "Content-Type" = headers.lookup "Content-Type"
  notModified : site.get library env visit url = .notModified ->
    some visit.ifNoneMatch = headers.lookup "ETag" ->
      exists headers', site.get library env (visit.naming "") url = .ok headers' body ∧
        headers'.lookup "Content-Type" = headers.lookup "Content-Type"

/-- In every run a tag confirms the picture that was answered with it, as long as the limits in
force at both requests make no difference to the photo.  Where resized images have their
sizes, only then. -/
theorem etag_confirms
    (hclock : ClockGoesOn (pre ++ .get env visit url :: mid ++ [.get env' visit' url]))
    (hsite : site = after (siteStep library) (PhotoSite.fresh photoSupportTables) pre)
    (hsite' : site' = after (siteStep library) (PhotoSite.fresh photoSupportTables)
      (pre ++ .get env visit url :: mid))
    {headers : List (String × String)} {body : List UInt8}
    (hfirst : site.get library env visit url = .ok headers body) :
    (site.FitsAlike library site' url -> Confirms library site' env' visit' url headers body) ∧
    (library.ResizesToSize -> forall headers',
      site'.get library env' visit' url = .ok headers' body ->
        headers'.lookup "ETag" = headers.lookup "ETag" -> site.FitsAlike library site' url) := by
  have hsame : forall (visit₂ : PhotoVisit) (headers' : List (String × String))
      (body' : List UInt8), site.FitsAlike library site' url ->
        site'.get library env' visit₂ url = .ok headers' body' ->
          headers'.lookup "ETag" = headers.lookup "ETag" ->
            body' = body ∧ headers'.lookup "Content-Type" = headers.lookup "Content-Type" := by
    intro visit₂ headers' body' hfits hsecond htag
    rcases same_photo hclock hsite hsite' hfirst hsecond htag.symm with
      ⟨s, i, photo, photo', hshown, hphoto, hphoto', hbody, htype, hbody', htype'⟩
    rcases hphoto.same hphoto' (hfits s i hshown) with ⟨hbytes, hlabel⟩
    exact ⟨by rw [hbody', hbody, hbytes], by rw [htype', htype, hlabel]⟩
  constructor
  · intro hfits
    constructor
    · intro headers' body' hsecond htag
      exact hsame visit' headers' body' hfits hsecond htag
    · intro hunmodified hnamed
      have hlate : Consistent library [] [] site'.db := by
        rw [hsite']
        exact (stamped_run photoSupportTables hclock.before).consistent
      rcases get_notModified hlate hunmodified with ⟨headers', body', hfull, htag⟩
      rcases hsame _ headers' body' hfits hfull (htag.trans hnamed) with ⟨hbody, htype⟩
      exact ⟨headers', hbody ▸ hfull, htype⟩
  · intro hresizes headers' hsecond htag s i hshown
    rcases same_photo hclock hsite hsite' hfirst hsecond htag.symm with
      ⟨s', i', photo, photo', hshown', hphoto, hphoto', hbody, _, hbody', _⟩
    rw [hshown'] at hshown
    cases hshown
    exact hphoto.fitsAlike hresizes hphoto' (hbody ▸ hbody')

end Claim

/-- Images that are no more than their sizes, in hundreds of pixels. -/
def sizesOnly : ImageLibrary where
  getImageDimensions := fun bytes _ =>
    match bytes with
    | [width, height] => .ok { width := 100 * width.toNat, height := 100 * height.toNat }
    | _ => .error (.runtimeError "unreadable")
  resizeImage := fun _ width height _ =>
    .ok [UInt8.ofNat (width.toNat / 100), UInt8.ofNat (height.toNat / 100)]
  scaledSide := fun side target whole => side * target / whole

def member : PhotoVisit where
  ifNoneMatch := ""
  loggedIn := .ok true
  isPublicTable := false
  databaseAvailable := true
  tableAllowed := .ok true

def portrait : PhotoUrl := .scaledPhoto "people" 1 800 800

def limitedTo (limit : String) : SiteEvent := .configure (some (fun _ => .ok limit))

def portraitStored : List SiteEvent :=
  [limitedTo "800",
    .photo (.uploadAndAssociatePhoto (Env.ofClock 10 "") none "people" 1 [9, 9] "png")]

/-- The portrait is asked for, then the limits change. -/
def portraitServed (limit : String) : List SiteEvent :=
  portraitStored ++ .get (Env.ofClock 20 "") member portrait :: [limitedTo limit]

def portraitSite (events : List SiteEvent) : PhotoSite :=
  after (siteStep sizesOnly) (PhotoSite.fresh ["people"]) events

def portraitHeaders : List (String × String) :=
  [("Content-Type", "image/png"), ("X-Content-Type-Options", "nosniff"),
    ("Cache-Control", "private, no-cache"), ("ETag", "\"10\"")]

/-- One tag is answered with two pictures when the limit goes down in between, and confirms
the larger one. -/
theorem portrait_notConfirmed :
    ClockGoesOn (portraitServed "400" ++ [.get (Env.ofClock 30 "") member portrait]) ∧
    (portraitSite portraitStored).get sizesOnly (Env.ofClock 20 "") member portrait =
      .ok portraitHeaders [8, 8] ∧
    (portraitSite (portraitServed "400")).get sizesOnly (Env.ofClock 30 "") member portrait =
      .ok portraitHeaders [4, 4] ∧
    (portraitSite (portraitServed "400")).get sizesOnly (Env.ofClock 30 "")
      (member.naming "\"10\"") portrait = .notModified ∧
    Not (Confirms sizesOnly (portraitSite (portraitServed "400")) (Env.ofClock 30 "") member
      portrait portraitHeaders [8, 8]) := by
  have hsecond : (portraitSite (portraitServed "400")).get sizesOnly (Env.ofClock 30 "") member
      portrait = .ok portraitHeaders [4, 4] := by decide
  refine ⟨by decide, by decide, hsecond, by decide, ?_⟩
  intro h
  have hsame := (h.picture portraitHeaders [4, 4] hsecond rfl).1
  exact absurd hsame (by decide)

/-- A limit above the box makes no difference. -/
theorem etag_confirms_portrait :
    (portraitSite (portraitServed "900")).get sizesOnly (Env.ofClock 30 "")
      (member.naming "\"10\"") portrait = .notModified ∧
    Confirms sizesOnly (portraitSite (portraitServed "900")) (Env.ofClock 30 "")
      (member.naming "\"10\"") portrait portraitHeaders [8, 8] := by
  have hfits : (portraitSite portraitStored).FitsAlike sizesOnly
      (portraitSite (portraitServed "900")) portrait := by
    have hbox : clampToPublicSize sizesOnly (portraitSite portraitStored).secretsHelper 800 800 =
        .ok ⟨800, 800⟩ := by decide
    have hbox' : clampToPublicSize sizesOnly (portraitSite (portraitServed "900")).secretsHelper
        800 800 = .ok ⟨800, 800⟩ := by decide
    intro s i _ box box' hclamped hclamped'
    rw [← Except.ok.inj (hbox.symm.trans hclamped), ← Except.ok.inj (hbox'.symm.trans hclamped')]
    exact Or.inr rfl
  have hclock : ClockGoesOn (portraitServed "900" ++
      [.get (Env.ofClock 30 "") (member.naming "\"10\"") portrait]) := by decide
  have hfirst : (portraitSite portraitStored).get sizesOnly (Env.ofClock 20 "") member portrait =
      .ok portraitHeaders [8, 8] := by decide
  exact ⟨by decide, (etag_confirms hclock rfl rfl hfirst).1 hfits⟩

end Images
end ServerComponents
