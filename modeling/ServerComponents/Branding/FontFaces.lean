import ServerComponents.Branding.CssValues

/-!
# Uploaded font faces

A face is served under its id, to be cached for a year.  The faces of a site change with
uploads, deletions, saves of the fonts and imports of themes.
-/

namespace ServerComponents
namespace Branding

open Relational Control
open Rest (Json Response)

def kMaxFontFaceBytes : Nat := 5 * 1024 * 1024

def contentTypeForFormat (format : String) : String :=
  if format = "woff2" then "font/woff2"
  else if format = "woff" then "font/woff"
  else if format = "ttf" then "font/ttf"
  else if format = "otf" then "font/otf"
  else ""

namespace SiteFonts

def faces (t : SiteFonts) : List SiteFontFace := t.fonts.entries.flatMap (fun e => e.2.faces)

def getFace (t : SiteFonts) (faceId : Int) : Option SiteFontFace :=
  t.faces.find? (fun face => decide ((face.id : Int) = faceId))

def getFont (t : SiteFonts) (fontId : Int) : Option (Nat × SiteFont) :=
  t.fonts.entries.find? (fun e => decide ((e.1 : Int) = fontId))

def mapFaces (t : SiteFonts) (nextFaceId : Nat)
    (change : Nat -> List SiteFontFace -> List SiteFontFace) : SiteFonts :=
  { t with
    fonts := t.fonts.mapValues (fun id row => { row with faces := change id row.faces })
    nextFaceId := nextFaceId
    freshFont := by
      intro id h
      apply t.freshFont
      rwa [← SortedMap.find?_isSome_iff, SortedMap.find?_mapValues, Option.isSome_map,
        SortedMap.find?_isSome_iff] at h }

def addFace (t : SiteFonts) (fontId : Nat) (face : SiteFontFace) : SiteFonts :=
  t.mapFaces (t.nextFaceId + 1) (fun id faces =>
    if id = fontId then faces ++ [face] else faces)

def deleteFace (t : SiteFonts) (faceId : Int) : SiteFonts :=
  t.mapFaces t.nextFaceId (fun _ faces =>
    faces.filter (fun face => decide ((face.id : Int) ≠ faceId)))

end SiteFonts

structure FaceAnswer where
  headers : List (String × String)
  body : FileBytes
  deriving DecidableEq

def faceAnswer (format : String) (bytes : FileBytes) : FaceAnswer :=
  ⟨[("Content-Type", contentTypeForFormat format), ("X-Content-Type-Options", "nosniff"),
    ("Cache-Control", "public, max-age=31536000, immutable")], bytes⟩

def getSiteFontFace (faceId : Int) (t : SiteFonts) : Except Response FaceAnswer :=
  match t.getFace faceId with
  | none => .error (Rest.ErrorResponse.notFound "Font face not found")
  | some face =>
      if contentTypeForFormat face.format = "" ∨ face.bytes = [] then
        .error (Rest.ErrorResponse.notFound "Font face not found")
      else .ok (faceAnswer face.format face.bytes)

/-- The ids and numbers are what `atoll` and `atoi` make of the headers. -/
structure FaceUpload where
  fontId : Int
  weight : Int
  style : String
  body : FileBytes

def FaceUpload.face (upload : FaceUpload) (id : Nat) : SiteFontFace where
  id := id
  weight := upload.weight
  style := if upload.style = "italic" then "italic" else "normal"
  format := fontFormatFromMagicBytes upload.body
  bytes := upload.body

def okJson (body : Json) : Response :=
  ⟨200, [("Content-Type", "application/json")], body.toText⟩

def postManageSiteFontFace (access : Access) (upload : FaceUpload) (t : SiteFonts) :
    Response × SiteFonts :=
  match requireAdmin access with
  | .error (.response response) => (response, t)
  | .error (.thrown _) => (Rest.ErrorResponse.internalError, t)
  | .ok () =>
      if upload.weight < 1 ∨ 1000 < upload.weight then
        (Rest.ErrorResponse.validationError "A font weight must be between 1 and 1000.", t)
      else if upload.body = [] then
        (Rest.ErrorResponse.badRequest "No font file in the request.", t)
      else if kMaxFontFaceBytes < upload.body.length then
        (Rest.ErrorResponse.validationError "That font file is too large.", t)
      else if fontFormatFromMagicBytes upload.body = "" then
        (Rest.ErrorResponse.validationError
          "That file is not a WOFF2, WOFF, TTF or OTF font.", t)
      else
        match t.getFont upload.fontId with
        | none => (Rest.ErrorResponse.notFound "Font family not found", t)
        | some font =>
            let face := upload.face t.nextFaceId
            (okJson (.obj [("format", .str face.format), ("id", .int face.id),
              ("style", .str face.style), ("weight", .int face.weight)]), t.addFace font.1 face)

def deleteManageSiteFontFace (access : Access) (faceId : Int) (t : SiteFonts) :
    Response × SiteFonts :=
  match requireAdmin access with
  | .error (.response response) => (response, t)
  | .error (.thrown _) => (Rest.ErrorResponse.internalError, t)
  | .ok () =>
      if (t.getFace faceId).isNone then
        (Rest.ErrorResponse.notFound "Font face not found", t)
      else (okJson (.obj [("deleted", .bool true)]), t.deleteFace faceId)

/-- What the fonts of a site go through. -/
inductive FontStep : SiteFonts -> SiteFonts -> Prop where
  | put (access : Access) (parsed : Except Exn Json) (t : SiteFonts) :
      FontStep t (handlePut access parsed t).2
  | posted (access : Access) (upload : FaceUpload) (t : SiteFonts) :
      FontStep t (postManageSiteFontFace access upload t).2
  | deleted (access : Access) (faceId : Int) (t : SiteFonts) :
      FontStep t (deleteManageSiteFontFace access faceId t).2
  | imported (bundle : ThemeBundle Json) (merge : Bool) (t : SiteFonts) :
      FontStep t (applyBundleFonts (pruneUnusableBundleItems bundle) merge t)

abbrev FontRun : SiteFonts -> SiteFonts -> Prop := Relation.ReflTransGen FontStep

/-!
# Faces over a run
-/

/-- An id stands for one face and is not given again; the format is that of the bytes. -/
structure FacesSound (t : SiteFonts) : Prop where
  fresh : forall f, f ∈ t.faces -> f.id < t.nextFaceId
  unique : forall f f', f ∈ t.faces -> f' ∈ t.faces -> f.id = f'.id -> f = f'
  typed : forall f, f ∈ t.faces -> f.format = fontFormatFromMagicBytes f.bytes

/-- Faces go, and those that come have new ids. -/
structure FacesGrow (t t' : SiteFonts) : Prop where
  next_le : t.nextFaceId ≤ t'.nextFaceId
  kept : forall f, f ∈ t'.faces -> f.id < t.nextFaceId -> f ∈ t.faces
  sound : FacesSound t -> FacesSound t'

section Grow

variable {t t' t'' : SiteFonts} {f : SiteFontFace}

theorem mem_faces :
    f ∈ t.faces <-> exists e, e ∈ t.fonts.entries ∧ f ∈ e.2.faces := List.mem_flatMap

theorem FacesGrow.trans (h : FacesGrow t t') (h' : FacesGrow t' t'') : FacesGrow t t'' where
  next_le := Nat.le_trans h.next_le h'.next_le
  kept := fun f hf hlt => h.kept f (h'.kept f hf (Nat.lt_of_lt_of_le hlt h.next_le)) hlt
  sound := fun hsound => h'.sound (h.sound hsound)

theorem FacesGrow.ofNew (new : List SiteFontFace)
    (hnext : t.nextFaceId ≤ t'.nextFaceId)
    (hsub : forall f, f ∈ t'.faces -> f ∈ t.faces ∨ f ∈ new)
    (hnew : forall f, f ∈ new -> t.nextFaceId ≤ f.id ∧ f.id < t'.nextFaceId ∧
      f.format = fontFormatFromMagicBytes f.bytes)
    (hunique : forall f f', f ∈ new -> f' ∈ new -> f.id = f'.id -> f = f') :
    FacesGrow t t' where
  next_le := hnext
  kept := by
    intro f hf hlt
    rcases hsub f hf with hold | hin
    · exact hold
    · have := (hnew f hin).1
      omega
  sound := by
    intro hsound
    constructor
    · intro f hf
      rcases hsub f hf with hold | hin
      · exact Nat.lt_of_lt_of_le (hsound.fresh f hold) hnext
      · exact (hnew f hin).2.1
    · intro f f' hf hf' heq
      rcases hsub f hf with hold | hin <;> rcases hsub f' hf' with hold' | hin'
      · exact hsound.unique f f' hold hold' heq
      · have := hsound.fresh f hold
        have := (hnew f' hin').1
        omega
      · have := hsound.fresh f' hold'
        have := (hnew f hin).1
        omega
      · exact hunique f f' hin hin' heq
    · intro f hf
      rcases hsub f hf with hold | hin
      · exact hsound.typed f hold
      · exact (hnew f hin).2.2

theorem FacesGrow.ofSubset (hnext : t.nextFaceId ≤ t'.nextFaceId)
    (hsub : forall f, f ∈ t'.faces -> f ∈ t.faces) : FacesGrow t t' :=
  FacesGrow.ofNew [] hnext (fun f hf => Or.inl (hsub f hf)) (fun _ hf => (nomatch hf))
    (fun _ _ hf => (nomatch hf))

theorem FacesGrow.ofFonts (hnext : t'.nextFaceId = t.nextFaceId) (hfonts : t'.fonts = t.fonts) :
    FacesGrow t t' := by
  apply FacesGrow.ofSubset (Nat.le_of_eq hnext.symm)
  intro f hf
  unfold SiteFonts.faces at hf ⊢
  rwa [hfonts] at hf

theorem FacesGrow.refl (t : SiteFonts) : FacesGrow t t := FacesGrow.ofFonts rfl rfl

theorem mem_faces_addFont {row : SiteFont} (h : f ∈ (t.addFont row).faces) :
    f ∈ t.faces ∨ f ∈ row.faces := by
  rcases mem_faces.mp h with ⟨e, he, hf⟩
  rw [SiteFonts.entries_addFont] at he
  rcases List.mem_append.mp he with hold | hnew
  · exact Or.inl (mem_faces.mpr ⟨e, hold, hf⟩)
  · rw [List.mem_singleton.mp hnew] at hf
    exact Or.inr hf

theorem mem_faces_updateFont {id : Nat} {row : SiteFont}
    (h : f ∈ (t.updateFont id row).faces) : f ∈ t.faces ∨ f ∈ row.faces := by
  rcases mem_faces.mp h with ⟨e, he, hf⟩
  rcases List.mem_map.mp he with ⟨old, hold, rfl⟩
  dsimp only at hf
  split at hf
  · exact Or.inr hf
  · exact Or.inl (mem_faces.mpr ⟨old, hold, hf⟩)

theorem facesGrow_dropped (t : SiteFonts) (kept keptSources : String -> Bool) :
    FacesGrow t ((t.keepFonts kept).keepSources keptSources) := by
  apply FacesGrow.ofSubset
  · exact Nat.le_refl t.nextFaceId
  intro f hf
  rcases mem_faces.mp hf with ⟨e, he, hin⟩
  exact mem_faces.mpr ⟨e, (List.mem_filter.mp he).1, hin⟩

theorem mem_faces_mapFaces {next : Nat} {change : Nat -> List SiteFontFace -> List SiteFontFace}
    (h : f ∈ (t.mapFaces next change).faces) :
    exists e, e ∈ t.fonts.entries ∧ f ∈ change e.1 e.2.faces := by
  rcases mem_faces.mp h with ⟨e, he, hf⟩
  rcases List.mem_map.mp he with ⟨old, hold, rfl⟩
  exact ⟨old, hold, hf⟩

theorem facesGrow_addFace (t : SiteFonts) (fontId : Nat) (upload : FaceUpload) :
    FacesGrow t (t.addFace fontId (upload.face t.nextFaceId)) := by
  apply FacesGrow.ofNew [upload.face t.nextFaceId] (Nat.le_succ _)
  · intro f hf
    rcases mem_faces_mapFaces hf with ⟨e, he, hin⟩
    split at hin
    · rcases List.mem_append.mp hin with hbefore | hnew
      · exact Or.inl (mem_faces.mpr ⟨e, he, hbefore⟩)
      · exact Or.inr hnew
    · exact Or.inl (mem_faces.mpr ⟨e, he, hin⟩)
  · intro f hf
    rw [List.mem_singleton.mp hf]
    exact ⟨Nat.le_refl _, Nat.lt_succ_self _, rfl⟩
  · intro f f' hf hf' _
    rw [List.mem_singleton.mp hf, List.mem_singleton.mp hf']

theorem facesGrow_deleteFace (t : SiteFonts) (faceId : Int) :
    FacesGrow t (t.deleteFace faceId) := by
  apply FacesGrow.ofSubset
  · exact Nat.le_refl t.nextFaceId
  intro f hf
  rcases mem_faces_mapFaces hf with ⟨e, he, hin⟩
  exact mem_faces.mpr ⟨e, he, (List.mem_filter.mp hin).1⟩

/-!
## The loops
-/

/-- What a computation leaves when it returns. -/
def Grows {a : Type} (w : Work SiteFonts Exn a) : Prop :=
  forall t value t', w t = (.ok value, t') -> FacesGrow t t'

theorem Grows.bind {a b : Type} {w : Work SiteFonts Exn a} {f : a -> Work SiteFonts Exn b}
    (h : Grows w) (hf : forall value, Grows (f value)) : Grows (w.bind f) := by
  intro t value t' hrun
  rcases hw : w t with ⟨outcome, t₁⟩
  cases outcome with
  | error e =>
      rw [Work.bind_error hw] at hrun
      cases hrun
  | ok middle =>
      rw [Work.bind_ok hw] at hrun
      exact (h t middle t₁ hw).trans (hf middle t₁ value t' hrun)

theorem grows_done {a : Type} (value : a) : Grows (Work.done value) := by
  intro t _ t' h
  cases h
  exact FacesGrow.refl t

theorem facesOf_ids {bundle : ThemeBundle Json} {family : BundleFontFamily} {next : Nat}
    (h : f ∈ facesOf bundle family next) :
    exists n, (facesOf bundle family next)[n]? = some f ∧ f.id = next + n ∧
      f.format = fontFormatFromMagicBytes f.bytes := by
  rcases List.mem_iff_getElem?.mp h with ⟨n, hn⟩
  refine ⟨n, hn, ?_⟩
  unfold facesOf at hn
  rw [List.getElem?_mapIdx] at hn
  rcases Option.map_eq_some_iff.mp hn with ⟨_, _, rfl⟩
  exact ⟨rfl, rfl⟩

theorem facesGrow_applyFamily (bundle : ThemeBundle Json) (ids : SortedMap String Nat)
    (ordinal : Nat) (family : BundleFontFamily) (t : SiteFonts) :
    FacesGrow t (applyFamily bundle ids ordinal family t) := by
  have hgrow : forall t' : SiteFonts,
      t'.nextFaceId = t.nextFaceId + (facesOf bundle family t.nextFaceId).length ->
      (forall f, f ∈ t'.faces -> f ∈ t.faces ∨ f ∈ facesOf bundle family t.nextFaceId) ->
        FacesGrow t t' := by
    intro t' hnext hsub
    apply FacesGrow.ofNew _ (hnext ▸ Nat.le_add_right _ _) hsub
    · intro f hf
      rcases facesOf_ids hf with ⟨n, hn, hid, htyped⟩
      have := (List.getElem?_eq_some_iff.mp hn).1
      exact ⟨by omega, by omega, htyped⟩
    · intro f f' hf hf' heq
      rcases facesOf_ids hf with ⟨n, hn, hid, _⟩
      rcases facesOf_ids hf' with ⟨n', hn', hid', _⟩
      have hsame : n = n' := by omega
      rw [hsame, hn'] at hn
      exact (Option.some.inj hn).symm
  unfold applyFamily
  split
  · exact hgrow _ rfl (fun f hf => mem_faces_addFont hf)
  · exact hgrow _ rfl (fun f hf => mem_faces_updateFont hf)

theorem facesGrow_applyFamilies (bundle : ThemeBundle Json) (ids : SortedMap String Nat)
    (families : List BundleFontFamily) (ordinal : Nat) (t : SiteFonts) :
    FacesGrow t (applyFamilies bundle ids ordinal families t) := by
  induction families generalizing ordinal t with
  | nil => exact FacesGrow.refl t
  | cons family rest ih => exact (facesGrow_applyFamily _ _ _ _ t).trans (ih _ _)

theorem nextFaceId_putSource (t : SiteFonts) (source : BundleFontSource) :
    (t.putSource source).1.nextFaceId = t.nextFaceId := by
  unfold SiteFonts.putSource
  split <;> rfl

theorem facesGrow_applySources (t : SiteFonts) (sources : List BundleFontSource) :
    FacesGrow t (applySources t sources).1 := by
  apply FacesGrow.ofFonts _ (fonts_applySources t sources)
  unfold applySources
  generalize (SortedMap.empty : SortedMap String Nat) = ids
  induction sources generalizing t ids with
  | nil => rfl
  | cons source rest ih => exact (ih _ _).trans (nextFaceId_putSource t source)

theorem facesGrow_imported (bundle : ThemeBundle Json) (merge : Bool) (t : SiteFonts) :
    FacesGrow t (applyBundleFonts bundle merge t) := by
  have hloop := (facesGrow_applySources t bundle.sources).trans
    (facesGrow_applyFamilies bundle (applySources t bundle.sources).2 bundle.families 10 _)
  unfold applyBundleFonts
  dsimp only
  split
  · exact hloop
  · exact hloop.trans (facesGrow_dropped _ _ _)

theorem grows_reconcileSources (items : List Json) (ids : SortedMap String Nat) :
    Grows (reconcileSources items ids) := by
  induction items generalizing ids with
  | nil => exact grows_done ids
  | cons item rest ih =>
      intro t ids' t' h
      unfold reconcileSources at h
      cases hread : sourcePayload item with
      | error e =>
          rw [hread] at h
          cases h
      | ok source =>
          rw [hread] at h
          have hnext : (t.writeSource source).1.nextFaceId = t.nextFaceId := by
            unfold SiteFonts.writeSource
            split <;> rfl
          exact (FacesGrow.ofFonts hnext (fonts_writeSource t source)).trans (ih _ _ _ _ h)

theorem facesGrow_reconcileFamily (ids : SortedMap String Nat) (ordinal : Nat)
    (family : FamilyPayload) (t : SiteFonts) :
    FacesGrow t (reconcileFamily ids ordinal family t) := by
  unfold reconcileFamily
  split
  · apply FacesGrow.ofSubset
    · exact Nat.le_refl t.nextFaceId
    intro f hf
    rcases mem_faces_addFont hf with hold | hnew
    · exact hold
    · cases hnew
  · rename_i id row hfont
    apply FacesGrow.ofSubset
    · exact Nat.le_refl t.nextFaceId
    intro f hf
    rcases mem_faces_updateFont hf with hold | hin
    · exact hold
    · exact mem_faces.mpr ⟨(id, row), (SiteFonts.mem_of_getFontByFamily hfont).1, hin⟩

theorem grows_reconcileFamilies (ids : SortedMap String Nat) (items : List Json)
    (ordinal : Nat) : Grows (reconcileFamilies ids ordinal items) := by
  induction items generalizing ordinal with
  | nil => exact grows_done []
  | cons item rest ih =>
      intro t names t' h
      unfold reconcileFamilies at h
      cases hread : familyPayload item with
      | error e =>
          rw [hread] at h
          cases h
      | ok family =>
          rw [hread] at h
          exact (facesGrow_reconcileFamily ids ordinal family t).trans
            ((ih _).bind (fun _ => grows_done _) _ names t' h)

theorem grows_reconcile (body : Json) : Grows (reconcile body) := by
  apply (grows_reconcileSources _ _).bind
  intro ids
  apply (grows_reconcileFamilies _ _ _).bind
  intro names
  apply Grows.bind _ (fun _ => grows_done _)
  intro t _ t' h
  cases h
  exact facesGrow_dropped t _ _

theorem facesGrow_handlePut (access : Access) (parsed : Except Exn Json) (t : SiteFonts) :
    FacesGrow t (handlePut access parsed t).2 := by
  unfold handlePut
  split
  · rename_i response t' h
    unfold putManageSiteFonts at h
    split at h
    · cases h
      exact FacesGrow.refl t
    · cases h
    · split at h
      · cases h
      · split at h
        · cases h
          exact FacesGrow.refl t
        · split at h
          · cases h
            exact FacesGrow.refl t
          · cases h
          · exact grows_reconcile _ t response t' h
  · exact FacesGrow.refl t

/-!
## Steps and runs
-/

theorem posted_cases (access : Access) (upload : FaceUpload) (t : SiteFonts) :
    (postManageSiteFontFace access upload t).2 = t ∨
      exists fontId, (postManageSiteFontFace access upload t).2 =
        t.addFace fontId (upload.face t.nextFaceId) := by
  unfold postManageSiteFontFace
  repeat' split
  all_goals first
    | exact Or.inl rfl
    | exact Or.inr ⟨_, rfl⟩

theorem deleted_cases (access : Access) (faceId : Int) (t : SiteFonts) :
    (deleteManageSiteFontFace access faceId t).2 = t ∨
      (deleteManageSiteFontFace access faceId t).2 = t.deleteFace faceId := by
  unfold deleteManageSiteFontFace
  repeat' split
  all_goals first
    | exact Or.inl rfl
    | exact Or.inr rfl

theorem FontStep.grow (h : FontStep t t') : FacesGrow t t' := by
  cases h with
  | put access parsed => exact facesGrow_handlePut access parsed t
  | posted access upload =>
      rcases posted_cases access upload t with h | ⟨fontId, h⟩ <;> rw [h]
      · exact FacesGrow.refl t
      · exact facesGrow_addFace t fontId upload
  | deleted access faceId =>
      rcases deleted_cases access faceId t with h | h <;> rw [h]
      · exact FacesGrow.refl t
      · exact facesGrow_deleteFace t faceId
  | imported bundle merge => exact facesGrow_imported _ merge t

theorem FontRun.grow (h : FontRun t t') : FacesGrow t t' := by
  induction h with
  | refl => exact FacesGrow.refl t
  | tail _ hstep ih => exact ih.trans hstep.grow

theorem FontRun.sound (h : FontRun SiteFonts.empty t) : FacesSound t :=
  h.grow.sound ⟨fun _ hf => (nomatch hf), fun _ _ hf => (nomatch hf), fun _ hf => (nomatch hf)⟩

theorem FallbacksValid.mapFaces (h : FallbacksValid t) (next : Nat)
    (change : Nat -> List SiteFontFace -> List SiteFontFace) :
    FallbacksValid (t.mapFaces next change) := by
  intro e he
  rcases List.mem_map.mp he with ⟨old, hold, rfl⟩
  exact h old hold

theorem FallbacksValid.step (h : FallbacksValid t) (hstep : FontStep t t') :
    FallbacksValid t' := by
  cases hstep with
  | put access parsed => exact h.put access parsed
  | posted access upload =>
      rcases posted_cases access upload t with heq | ⟨fontId, heq⟩ <;> rw [heq]
      · exact h
      · exact h.mapFaces _ _
  | deleted access faceId =>
      rcases deleted_cases access faceId t with heq | heq <;> rw [heq]
      · exact h
      · exact h.mapFaces _ _
  | imported bundle merge => exact h.imported

theorem FontRun.fallbacksValid (h : FontRun SiteFonts.empty t) : FallbacksValid t := by
  induction h with
  | refl => exact fun e he => (nomatch he)
  | tail _ hstep ih => exact ih.step hstep

theorem getFace_some {faceId : Int} (h : t.getFace faceId = some f) :
    f ∈ t.faces ∧ (f.id : Int) = faceId := by
  unfold SiteFonts.getFace at h
  exact ⟨List.mem_of_find?_eq_some h, by simpa using List.find?_some h⟩

theorem getSiteFontFace_ok {faceId : Int} {answer : FaceAnswer}
    (h : getSiteFontFace faceId t = .ok answer) :
    exists f, f ∈ t.faces ∧ (f.id : Int) = faceId ∧ contentTypeForFormat f.format ≠ "" ∧
      f.bytes ≠ [] ∧ answer = faceAnswer f.format f.bytes := by
  unfold getSiteFontFace at h
  split at h
  · cases h
  · rename_i f hfind
    split at h
    · cases h
    · rename_i hserved
      rw [not_or] at hserved
      cases h
      rcases getFace_some hfind with ⟨hf, hid⟩
      exact ⟨f, hf, hid, hserved.1, hserved.2, rfl⟩

theorem getSiteFontFace_of_mem (hsound : FacesSound t) (hf : f ∈ t.faces)
    (htype : contentTypeForFormat f.format ≠ "") (hbytes : f.bytes ≠ []) :
    getSiteFontFace f.id t = .ok (faceAnswer f.format f.bytes) := by
  have hget : t.getFace f.id = some f := by
    cases hfind : t.getFace f.id with
    | none =>
        unfold SiteFonts.getFace at hfind
        exact absurd (decide_eq_true rfl) (List.find?_eq_none.mp hfind f hf)
    | some f' =>
        rcases getFace_some hfind with ⟨hf', hid⟩
        rw [hsound.unique f' f hf' hf (by omega)]
  unfold getSiteFontFace
  rw [hget]
  exact if_neg (not_or.mpr ⟨htype, hbytes⟩)

end Grow

/-- What is served under an id is a font of the type that its bytes say.  It is what will be
served there until the face goes, and from then on nothing is. -/
theorem servedFace_immutable {t t' t'' : SiteFonts} (h : FontRun SiteFonts.empty t)
    (h' : FontRun t t') (h'' : FontRun t' t'') {faceId : Int} {answer : FaceAnswer}
    (hserved : getSiteFontFace faceId t = .ok answer) :
    (answer = faceAnswer (fontFormatFromMagicBytes answer.body) answer.body ∧
      contentTypeForFormat (fontFormatFromMagicBytes answer.body) ≠ "") ∧
    (getSiteFontFace faceId t' = .ok answer ∨
      forall answer'', getSiteFontFace faceId t'' ≠ .ok answer'') := by
  rcases getSiteFontFace_ok hserved with ⟨f, hf, rfl, htype, hbytes, rfl⟩
  have hlt := h.sound.fresh f hf
  refine ⟨?_, ?_⟩
  · rw [h.sound.typed f hf] at htype ⊢
    exact ⟨rfl, htype⟩
  · by_cases hin : f ∈ t'.faces
    · exact Or.inl (getSiteFontFace_of_mem (h'.grow.sound h.sound) hin htype hbytes)
    · right
      intro answer'' hlater
      rcases getSiteFontFace_ok hlater with ⟨f'', hf'', hid, -⟩
      have hsame : f''.id = f.id := by omega
      have hmid : f'' ∈ t'.faces :=
        h''.grow.kept f'' hf'' (hsame ▸ Nat.lt_of_lt_of_le hlt h'.grow.next_le)
      have heq := h.sound.unique f'' f (h'.grow.kept f'' hmid (hsame ▸ hlt)) hf hsame
      exact hin (heq ▸ hmid)

def brandFonts : SiteFonts :=
  (postManageSiteFontFace .admin ⟨1, 400, "normal", asciiBytes "wOF2"⟩
    (handlePut .admin (.ok (.obj [("families", .arr [.obj [("family", .str "Brand"),
      ("fallback", .str "serif"), ("source_kind", .str "uploaded")]])])) SiteFonts.empty).2).2

theorem brandFonts_run : FontRun SiteFonts.empty brandFonts :=
  (Relation.ReflTransGen.single (.put _ _ _)).tail (.posted _ _ _)

theorem servedFace_immutable_brand :
    getSiteFontFace 1 brandFonts = .ok (faceAnswer "woff2" (asciiBytes "wOF2")) ∧
      forall answer, getSiteFontFace 1 (deleteManageSiteFontFace .admin 1 brandFonts).2 ≠
        .ok answer := by
  refine ⟨by decide, ?_⟩
  have hgone : getSiteFontFace 1 (deleteManageSiteFontFace .admin 1 brandFonts).2 ≠
      .ok (faceAnswer "woff2" (asciiBytes "wOF2")) := by decide
  have hserved : getSiteFontFace 1 brandFonts =
      .ok (faceAnswer "woff2" (asciiBytes "wOF2")) := by decide
  exact (servedFace_immutable brandFonts_run (.single (.deleted .admin 1 brandFonts)) .refl
    hserved).2.resolve_left hgone

/-- Whatever is saved, uploaded and imported, no theme value that a page is served ends its
declaration. -/
theorem servesHarmless_of_run {app : Type} {tenantDisplayName : String} {site : Site app}
    (h : FontRun SiteFonts.empty site.fonts) :
    ServesHarmless (getSiteInfo tenantDisplayName site) :=
  servesHarmless h.fallbacksValid

def brandSite : Site Unit where
  secrets := (SortedMap.empty.set "site_theme_font_body" "Brand").set
    "site_theme_radius_card" "4px"
  assets := SortedMap.empty
  fonts := brandFonts
  app := ()

theorem servesHarmless_of_run_brand :
    (getSiteInfo "Studio" brandSite).theme.entries =
        [("--font-body", "'Brand', serif"), ("--radius-card", "4px")] ∧
      ServesHarmless (getSiteInfo "Studio" brandSite) :=
  ⟨by decide, servesHarmless_of_run brandFonts_run⟩

end Branding
end ServerComponents
