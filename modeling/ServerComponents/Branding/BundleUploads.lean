import ServerComponents.Branding.ManageSiteFonts
import ServerComponents.Branding.ThemeBundleZip

/-!
# Uploading a theme file

The two routes differ in whether they write.  A refused import throws, so that the
transaction rolls back, and the report travels with the exception.
-/

namespace ServerComponents
namespace Branding

open Relational Control
open Rest (Json Response)

variable {app : Type}

/-!
# The routes
-/

/-- The answer of an upload: a refusal before the import, the report of a refused import, what
else was thrown, or the report of an accepted one. -/
inductive UploadAnswer where
  | refused (response : Response)
  | rejected (report : BundleImportReport)
  | failed (err : Exn)
  | accepted (report : BundleImportReport)

def UploadAnswer.status : UploadAnswer -> Nat
  | .refused response => response.status
  | .rejected _ => 400
  | .failed _ => 500
  | .accepted _ => 200

structure ThemeUpload where
  body : FileBytes
  strict : Bool
  merge : Bool

/-- Lenient and replacing where the flags are not set. -/
def ThemeUpload.options (upload : ThemeUpload) (dryRun : Bool) : ThemeBundleImportOptions where
  strictness := if upload.strict then .strict else .lenient
  merge := upload.merge
  dryRun := dryRun

section Routes

variable (zip : ZipLibrary) (fromText : JsonLoader) (sections : SectionRegistry app)

def runImport (access : Access) (upload : ThemeUpload) (dryRun : Bool) (site : Site app) :
    UploadAnswer × Site app :=
  match requireAdmin access with
  | .error (.response response) => (.refused response, site)
  | .error (.thrown err) => (.failed err, site)
  | .ok () =>
      if upload.body = [] then
        (.refused (Rest.ErrorResponse.badRequest "No theme file in the request."), site)
      else
        match themeBundleFromZip zip fromText upload.body with
        | .error err => (.failed err, site)
        | .ok (.error reason) => (.refused (Rest.ErrorResponse.badRequest reason), site)
        | .ok (.ok (json, assets)) =>
            match importThemeBundleJson sections json assets (upload.options dryRun) site with
            | (.error err, _) => (.failed err, site)
            | (.ok report, site') =>
                if report.ok then (.accepted report, site') else (.rejected report, site)

def postManageSiteThemeBundleValidate (access : Access) (upload : ThemeUpload)
    (site : Site app) : UploadAnswer × Site app :=
  runImport zip fromText sections access upload true site

def postManageSiteThemeBundle (access : Access) (upload : ThemeUpload) (site : Site app) :
    UploadAnswer × Site app :=
  runImport zip fromText sections access upload false site

/-!
# Clean answers
-/

/-- Reading the file throws nothing, and an administrator is answered 200 or 400 by either
route, with the site as it was unless the file was taken. -/
structure AnswersCleanly (upload : ThemeUpload) (site : Site app) : Prop where
  neverThrows : forall err, themeBundleFromZip zip fromText upload.body ≠ .error err
  imported : (postManageSiteThemeBundle zip fromText sections .admin upload site).1.status ∈
    [200, 400]
  validated :
    (postManageSiteThemeBundleValidate zip fromText sections .admin upload site).1.status ∈
      [200, 400]
  importedOnly :
    (postManageSiteThemeBundle zip fromText sections .admin upload site).1.status ≠ 200 ->
      (postManageSiteThemeBundle zip fromText sections .admin upload site).2 = site
  validatedOnly :
    (postManageSiteThemeBundleValidate zip fromText sections .admin upload site).1.status ≠ 200 ->
      (postManageSiteThemeBundleValidate zip fromText sections .admin upload site).2 = site

/-- The document of an archive that passes is JSON. -/
def Importable (upload : ThemeUpload) : Prop :=
  forall jsonText assets, readArchive zip upload.body = .ok (jsonText, assets) ->
    exists json, fromText jsonText = .ok json

end Routes

def SectionsReturn (sections : SectionRegistry app) : Prop :=
  forall name importer, sections name = some importer -> forall bundle body merge site,
    exists answer site', importer bundle body merge site = (.ok answer, site')

/-!
# The import
-/

variable {zip : ZipLibrary} {fromText : JsonLoader} {sections : SectionRegistry app}

theorem importSections_returns (hsections : SectionsReturn sections)
    {strictness : BundleStrictness} {merge : Bool} {bundle : ThemeBundle Json}
    {entries : List (String × Json)} {problems : List BundleProblem} {site : Site app} :
    exists answer site', importSections sections strictness merge bundle entries problems site =
      (.ok answer, site') := by
  induction entries generalizing problems site with
  | nil => exact ⟨_, _, rfl⟩
  | cons e rest ih =>
      rcases e with ⟨name, body⟩
      unfold importSections
      cases hsection : sections name with
      | none => exact ih
      | some importer =>
          rcases hsections name importer hsection bundle body merge site with
            ⟨⟨reason, own⟩, site', himport⟩
          dsimp only
          rw [Work.bind_ok himport]
          dsimp only
          split
          · exact ih
          · split
            · exact ⟨_, _, rfl⟩
            · exact ih

theorem import_returns (hsections : SectionsReturn sections) (json : Json)
    (assets : SortedMap String FileBytes) (options : ThemeBundleImportOptions)
    (site : Site app) :
    exists report site', importThemeBundleJson sections json assets options site =
      (.ok report, site') := by
  unfold importThemeBundleJson
  cases decideImport sections json assets options with
  | error report => exact ⟨report, site, rfl⟩
  | ok decided =>
      rcases decided with ⟨bundle, report⟩
      dsimp only
      split
      · exact ⟨_, _, rfl⟩
      · rcases @importSections_returns _ _ hsections options.strictness options.merge bundle
          bundle.appSections.entries report.problems (applyLook bundle options.merge site)
          with ⟨answer, site', himport⟩
        refine ⟨finishReport report answer, site', ?_⟩
        show ((importSections sections options.strictness options.merge bundle
          bundle.appSections.entries report.problems).bind
            (fun answer => Work.done (finishReport report answer)))
              (applyLook bundle options.merge site) = _
        rw [Work.bind_ok himport]
        rfl

theorem badRequest_status (detail : String) :
    (Rest.ErrorResponse.badRequest detail).status = 400 := rfl

/-!
# The answers
-/

theorem runImport_unchanged (access : Access) (upload : ThemeUpload) (dryRun : Bool)
    (site : Site app)
    (h : (runImport zip fromText sections access upload dryRun site).1.status ≠ 200) :
    (runImport zip fromText sections access upload dryRun site).2 = site := by
  unfold runImport at h ⊢
  split
  · rfl
  · rfl
  · rename_i hadmin
    rw [hadmin] at h
    dsimp only at h
    split
    · rfl
    · rename_i hbody
      rw [if_neg hbody] at h
      split
      · rfl
      · rfl
      · rename_i json assets hfile
        rw [hfile] at h
        dsimp only at h
        split
        · rfl
        · rename_i report site' himport
          rw [himport] at h
          dsimp only at h
          split
          · rename_i hok
            rw [if_pos hok] at h
            exact absurd rfl h
          · rfl

theorem themeBundleFromZip_returns_iff {zipBytes : FileBytes} :
    (forall err, themeBundleFromZip zip fromText zipBytes ≠ .error err) <->
      forall jsonText assets, readArchive zip zipBytes = .ok (jsonText, assets) ->
        exists json, fromText jsonText = .ok json := by
  unfold themeBundleFromZip
  cases readArchive zip zipBytes with
  | error reason => exact ⟨fun _ _ _ h => (nomatch h), fun _ _ h => (nomatch h)⟩
  | ok read =>
      rcases read with ⟨jsonText, assets⟩
      dsimp only
      cases hjson : fromText jsonText with
      | error err =>
          constructor
          · intro h
            exact absurd rfl (h err)
          · intro h
            rcases h jsonText assets rfl with ⟨json, hread⟩
            rw [hjson] at hread
            cases hread
      | ok json =>
          constructor
          · rintro - text files heq
            cases heq
            exact ⟨json, hjson⟩
          · intro _ err
            dsimp only
            split <;> exact fun h => (nomatch h)

theorem runImport_status (hsections : SectionsReturn sections) {upload : ThemeUpload}
    (hreturns : forall err, themeBundleFromZip zip fromText upload.body ≠ .error err)
    (dryRun : Bool) (site : Site app) :
    (runImport zip fromText sections .admin upload dryRun site).1.status ∈ [200, 400] := by
  unfold runImport
  dsimp only [requireAdmin]
  split
  · simp [UploadAnswer.status, badRequest_status]
  · cases hfile : themeBundleFromZip zip fromText upload.body with
    | error err => exact absurd hfile (hreturns err)
    | ok file =>
        rcases file with reason | ⟨json, assets⟩
        · simp [UploadAnswer.status, badRequest_status]
        · rcases import_returns hsections json assets (upload.options dryRun) site with
            ⟨report, site', hreport⟩
          dsimp only
          rw [hreport]
          dsimp only
          split <;> simp [UploadAnswer.status]

def documentZip (text : FileBytes) : ZipLibrary where
  pack := fun _ => none
  read := fun _ => .archive [storedEntry (kThemeBundleJsonName, text)]

/-- An archive whose document was cut off after the first byte. -/
def truncatedZip : ZipLibrary := documentZip (asciiBytes "\x7b")

/-- Reads the empty object, and throws on everything else. -/
def emptyObjectText : JsonLoader := fun text =>
  if text = asciiBytes "\x7b\x7d" then .ok (.obj [])
  else .error (.runtimeError "invalid JSON object")

def someUpload : ThemeUpload := ⟨asciiBytes "PK", false, false⟩

end Branding
end ServerComponents
