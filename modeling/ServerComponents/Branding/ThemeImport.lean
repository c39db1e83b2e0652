import ServerComponents.Branding.Site

/-!
# Importing a theme

What the bundle asks for is decided first; then it is written, and the sections of the
apps are handed to the importers that are registered for them.
-/

namespace ServerComponents
namespace Branding

open Relational Control
open Rest (Json)

inductive BundleStrictness where
  | strict
  | lenient
  deriving Repr, DecidableEq

structure ThemeBundleImportOptions where
  strictness : BundleStrictness
  merge : Bool
  dryRun : Bool
  deriving Repr, DecidableEq

structure BundleImportReport where
  ok : Bool
  migratedFrom : Int
  migrationsApplied : List String
  unknownKeys : List String
  skippedSections : List String
  problems : List BundleProblem
  contentChanges : Nat
  tokenChanges : Nat
  fontFamilyChanges : Nat
  assetChanges : Nat
  error : String
  deriving Repr, DecidableEq

def BundleImportReport.initial : BundleImportReport where
  ok := false
  migratedFrom := 0
  migrationsApplied := []
  unknownKeys := []
  skippedSections := []
  problems := []
  contentChanges := 0
  tokenChanges := 0
  fontFamilyChanges := 0
  assetChanges := 0
  error := ""

/-- An importer of an app: the reason against the section, empty if there is none, and the
problems that it has reported.  It may write anything, and it may throw. -/
abbrev SectionImporter (app : Type) :=
  ThemeBundle Json -> Json -> Bool -> Work (Site app) Exn (String × List BundleProblem)

/-- The registered importers by the names of their sections. -/
abbrev SectionRegistry (app : Type) := String -> Option (SectionImporter app)

variable {app : Type}

/-!
# What is written
-/

/-- The write for a content key.  A replacing import writes the absent ones too. -/
def contentWrite (bundle : ThemeBundle Json) (merge : Bool) (key : String) :
    Option (String × String) :=
  match bundle.content.find? key with
  | none => if merge then none else some (key, "")
  | some stored =>
      let value := normalizeLineEndings stored
      some (key,
        if value ≠ "" ∧ isUrlSlot key = true ∧ isBundleAssetReference value = true then
          kThemeBundleAssetUrlPrefix ++ value
        else value)

def contentKeys : List String := kSiteLogoUrl :: siteContentSlots.map ContentSlot.key

def contentWrites (bundle : ThemeBundle Json) (merge : Bool) : List (String × String) :=
  contentKeys.filterMap (contentWrite bundle merge)

def tokenWrite (bundle : ThemeBundle Json) (merge : Bool) (key : String) :
    Option (String × String) :=
  match bundle.tokens.find? key with
  | none => if merge then none else some (key, "")
  | some value => some (key, value)

def tokenWrites (bundle : ThemeBundle Json) (merge : Bool) : List (String × String) :=
  siteThemeTokens.filterMap (fun token => tokenWrite bundle merge token.key)

/-!
# Deciding
-/

def unknownKeysMessage : List String -> String
  | [] => ""
  | first :: rest =>
      "That theme file has settings this site does not have (" ++ first ++
        (if rest = [] then "" else " and " ++ toString rest.length ++ " more") ++ ")."

def problemMessage (problem : BundleProblem) : String :=
  if problem.item = "" then problem.reason else problem.item ++ ": " ++ problem.reason

/-- The refusal of a strict import, empty if there is none. -/
def strictMessage (unknownKeys : List String) (problems : List BundleProblem) : String :=
  if unknownKeys ≠ [] then unknownKeysMessage unknownKeys
  else
    match problems with
    | [] => ""
    | first :: _ => problemMessage first

def reportOn (sections : SectionRegistry app) (bundle : ThemeBundle Json)
    (report : BundleImportReport) : BundleImportReport :=
  { report with
    unknownKeys := unknownKeysOf bundle
    problems := problemsOf bundle
    skippedSections := bundle.appSections.keys.filter (fun name => (sections name).isNone) }

def countChanges (bundle : ThemeBundle Json) (merge : Bool) (report : BundleImportReport) :
    BundleImportReport :=
  { report with
    assetChanges := bundle.assets.entries.length
    fontFamilyChanges := bundle.families.length
    contentChanges := (contentWrites bundle merge).length
    tokenChanges := (tokenWrites bundle merge).length }

/-- The bundle of a document with its files, and what is known of its format. -/
def readImport (json : Json) (assets : SortedMap String FileBytes) :
    Except BundleImportReport (ThemeBundle Json × BundleImportReport) :=
  let report := BundleImportReport.initial
  match migrateBundleJson json with
  | .error reason => .error { report with error := reason }
  | .ok (migrated, applied) =>
      let report :=
        { report with
          migrationsApplied := applied
          migratedFrom := if applied ≠ [] then readBundleFormatVersion json else 0 }
      match themeBundleFromJson migrated with
      | .error reason => .error { report with error := reason }
      | .ok bundle => .ok ({ bundle with assets := assets }, report)

/-- The refusal of the file, or the pruned bundle with the report up to the writes. -/
def decideImport (sections : SectionRegistry app) (json : Json)
    (assets : SortedMap String FileBytes) (options : ThemeBundleImportOptions) :
    Except BundleImportReport (ThemeBundle Json × BundleImportReport) :=
  match readImport json assets with
  | .error report => .error report
  | .ok (bundle, report) =>
      if findFatalBundleProblem bundle ≠ "" then
        .error { report with error := findFatalBundleProblem bundle }
      else if options.strictness = .strict ∧
          (unknownKeysOf bundle ≠ [] ∨ problemsOf bundle ≠ []) then
        .error
          { reportOn sections bundle report with
            error := strictMessage (unknownKeysOf bundle) (problemsOf bundle) }
      else
        .ok (pruneUnusableBundleItems bundle,
          countChanges (pruneUnusableBundleItems bundle) options.merge
            (reportOn sections bundle report))

/-!
# Writing
-/

/-- Only what is no font becomes a site asset. -/
def isImageAsset (asset : String × FileBytes) : Bool :=
  decide (fontFormatFromMagicBytes asset.2 = "")

def imagesOf (bundle : ThemeBundle Json) : SortedMap String FileBytes :=
  bundle.assets.filter isImageAsset

def putAsset (assets : SortedMap String SiteAsset) (asset : String × FileBytes) :
    SortedMap String SiteAsset :=
  assets.set asset.1 ⟨imageTypeFromMagicBytes asset.2, asset.2⟩

def placeAssets (bundle : ThemeBundle Json) (merge : Bool)
    (assets : SortedMap String SiteAsset) : SortedMap String SiteAsset :=
  let placed := (imagesOf bundle).entries.foldl putAsset assets
  if merge then placed
  else placed.filter (fun e => decide (e.1 ∈ (imagesOf bundle).keys))

/-- The sources in turn, with the ids of their rows by key. -/
def applySources (t : SiteFonts) (sources : List BundleFontSource) :
    SiteFonts × SortedMap String Nat :=
  sources.foldl (fun (t, ids) source =>
    ((t.putSource source).1, ids.set source.sourceKey (t.putSource source).2))
    (t, SortedMap.empty)

def facesOf (bundle : ThemeBundle Json) (family : BundleFontFamily) (nextFaceId : Nat) :
    List SiteFontFace :=
  (family.faces.filterMap (fun face =>
    (bundle.assets.find? face.file).map (fun bytes => (face, bytes)))).mapIdx
      (fun index (face, bytes) =>
        { id := nextFaceId + index
          weight := face.weight
          style := if face.style = "italic" then "italic" else "normal"
          format := fontFormatFromMagicBytes bytes
          bytes := bytes })

/-- The row of a family; `active` is none of the columns that an import writes. -/
def fontRow (bundle : ThemeBundle Json) (ids : SortedMap String Nat) (ordinal : Nat)
    (family : BundleFontFamily) (nextFaceId : Nat) (active : Bool) : SiteFont :=
  let cdn := decide (family.sourceKind = kSiteFontSourceKindCdn)
  { family := family.family
    fallback := family.fallback
    sourceKind := family.sourceKind
    fontSourceId := if cdn then ids.find? family.sourceKey else none
    spec := if cdn then family.spec else ""
    ordinal := ordinal
    active := active
    faces := facesOf bundle family nextFaceId }

/-- `GetFontByFamily`, and `UpdateFont` of its row or `AddFont`. -/
def applyFamily (bundle : ThemeBundle Json) (ids : SortedMap String Nat) (ordinal : Nat)
    (family : BundleFontFamily) (t : SiteFonts) : SiteFonts :=
  match t.getFontByFamily family.family with
  | none => t.addFont (fontRow bundle ids ordinal family t.nextFaceId true)
  | some (id, row) => t.updateFont id (fontRow bundle ids ordinal family t.nextFaceId row.active)

def applyFamilies (bundle : ThemeBundle Json) (ids : SortedMap String Nat) :
    Nat -> List BundleFontFamily -> SiteFonts -> SiteFonts
  | _, [], t => t
  | ordinal, family :: rest, t =>
      applyFamilies bundle ids (ordinal + 10) rest (applyFamily bundle ids ordinal family t)

def dropUnlisted (bundle : ThemeBundle Json) (t : SiteFonts) : SiteFonts :=
  (t.keepFonts (fun family =>
    decide (family ∈ bundle.families.map BundleFontFamily.family))).keepSources
    (fun key => decide (key ∈ bundle.sources.map BundleFontSource.sourceKey))

def applyBundleFonts (bundle : ThemeBundle Json) (merge : Bool) (t : SiteFonts) : SiteFonts :=
  let (t, ids) := applySources t bundle.sources
  let t := applyFamilies bundle ids 10 bundle.families t
  if merge then t else dropUnlisted bundle t

/-- The framework's half: images first, then the settings, then the fonts. -/
def applyLook (bundle : ThemeBundle Json) (merge : Bool) (site : Site app) : Site app :=
  let site := { site with assets := placeAssets bundle merge site.assets }
  let site := (contentWrites bundle merge ++ tokenWrites bundle merge).foldl
    Site.addSecret site
  { site with fonts := applyBundleFonts bundle merge site.fonts }

/-- The sections in turn: the refusal, empty if there is none, and the problems so far. -/
def importSections (sections : SectionRegistry app) (strictness : BundleStrictness)
    (merge : Bool) (bundle : ThemeBundle Json) :
    List (String × Json) -> List BundleProblem ->
      Work (Site app) Exn (String × List BundleProblem)
  | [], problems => Work.done ("", problems)
  | (name, body) :: rest, problems =>
      match sections name with
      | none => importSections sections strictness merge bundle rest problems
      | some importer =>
          (importer bundle body merge).bind (fun (reason, own) =>
            if reason = "" then
              importSections sections strictness merge bundle rest (problems ++ own)
            else if strictness = .strict then Work.done (reason, problems ++ own)
            else importSections sections strictness merge bundle rest
              (problems ++ own ++ [⟨"section:" ++ name, "", reason⟩]))

def finishReport (report : BundleImportReport) (answer : String × List BundleProblem) :
    BundleImportReport :=
  if answer.1 = "" then { report with problems := answer.2, ok := true }
  else { report with problems := answer.2, error := answer.1 }

def importThemeBundleJson (sections : SectionRegistry app) (json : Json)
    (assets : SortedMap String FileBytes) (options : ThemeBundleImportOptions) :
    Work (Site app) Exn BundleImportReport :=
  match decideImport sections json assets options with
  | .error report => Work.done report
  | .ok (bundle, report) =>
      if options.dryRun then Work.done { report with ok := true }
      else
        (Work.modify (applyLook bundle options.merge)).bind (fun _ =>
          (importSections sections options.strictness options.merge bundle
            bundle.appSections.entries report.problems).bind
              (fun answer => Work.done (finishReport report answer)))

end Branding
end ServerComponents
