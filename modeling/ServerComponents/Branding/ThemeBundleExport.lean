import ServerComponents.Branding.FontInventory
import Mathlib.Data.List.DropRight

/-!
# Exporting a theme

A site's look as a bundle: the registered settings, the fonts in their order, and the
bytes of the images and faces under names that are derived from what they are.
-/

namespace ServerComponents
namespace Branding

open Relational
open Rest (Json)

variable {app : Type}

/-!
# Names of files
-/

def extensionForFontFormat (fontFormat : String) : String :=
  let format := toLowerAscii fontFormat
  if format ∈ ["woff2", "woff", "ttf", "otf"] then format else ""

/-- A run of other characters becomes one hyphen, none in front. -/
def pushStemChar (stem : List Char × Bool) (c : Char) : List Char × Bool :=
  if isAsciiAlnum c then (stem.1 ++ [c], false)
  else if stem.1 ≠ [] ∧ stem.2 = false then (stem.1 ++ ['-'], true)
  else stem

def dropHyphens (stem : List Char) : List Char := stem.rdropWhile (fun c => c == '-')

def sanitizeAssetStem (text : String) : List Char :=
  dropHyphens ((toLowerAscii text).toList.foldl pushStemChar ([], false)).1

def orAsset (stem : List Char) : List Char := if stem = [] then "asset".toList else stem

/-- The name of a file, empty if there is none. -/
def makeAssetName (stem extension : String) : String :=
  if extension = "" then ""
  else
    let cleanStem := orAsset (sanitizeAssetStem stem)
    let room := kMaxAssetNameBytes - extension.utf8ByteSize - 1
    let cleanStem :=
      if room < cleanStem.length then orAsset (dropHyphens (cleanStem.take room)) else cleanStem
    let name := String.ofList cleanStem ++ "." ++ extension
    if isValidBundleAssetName name then name else ""

/-- A name that no file of the bundle has yet: the stem's own, or one with a number. -/
def claimAssetName (assets : SortedMap String FileBytes) (stem extension : String) : String :=
  let name := makeAssetName stem extension
  if name = "" then ""
  else if assets.find? name = none then name
  else
    (((List.range 998).map (fun i =>
      makeAssetName (stem ++ "-" ++ toString (i + 2)) extension)).find? (fun candidate =>
        decide (candidate ≠ "" ∧ assets.find? candidate = none))).getD ""

/-!
# Settings
-/

def siteAssetBytes (site : Site app) (name : String) : FileBytes :=
  ((site.assets.find? name).map SiteAsset.bytes).getD []

/-- What follows the route of the site's own images. -/
def afterAssetUrlPrefix (value : String) : String :=
  String.ofList (value.toList.drop kThemeBundleAssetUrlPrefix.length)

/-- The value of a slot in the file, and the image that goes with it. -/
def exportSlot (site : Site app) (key : String) : String × Option (String × FileBytes) :=
  let value := site.lookupSecret key
  let name := afterAssetUrlPrefix value
  if isUrlSlot key = true ∧ hasPrefix kThemeBundleAssetUrlPrefix value = true ∧
      isValidBundleAssetName name = true then
    if siteAssetBytes site name = [] then ("", none)
    else (name, some (name, siteAssetBytes site name))
  else (value, none)

def kThemeBundleContentKeys : List String := kSiteLogoUrl :: siteContentSlots.map ContentSlot.key

def exportContent (site : Site app) : SortedMap String String :=
  SortedMap.tabulate kThemeBundleContentKeys (fun key => (exportSlot site key).1)

def putFile (assets : SortedMap String FileBytes) (file : String × FileBytes) :
    SortedMap String FileBytes :=
  assets.set file.1 file.2

def exportImages (site : Site app) : SortedMap String FileBytes :=
  (kThemeBundleContentKeys.filterMap (fun key => (exportSlot site key).2)).foldl putFile
    SortedMap.empty

def exportTokens (site : Site app) : SortedMap String String :=
  SortedMap.tabulate (siteThemeTokens.map ThemeToken.key) site.lookupSecret

/-!
# Fonts
-/

/-- `GetAllSources`: the rows stand in the order of their keys. -/
def exportSource (row : String × SiteFontSource) : BundleFontSource where
  sourceKey := row.1
  displayName := row.2.displayName
  baseUrl := row.2.baseUrl
  querySuffix := row.2.querySuffix
  preconnects := parsePreconnectLines row.2.preconnectLines

/-- `sourceKeyById`: the key of the source with an id, empty if there is none. -/
def sourceKeyOf (t : SiteFonts) (id : Option Nat) : String :=
  ((t.sources.entries.find? (fun e => decide (some e.2.id = id))).map Prod.fst).getD ""

/-- `GetAllFonts`: the ids stand in order already, and the sort is stable. -/
def allFonts (t : SiteFonts) : List (Nat × SiteFont) := t.fonts.entries.insertionSort OrdinalLe

/-- What the exporter reads of a family's rows. -/
structure ExportedRows where
  family : String
  fallback : String
  sourceKind : String
  sourceKey : String
  spec : String
  faces : List SiteFontFace

/-- The source and the specification of a `cdn` family, and the faces in their order. -/
def rowsToExport (t : SiteFonts) (font : Nat × SiteFont) : ExportedRows :=
  let cdn := decide (font.2.sourceKind = kSiteFontSourceKindCdn)
  { family := font.2.family
    fallback := font.2.fallback
    sourceKind := font.2.sourceKind
    sourceKey := if cdn then sourceKeyOf t font.2.fontSourceId else ""
    spec := if cdn then font.2.spec else ""
    faces := font.2.faces.insertionSort FaceLe }

def exportFace (family : String) (assets : SortedMap String FileBytes) (face : SiteFontFace) :
    Except String (BundleFontFace × SortedMap String FileBytes) :=
  let extension := extensionForFontFormat face.format
  if extension = "" then
    .error ("Font \"" ++ family ++ "\" has a file in an unknown format (" ++ face.format ++ ").")
  else
    let file := claimAssetName assets
      (family ++ "-" ++ toString face.weight ++ "-" ++ face.style) extension
    if file = "" then .error ("Could not name the font file for \"" ++ family ++ "\".")
    else if face.bytes = [] then
      .error ("The font file for \"" ++ family ++ "\" could not be read.")
    else .ok (⟨face.weight, face.style, file⟩, assets.set file face.bytes)

def exportFaces (family : String) : SortedMap String FileBytes -> List SiteFontFace ->
    Except String (List BundleFontFace × SortedMap String FileBytes)
  | assets, [] => .ok ([], assets)
  | assets, face :: rest =>
      match exportFace family assets face with
      | .error reason => .error reason
      | .ok (first, assets) =>
          match exportFaces family assets rest with
          | .error reason => .error reason
          | .ok (faces, assets) => .ok (first :: faces, assets)

def exportFamilies : SortedMap String FileBytes -> List ExportedRows ->
    Except String (List BundleFontFamily × SortedMap String FileBytes)
  | assets, [] => .ok ([], assets)
  | assets, rows :: rest =>
      match exportFaces rows.family assets rows.faces with
      | .error reason => .error reason
      | .ok (faces, assets) =>
          match exportFamilies assets rest with
          | .error reason => .error reason
          | .ok (families, assets) =>
              .ok (⟨rows.family, rows.fallback, rows.sourceKind, rows.sourceKey, rows.spec,
                faces⟩ :: families, assets)

/-!
# The bundle
-/

/-- An exporter of an app: the reason to fail, or the section and the bundle with the files
that the section has added. -/
abbrev SectionExporter (app : Type) :=
  Site app -> ThemeBundle Json -> Except String (Json × ThemeBundle Json)

def exportSections (site : Site app) : List (String × SectionExporter app) ->
    ThemeBundle Json -> Except String (ThemeBundle Json)
  | [], bundle => .ok bundle
  | (name, exporter) :: rest, bundle =>
      match exporter site bundle with
      | .error reason => .error reason
      | .ok (body, bundle) =>
          exportSections site rest
            { bundle with appSections := bundle.appSections.set name body }

def exportProblem? (asset : String × FileBytes) : Option String :=
  if !isValidBundleAssetName asset.1 then
    some ("\"" ++ asset.1 ++ "\" is not a usable file name.")
  else if kMaxBundleAssetBytes < asset.2.length then
    some ("\"" ++ asset.1 ++ "\" is too large to put in a theme file.")
  else none

/-- The reason against the files together, empty if there is none. -/
def exportRefusal (assets : SortedMap String FileBytes) : String :=
  match assets.entries.findSome? exportProblem? with
  | some reason => reason
  | none =>
      if kMaxBundleAssets < assets.entries.length then
        "This theme has more files than a theme file can hold."
      else if kMaxBundleTotalBytes < (assets.entries.map (fun asset => asset.2.length)).sum then
        "This theme's files add up to more than a theme file can hold."
      else
        let duplicate := findCaseInsensitiveDuplicate assets.keys
        if duplicate ≠ "" then
          "Two files in this theme are both called \"" ++ duplicate ++ "\"."
        else ""

/-- The look of a site, or the reason why it cannot be put in a file. -/
def exportThemeBundle (exporters : List (String × SectionExporter app)) (site : Site app) :
    Except String (ThemeBundle Json) :=
  match exportFamilies (exportImages site)
      ((allFonts site.fonts).map (rowsToExport site.fonts)) with
  | .error reason => .error reason
  | .ok (families, assets) =>
      match exportSections site exporters
          { content := exportContent site
            tokens := exportTokens site
            sources := site.fonts.sources.entries.map exportSource
            families := families
            appSections := SortedMap.empty
            assets := assets } with
      | .error reason => .error reason
      | .ok bundle =>
          if exportRefusal bundle.assets ≠ "" then .error (exportRefusal bundle.assets)
          else .ok bundle

end Branding
end ServerComponents
