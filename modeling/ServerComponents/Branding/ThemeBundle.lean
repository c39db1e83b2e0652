import Mathlib.Algebra.GroupWithZero.Nat
import ServerComponents.Branding.SiteValues
import ServerComponents.Relational.SortedMap

/-!
# Theme bundles

A look as a file: settings, fonts, sections of apps, and the bytes of images and font
faces.  A bundle that is unusable is refused as a whole; of any other, what cannot be
applied is dropped, with a reason for each item.
-/

namespace ServerComponents
namespace Branding

open Relational

structure BundleFontPreconnect where
  url : String
  crossorigin : Bool
  deriving Repr, DecidableEq

structure BundleFontSource where
  sourceKey : String
  displayName : String
  baseUrl : String
  querySuffix : String
  preconnects : List BundleFontPreconnect
  deriving Repr, DecidableEq

structure BundleFontFace where
  weight : Int
  style : String
  file : String
  deriving Repr, DecidableEq

structure BundleFontFamily where
  family : String
  fallback : String
  sourceKind : String
  sourceKey : String
  spec : String
  faces : List BundleFontFace
  deriving Repr, DecidableEq

/-- The bundle; the bodies of sections are the apps' own. -/
structure ThemeBundle (json : Type) where
  content : SortedMap String String
  tokens : SortedMap String String
  sources : List BundleFontSource
  families : List BundleFontFamily
  appSections : SortedMap String json
  assets : SortedMap String FileBytes

structure BundleProblem where
  area : String
  item : String
  reason : String
  deriving Repr, DecidableEq

def kSiteFontSourceKindCdn : String := "cdn"
def kSiteFontSourceKindUploaded : String := "uploaded"
def kSiteFontSourceKindSystem : String := "system"

variable {json : Type}

namespace ThemeBundle

def hasAsset (bundle : ThemeBundle json) (fileName : String) : Bool :=
  (bundle.assets.find? fileName).isSome

end ThemeBundle

/-- A slot that holds a URL or the name of a bundled file. -/
def isUrlSlot (key : String) : Bool :=
  if key = kSiteLogoUrl then true
  else
    match findContentSlot key with
    | some slot => decide (slot.type = .url)
    | none => false

/-!
# Whole files
-/

/-- The first reason against one of the assets. -/
def assetProblem? (asset : String × FileBytes) : Option String :=
  if !isValidBundleAssetName asset.1 then
    some ("\"" ++ asset.1 ++ "\" is not a usable file name.")
  else if kMaxBundleAssetBytes < asset.2.length then
    some ("\"" ++ asset.1 ++ "\" is larger than we can accept.")
  else if fontFormatFromMagicBytes asset.2 = "" ∧ imageTypeFromMagicBytes asset.2 = "" then
    some ("\"" ++ asset.1 ++ "\" is not an image or a font.")
  else none

def isSettingRefused (known : String -> Bool) (key : String) : Bool :=
  !known key && !hasPrefix "site_" key

def isKnownContentKey (key : String) : Bool :=
  decide (key = kSiteLogoUrl) || (findContentSlot key).isSome

def isKnownTokenKey (key : String) : Bool := (findThemeToken key).isSome

/-- The reason to refuse the file, empty if there is none. -/
def findFatalBundleProblem (bundle : ThemeBundle json) : String :=
  if kMaxBundleAssets < bundle.assets.entries.length then
    "That theme file has more files in it than we can accept."
  else
    match bundle.assets.entries.findSome? assetProblem? with
    | some problem => problem
    | none =>
        if kMaxBundleTotalBytes <
            (bundle.assets.entries.map (fun asset => asset.2.length)).sum then
          "That theme file's contents add up to more than we can accept."
        else
          let duplicate := findCaseInsensitiveDuplicate bundle.assets.keys
          if duplicate ≠ "" then
            "Two files in that theme are both called \"" ++ duplicate ++ "\"."
          else
            match bundle.content.keys.find? (isSettingRefused isKnownContentKey) with
            | some key => "\"" ++ key ++ "\" is not a theme setting."
            | none =>
                match bundle.tokens.keys.find? (isSettingRefused isKnownTokenKey) with
                | some key => "\"" ++ key ++ "\" is not a theme setting."
                | none => ""

/-!
# Items
-/

inductive Verdict where
  | keep
  | unknown
  | problem (reason : String)
  deriving Repr, DecidableEq

def Verdict.ofReason (reason : String) : Verdict :=
  if reason = "" then .keep else .problem reason

def contentVerdict (bundle : ThemeBundle json) (key value : String) : Verdict :=
  if !isKnownContentKey key then .unknown
  else if value = "" then .keep
  else if isUrlSlot key && isBundleAssetReference value then
    if bundle.hasAsset value then .keep
    else .problem ("points at \"" ++ value ++ "\", which is not in that theme file.")
  else
    match findContentSlot key with
    | some slot => Verdict.ofReason (validateSlotValue slot.type (normalizeLineEndings value))
    | none => .keep

def tokenVerdict (key value : String) : Verdict :=
  match findThemeToken key with
  | none => .unknown
  | some token =>
      if value = "" then .keep
      else if isValidThemeTokenValue token.type value then .keep
      else .problem ("\"" ++ value ++ "\" is not a valid value for that setting.")

def keptSettings (verdict : String -> String -> Verdict) (settings : SortedMap String String) :
    SortedMap String String :=
  ⟨settings.entries.filter (fun e => decide (verdict e.1 e.2 = .keep)),
    settings.sorted.filter _⟩

def unknownSettings (verdict : String -> String -> Verdict)
    (settings : SortedMap String String) : List String :=
  (settings.entries.filter (fun e => decide (verdict e.1 e.2 = .unknown))).map Prod.fst

def settingProblems (area : String) (verdict : String -> String -> Verdict)
    (settings : SortedMap String String) : List BundleProblem :=
  settings.entries.filterMap (fun e =>
    match verdict e.1 e.2 with
    | .problem reason => some ⟨area, e.1, reason⟩
    | _ => none)

/-- What a pass over sources or families has kept: the names that count as taken, the items
and the problems. -/
structure Kept (item : Type) where
  names : List String
  items : List item
  problems : List BundleProblem

/-- An item with a reason against it is dropped, and its name is free again. -/
def Kept.decide {item : Type} (kept : Kept item) (name reason : String) (kept? : item) :
    Kept item :=
  if reason = "" then { kept with items := kept.items ++ [kept?] }
  else
    { kept with
      names := kept.names.filter (fun n => n != name)
      problems := kept.problems ++ [⟨"fonts", name, reason⟩] }

def preconnectProblem (preconnects : List BundleFontPreconnect) : String :=
  match preconnects.find? (fun preconnect => !isValidFontSourceUrl preconnect.url) with
  | some preconnect => "\"" ++ preconnect.url ++ "\" is not a usable address to warm up."
  | none => ""

/-- The reason against a source, and the names taken when it has been looked at. -/
def sourceReason (names : List String) (source : BundleFontSource) : String × List String :=
  if source.sourceKey = "" then ("a font service in that theme has no short key.", names)
  else if source.sourceKey ∈ names then
    ("two font services in that theme share this key.", names)
  else if !isValidFontSourceUrl source.baseUrl then
    ("the font service address must be an https:// URL.", source.sourceKey :: names)
  else if source.querySuffix ≠ "" ∧ isValidFontSpec source.querySuffix = false then
    ("that extra setting is not valid.", source.sourceKey :: names)
  else (preconnectProblem source.preconnects, source.sourceKey :: names)

def pruneSource (kept : Kept BundleFontSource) (source : BundleFontSource) :
    Kept BundleFontSource :=
  let (reason, names) := sourceReason kept.names source
  Kept.decide { kept with names := names } source.sourceKey reason source

def faceReason (bundle : ThemeBundle json) (face : BundleFontFace) : String :=
  if face.weight < 1 ∨ 1000 < face.weight then
    toString face.weight ++ " is not a usable font weight."
  else
    match bundle.assets.find? face.file with
    | none => "the file \"" ++ face.file ++ "\" is not in that theme file."
    | some bytes =>
        if fontFormatFromMagicBytes bytes = "" then
          "\"" ++ face.file ++ "\" is not a WOFF2, WOFF, TTF or OTF font."
        else ""

def keptFaces (bundle : ThemeBundle json) (family : BundleFontFamily) : List BundleFontFace :=
  family.faces.filter (fun face => decide (faceReason bundle face = ""))

def faceProblems (bundle : ThemeBundle json) (family : BundleFontFamily) : List BundleProblem :=
  (family.faces.filter (fun face => decide (faceReason bundle face ≠ ""))).map
    (fun face => ⟨"fonts", family.family, faceReason bundle face⟩)

/-- The reason against a family whose name and fallback are good, and what is kept of it. -/
def familyKindReason (bundle : ThemeBundle json) (sourceKeys : List String)
    (family : BundleFontFamily) : String × BundleFontFamily × List BundleProblem :=
  if family.sourceKind = kSiteFontSourceKindCdn then
    if family.sourceKey ∉ sourceKeys then
      ("names a font service (\"" ++ family.sourceKey ++ "\") that theme does not include.",
        family, [])
    else if !isValidFontSpec family.spec then
      ("that font specification is not valid.", family, [])
    else ("", family, [])
  else if family.sourceKind = kSiteFontSourceKindUploaded then
    let faces := keptFaces bundle family
    (if faces = [] then "has no usable font files, so nothing could be shown in it." else "",
      { family with faces := faces }, faceProblems bundle family)
  else if family.sourceKind ≠ kSiteFontSourceKindSystem then
    ("unknown font kind \"" ++ family.sourceKind ++ "\".", family, [])
  else ("", family, [])

def pruneFamily (bundle : ThemeBundle json) (sourceKeys : List String)
    (kept : Kept BundleFontFamily) (family : BundleFontFamily) : Kept BundleFontFamily :=
  if !isValidFontFamilyName family.family then
    kept.decide family.family "that is not a usable font name." family
  else if family.family ∈ kept.names then
    kept.decide family.family "two fonts in that theme are both called this." family
  else
    let kept := { kept with names := family.family :: kept.names }
    if family.fallback = "" ∨ isValidFontFamilyList family.fallback = false then
      kept.decide family.family "needs a backup font (for example sans-serif)." family
    else
      let (reason, family', problems) := familyKindReason bundle sourceKeys family
      Kept.decide { kept with problems := kept.problems ++ problems } family.family reason
        family'

def prunedSources (bundle : ThemeBundle json) : Kept BundleFontSource :=
  bundle.sources.foldl pruneSource ⟨[], [], []⟩

def prunedFamilies (bundle : ThemeBundle json) : Kept BundleFontFamily :=
  bundle.families.foldl (pruneFamily bundle (prunedSources bundle).names) ⟨[], [], []⟩

def pruneUnusableBundleItems (bundle : ThemeBundle json) : ThemeBundle json :=
  { bundle with
    content := keptSettings (contentVerdict bundle) bundle.content
    tokens := keptSettings tokenVerdict bundle.tokens
    sources := (prunedSources bundle).items
    families := (prunedFamilies bundle).items }

def unknownKeysOf (bundle : ThemeBundle json) : List String :=
  unknownSettings (contentVerdict bundle) bundle.content ++
    unknownSettings tokenVerdict bundle.tokens

def problemsOf (bundle : ThemeBundle json) : List BundleProblem :=
  settingProblems "content" (contentVerdict bundle) bundle.content ++
    settingProblems "tokens" tokenVerdict bundle.tokens ++
    (prunedSources bundle).problems ++ (prunedFamilies bundle).problems

end Branding
end ServerComponents
