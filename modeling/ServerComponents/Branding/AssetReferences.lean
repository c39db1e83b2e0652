import ServerComponents.Branding.ImportEffects

/-!
# References to images

A slot with a URL may hold the route that serves an image of the site.  The name behind
the route should be that of a stored image.
-/

namespace ServerComponents
namespace Branding

open Relational Control
open Rest (Json)

variable {app : Type}

def servedAsset? (value : String) : Option String :=
  if hasPrefix kThemeBundleAssetUrlPrefix value then
    some (String.ofList (value.toList.drop kThemeBundleAssetUrlPrefix.toList.length))
  else none

/-- Every slot with a URL that serves an image of the site names one that is stored. -/
def NoDangling (site : Site app) : Prop :=
  forall key name, isUrlSlot key = true -> servedAsset? (site.lookupSecret key) = some name ->
    name ∈ site.assets.keys

/-- The image that a slot will name: the file of the bundle, the name behind a route that
the bundle spells out, or when merging the name that a slot keeps. -/
def namedAsset? (bundle : ThemeBundle Json) (merge : Bool) (site : Site app) (key : String) :
    Option String :=
  match bundle.content.find? key with
  | some stored =>
      if isBundleAssetReference (normalizeLineEndings stored) then
        some (normalizeLineEndings stored)
      else servedAsset? (normalizeLineEndings stored)
  | none => if merge then servedAsset? (site.lookupSecret key) else none

/-- Every image that a slot will name comes with the bundle as an image, or is kept. -/
def NamesStored (bundle : ThemeBundle Json) (merge : Bool) (site : Site app) : Prop :=
  forall key name, isUrlSlot key = true -> namedAsset? bundle merge site key = some name ->
    name ∈ (imagesOf bundle).keys ∨ (merge = true ∧ name ∈ site.assets.keys)

theorem mem_contentKeys_of_isUrlSlot {key : String} (h : isUrlSlot key = true) :
    key ∈ contentKeys := by
  unfold isUrlSlot at h
  split at h
  · rename_i hlogo
    rw [hlogo]
    exact List.mem_cons_self
  · split at h
    · rename_i slot hslot
      have hkey : key = slot.key := by simpa using List.find?_some hslot
      rw [hkey]
      exact List.mem_cons_of_mem _ (List.mem_map_of_mem (List.mem_of_find?_eq_some hslot))
    · cases h

theorem servedAsset?_prefix (name : String) :
    servedAsset? (kThemeBundleAssetUrlPrefix ++ name) = some name := by
  unfold servedAsset? hasPrefix
  rw [String.toList_append, List.drop_left, if_pos (by simp), String.ofList_toList]

theorem isBundleAssetReference_nonempty {value : String}
    (h : isBundleAssetReference value = true) : value ≠ "" := by
  unfold isBundleAssetReference at h
  split at h
  · cases h
  · rename_i hnot
    intro hempty
    exact hnot (Or.inl hempty)

theorem servedAsset?_empty : servedAsset? "" = none := by
  decide

theorem servedAsset?_lookWrites {bundle : ThemeBundle Json} {merge : Bool} {key : String}
    (hurl : isUrlSlot key = true) (site : Site app) :
    servedAsset? ((((lookWrites bundle merge).foldl (fun m write => m.set write.1 write.2)
      site.secrets).find? key).getD "") = namedAsset? bundle merge site key := by
  rw [find?_lookWrites (mem_contentKeys_of_isUrlSlot hurl)]
  unfold contentWrite namedAsset?
  rcases bundle.content.find? key with _ | stored
  · cases merge with
    | true => rfl
    | false => exact servedAsset?_empty
  · dsimp only
    by_cases href : isBundleAssetReference (normalizeLineEndings stored) = true
    · rw [if_pos ⟨isBundleAssetReference_nonempty href, hurl, href⟩, if_pos href]
      exact servedAsset?_prefix _
    · rw [if_neg (fun h => href h.2.2), if_neg href]
      rfl

/-- An import that reports ok leaves no reference to a missing image just when every image
that a slot will name comes with the bundle as an image, or is kept. -/
theorem import_noDangling_iff {sections : SectionRegistry app} {json : Json}
    {assets : SortedMap String FileBytes} {options : ThemeBundleImportOptions}
    {site site' : Site app} {report : BundleImportReport}
    (hleave : Leave (fun site => (site.secrets, site.assets)) sections)
    (h : importThemeBundleJson sections json assets options site = (.ok report, site'))
    (hok : report.ok = true) (hdry : options.dryRun = false) :
    exists bundle first, decideImport sections json assets options = .ok (bundle, first) ∧
      (NoDangling site' <-> NamesStored bundle options.merge site) := by
  rcases importThemeBundleJson_ok h hok hdry with ⟨bundle, first, answer, happlied⟩
  refine ⟨bundle, first, happlied.decided, ?_⟩
  have hview : (fun site : Site app => (site.secrets, site.assets))
      (importSections sections options.strictness options.merge bundle
        bundle.appSections.entries first.problems (applyLook bundle options.merge site)).2 =
      ((applyLook bundle options.merge site).secrets,
        (applyLook bundle options.merge site).assets) := hleave.importSections _ _ _
  rw [happlied.imported, applyLook_eq] at hview
  have hsecrets : site'.secrets = _ := congrArg Prod.fst hview
  have hassets : site'.assets = _ := congrArg Prod.snd hview
  unfold NoDangling NamesStored Site.lookupSecret
  rw [hsecrets, hassets]
  dsimp only
  constructor
  · intro hno key name hurl hnamed
    rw [← servedAsset?_lookWrites hurl site] at hnamed
    exact mem_keys_placeAssets.mp (hno key name hurl hnamed)
  · intro hstored key name hurl hserved
    rw [servedAsset?_lookWrites hurl site] at hserved
    exact mem_keys_placeAssets.mpr (hstored key name hurl hserved)

def fontLogoTheme : Json :=
  .obj [("format", .str "honuware.site-theme"), ("format_version", .int 1),
    ("theme", .obj [("content", .obj [("site_logo_url", .str "studio.woff2")])])]

def fontLogoAssets : SortedMap String FileBytes :=
  SortedMap.empty.set "studio.woff2" (asciiBytes "wOF2")

def fontLogoSite : Site Unit :=
  (importThemeBundleJson skipsRow fontLogoTheme fontLogoAssets ⟨.strict, true, false⟩
    emptySite).2

theorem leave_skipsRow :
    Leave (fun site => (site.secrets, site.assets)) skipsRow := by
  intro name importer h bundle body merge site
  unfold skipsRow at h
  split at h
  · cases h
    rfl
  · cases h

def fontLogoReport : BundleImportReport :=
  { BundleImportReport.initial with
    ok := true
    contentChanges := 1
    assetChanges := 1 }

theorem import_fontLogo : importThemeBundleJson skipsRow fontLogoTheme fontLogoAssets
    ⟨.strict, true, false⟩ emptySite = (.ok fontLogoReport, fontLogoSite) := by
  have hreport : (importThemeBundleJson skipsRow fontLogoTheme fontLogoAssets
      ⟨.strict, true, false⟩ emptySite).1 = .ok fontLogoReport := by decide
  rw [← hreport]
  rfl

theorem import_noDangling_iff_fontLogo :
    exists bundle first, decideImport skipsRow fontLogoTheme fontLogoAssets
      ⟨.strict, true, false⟩ = .ok (bundle, first) ∧
        Not (NamesStored bundle true emptySite) := by
  rcases import_noDangling_iff leave_skipsRow import_fontLogo rfl rfl with
    ⟨bundle, first, hdecide, hiff⟩
  refine ⟨bundle, first, hdecide, fun hstored => ?_⟩
  exact absurd (hiff.mpr hstored "site_logo_url" "studio.woff2" (by decide) (by decide)) (by decide)

/-- The file of a font is no image of the site, and the slot that names it dangles. -/
theorem import_fontLogo_dangling :
    Not (forall (json : Json) (assets : SortedMap String FileBytes)
      (options : ThemeBundleImportOptions) (site site' : Site Unit)
      (report : BundleImportReport),
      importThemeBundleJson skipsRow json assets options site = (.ok report, site') ->
        report.ok = true -> options.dryRun = false -> NoDangling site') := by
  intro h
  have hno := h _ _ _ _ _ _ import_fontLogo rfl rfl
  have hmem := hno "site_logo_url" "studio.woff2" (by decide) (by decide)
  exact absurd hmem (by decide)

end Branding
end ServerComponents
