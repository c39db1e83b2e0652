import ServerComponents.Branding.DryRun
import ServerComponents.Branding.ThemeBundleZip

/-!
# Reading an exported file

The exporter bounds the files of a bundle, and the reader bounds the files together with the
document.
-/

namespace ServerComponents
namespace Branding

open Relational
open Rest (Json)

variable {app : Type}

def assetBytes (assets : List (String × FileBytes)) : Nat :=
  (assets.map (fun asset => asset.2.length)).sum

structure Restores (zip : ZipLibrary) (fromText : JsonLoader)
    (options : ThemeBundleExportOptions) (bundle : ThemeBundle Json) : Prop where
  written : themeBundleToZip zip options bundle ≠ []
  restored : themeBundleFromZip zip fromText (themeBundleToZip zip options bundle) =
    .ok (.ok (themeBundleToJson options bundle, bundle.assets))

/-- The document keeps to the bounds of the reader, and no file has its name. -/
structure FitsReader (options : ThemeBundleExportOptions) (bundle : ThemeBundle Json) :
    Prop where
  json : (jsonBytes (themeBundleToJson options bundle)).length ≤ kMaxBundleJsonBytes
  total : (jsonBytes (themeBundleToJson options bundle)).length +
    assetBytes bundle.assets.entries ≤ kMaxBundleTotalBytes
  noJsonAsset : kThemeBundleJsonName ∉ bundle.assets.keys

/-!
# What the exporter has checked
-/

/-- A file that the exporter and the reader take. -/
def Packable (asset : String × FileBytes) : Prop :=
  isValidBundleAssetName asset.1 = true ∧ asset.2.length ≤ kMaxBundleAssetBytes

theorem exportProblem?_none {asset : String × FileBytes} (h : exportProblem? asset = none) :
    Packable asset := by
  unfold exportProblem? at h
  split at h
  · cases h
  · rename_i hname
    split at h
    · cases h
    · rename_i hsize
      exact ⟨by simpa using hname, by omega⟩

theorem quote_ne (text : String) : "\"" ++ text ≠ "" := by
  intro h
  have hlength := congrArg String.length h
  rw [String.length_append] at hlength
  have hquote : ("\"" : String).length = 1 := rfl
  have hempty : ("" : String).length = 0 := rfl
  omega

theorem exportProblem?_ne {asset : String × FileBytes} : exportProblem? asset ≠ some "" := by
  unfold exportProblem?
  split
  · intro h
    rw [String.append_assoc] at h
    exact quote_ne _ (Option.some.inj h)
  · split
    · intro h
      rw [String.append_assoc] at h
      exact quote_ne _ (Option.some.inj h)
    · exact fun h => (nomatch h)

theorem duplicate_ne (text : String) :
    "Two files in this theme are both called \"" ++ text ≠ "" := by
  intro h
  have hlength := congrArg String.length h
  rw [String.length_append] at hlength
  have hprefix : ("Two files in this theme are both called \"" : String).length = 41 := rfl
  have hempty : ("" : String).length = 0 := rfl
  omega

structure ExportChecked (assets : SortedMap String FileBytes) : Prop where
  packable : forall asset, asset ∈ assets.entries -> Packable asset
  count : assets.entries.length ≤ kMaxBundleAssets
  total : assetBytes assets.entries ≤ kMaxBundleTotalBytes
  noDuplicate : findCaseInsensitiveDuplicate assets.keys = ""

theorem exportChecked_of_refusal {assets : SortedMap String FileBytes}
    (h : exportRefusal assets = "") : ExportChecked assets := by
  unfold exportRefusal at h
  split at h
  · rename_i reason hreason
    rcases List.exists_of_findSome?_eq_some hreason with ⟨asset, -, hasset⟩
    rw [h] at hasset
    exact absurd hasset exportProblem?_ne
  · rename_i hnone
    split at h
    · exact absurd h (by decide)
    · rename_i hcount
      split at h
      · exact absurd h (by decide)
      · rename_i htotal
        dsimp only at h
        split at h
        · rw [String.append_assoc] at h
          exact absurd h (duplicate_ne _)
        · rename_i hduplicate
          exact
            { packable := fun asset hasset =>
                exportProblem?_none (List.findSome?_eq_none_iff.mp hnone asset hasset)
              count := by omega
              total := by
                unfold assetBytes
                omega
              noDuplicate := by simpa using hduplicate }

variable {bundle : ThemeBundle Json}

theorem exportThemeBundle_checked {exporters : List (String × SectionExporter app)}
    {site : Site app}
    (h : exportThemeBundle exporters site = .ok bundle) : ExportChecked bundle.assets := by
  unfold exportThemeBundle at h
  split at h
  · cases h
  · split at h
    · cases h
    · split at h
      · cases h
      · rename_i hrefusal
        cases h
        exact exportChecked_of_refusal (by simpa using hrefusal)

/-!
# Reading what was packed
-/

theorem not_folder {name : String} (h : isValidBundleAssetName name = true) :
    Not (name = "" ∨ name.toList.getLast? = some '/') := by
  unfold isValidBundleAssetName at h
  split at h
  · cases h
  · rename_i hname
    simp only [Bool.and_eq_true, List.all_eq_true] at h
    rintro (hempty | hslash)
    · exact hname (Or.inl hempty)
    · have hchar := h.1.2 '/' (List.mem_of_getLast? hslash)
      revert hchar
      decide

theorem readContent_stored (file : String × FileBytes) :
    readContent (storedEntry file) file.2.length = some file.2 := by
  unfold readContent storedEntry
  dsimp only
  rw [if_neg (by decide)]
  split
  · rename_i hzero
    rw [List.length_eq_zero_iff.mp hzero]
  · rw [if_neg (Nat.lt_irrefl _), List.take_length]

theorem readEntry_stored {file : String × FileBytes}
    (hname : file.1 = kThemeBundleJsonName ∨ isValidBundleAssetName file.1 = true)
    (done : ReadEntries) :
    (file.2.length ≤ entryCap file.1 ∧
        done.totalBytes + file.2.length ≤ kMaxBundleTotalBytes ->
      readEntry done (storedEntry file) =
        .ok (if file.1 = kThemeBundleJsonName then
          { done with jsonText := file.2, totalBytes := done.totalBytes + file.2.length }
        else
          { done with
            names := done.names ++ [file.1]
            assets := done.assets.set file.1 file.2
            totalBytes := done.totalBytes + file.2.length })) ∧
    (Not (file.2.length ≤ entryCap file.1 ∧
        done.totalBytes + file.2.length ≤ kMaxBundleTotalBytes) ->
      exists reason, readEntry done (storedEntry file) = .error reason) := by
  have hfolder : Not (file.1 = "" ∨ file.1.toList.getLast? = some '/') := by
    rcases hname with hjson | hvalid
    · rw [hjson]
      decide
    · exact not_folder hvalid
  have husable : Not (file.1 ≠ kThemeBundleJsonName ∧ isValidBundleAssetName file.1 = false) := by
    rintro ⟨hne, hinvalid⟩
    rcases hname with hjson | hvalid
    · exact hne hjson
    · rw [hvalid] at hinvalid
      cases hinvalid
  have hcheck : checkEntry done.totalBytes (storedEntry file) =
      if entryCap file.1 < file.2.length then
        .error ("\"" ++ file.1 ++ "\" is larger than we can accept.")
      else if kMaxBundleTotalBytes < done.totalBytes + file.2.length then
        .error "That theme file's contents add up to more than we can accept."
      else .ok (file.1, file.2.length) := by
    unfold checkEntry storedEntry
    dsimp only
    rw [if_neg hfolder, if_neg husable]
  unfold readEntry
  rw [hcheck]
  constructor
  · rintro ⟨hcap, htotal⟩
    rw [if_neg (by omega), if_neg (by omega)]
    dsimp only
    rw [readContent_stored]
    dsimp only
    split <;> rfl
  · intro hnot
    split
    · exact ⟨_, rfl⟩
    · rename_i name size h
      split at h
      · cases h
      · split at h
        · cases h
        · omega

theorem readEntries_assets {assets : List (String × FileBytes)}
    (hpackable : forall asset, asset ∈ assets -> Packable asset)
    (hjson : forall asset, asset ∈ assets -> asset.1 ≠ kThemeBundleJsonName)
    (done : ReadEntries) :
    (done.totalBytes + assetBytes assets ≤ kMaxBundleTotalBytes ->
      readEntries done (assets.map storedEntry) =
        .ok
          { jsonText := done.jsonText
            names := done.names ++ assets.map Prod.fst
            assets := assets.foldl (fun m e => m.set e.1 e.2) done.assets
            totalBytes := done.totalBytes + assetBytes assets }) ∧
    (kMaxBundleTotalBytes < done.totalBytes + assetBytes assets ->
      done.totalBytes ≤ kMaxBundleTotalBytes ->
        exists reason, readEntries done (assets.map storedEntry) = .error reason) := by
  induction assets generalizing done with
  | nil =>
      constructor
      · intro _
        simp [readEntries, assetBytes]
      · intro hlt hle
        have hzero : assetBytes [] = 0 := rfl
        omega
  | cons asset rest ih =>
      have hasset := hpackable asset (by simp)
      have hne := hjson asset (by simp)
      have hcap : asset.2.length ≤ entryCap asset.1 := by
        unfold entryCap
        rw [if_neg hne]
        exact hasset.2
      have hsum : assetBytes (asset :: rest) = asset.2.length + assetBytes rest := rfl
      have hrest := ih (fun a ha => hpackable a (List.mem_cons_of_mem _ ha))
        (fun a ha => hjson a (List.mem_cons_of_mem _ ha))
      have hread := readEntry_stored (Or.inr hasset.1) done
      rw [List.map_cons]
      unfold readEntries
      constructor
      · intro hfits
        rw [hread.1 ⟨hcap, by omega⟩, if_neg hne]
        dsimp only
        rw [(hrest _).1 (by dsimp only; omega)]
        simp [hsum, Nat.add_assoc]
      · intro hlt hle
        by_cases hfits : done.totalBytes + asset.2.length ≤ kMaxBundleTotalBytes
        · rw [hread.1 ⟨hcap, hfits⟩, if_neg hne]
          exact (hrest _).2 (by dsimp only; omega) hfits
        · rcases hread.2 (fun h => hfits h.2) with ⟨reason, hreason⟩
          rw [hreason]
          exact ⟨reason, rfl⟩

theorem jsonBytes_ne (options : ThemeBundleExportOptions) (bundle : ThemeBundle Json) :
    jsonBytes (themeBundleToJson options bundle) ≠ [] := by
  have hlength : 0 < (themeBundleToJson options bundle).toText.toList.length := by
    unfold themeBundleToJson jsonObject Json.toText
    simp
  intro hnil
  have hle := length_utf8 (themeBundleToJson options bundle).toText.toList
  unfold jsonBytes at hnil
  rw [hnil] at hle
  exact Nat.not_lt_of_le hle hlength

section Exported

variable {exporters : List (String × SectionExporter app)} {site : Site app}
  {options : ThemeBundleExportOptions} {bundle : ThemeBundle Json} {zip : ZipLibrary}
  {fromText : JsonLoader}

theorem readArchive_packed {zipBytes : FileBytes} (hchecked : ExportChecked bundle.assets)
    (hno : kThemeBundleJsonName ∉ bundle.assets.keys) (hne : zipBytes ≠ [])
    (hread : zip.read zipBytes = .archive (((kThemeBundleJsonName,
      jsonBytes (themeBundleToJson options bundle)) :: bundle.assets.entries).map storedEntry)) :
    (FitsReader options bundle -> readArchive zip zipBytes =
      .ok (jsonBytes (themeBundleToJson options bundle), bundle.assets)) ∧
    (Not (FitsReader options bundle) ->
      exists reason, readArchive zip zipBytes = .error reason) := by
  have hassets : forall asset, asset ∈ bundle.assets.entries ->
      asset.1 ≠ kThemeBundleJsonName := by
    intro asset hasset heq
    exact hno (heq ▸ List.mem_map_of_mem hasset)
  have hfirst := @readEntry_stored (kThemeBundleJsonName,
    jsonBytes (themeBundleToJson options bundle)) (Or.inl rfl) ReadEntries.initial
  have hrest := readEntries_assets hchecked.packable hassets
    { ReadEntries.initial with
      jsonText := jsonBytes (themeBundleToJson options bundle)
      totalBytes := (jsonBytes (themeBundleToJson options bundle)).length }
  dsimp only at hrest
  have hcap : entryCap kThemeBundleJsonName = kMaxBundleJsonBytes := if_pos rfl
  have hzero : ReadEntries.initial.totalBytes = 0 := rfl
  have hbounds : kMaxBundleJsonBytes ≤ kMaxBundleTotalBytes := by decide
  dsimp only at hfirst
  rw [hcap, hzero, if_pos rfl, Nat.zero_add] at hfirst
  unfold readArchive
  rw [if_neg hne, hread]
  dsimp only
  rw [if_neg (by
    have hcount := hchecked.count
    simp only [List.length_map, List.length_cons]
    omega), List.map_cons]
  unfold readEntries
  constructor
  · intro hfits
    rw [hfirst.1 ⟨hfits.json, by have := hfits.json; omega⟩]
    dsimp only
    rw [hrest.1 hfits.total]
    dsimp only
    rw [if_neg (jsonBytes_ne options bundle)]
    have hnames : ReadEntries.initial.names ++ bundle.assets.entries.map Prod.fst =
        bundle.assets.keys := List.nil_append _
    rw [hnames, if_neg (by simp [hchecked.noDuplicate])]
    have hmap := SortedMap.foldl_set_entries bundle.assets
    unfold ReadEntries.initial
    dsimp only
    rw [hmap]
  · intro hnot
    by_cases hjson : (jsonBytes (themeBundleToJson options bundle)).length ≤ kMaxBundleJsonBytes
    · rw [hfirst.1 ⟨hjson, by omega⟩]
      dsimp only
      have htotal : kMaxBundleTotalBytes <
          (jsonBytes (themeBundleToJson options bundle)).length +
            assetBytes bundle.assets.entries := by
        by_contra hle
        exact hnot ⟨hjson, by omega, hno⟩
      rcases hrest.2 htotal (by omega) with ⟨reason, hreason⟩
      rw [hreason]
      exact ⟨reason, rfl⟩
    · rcases hfirst.2 (fun h => hjson h.1) with ⟨reason, hreason⟩
      rw [hreason]
      exact ⟨reason, rfl⟩

theorem themeBundleToZip_cases (hzip : zip.Faithful) (hchecked : ExportChecked bundle.assets) :
    (kThemeBundleJsonName ∈ bundle.assets.keys ∧ themeBundleToZip zip options bundle = []) ∨
      (kThemeBundleJsonName ∉ bundle.assets.keys ∧ themeBundleToZip zip options bundle ≠ [] ∧
        zip.read (themeBundleToZip zip options bundle) = .archive (((kThemeBundleJsonName,
          jsonBytes (themeBundleToJson options bundle)) ::
            bundle.assets.entries).map storedEntry)) := by
  have hvalid : bundle.assets.entries.all (fun asset => isValidBundleAssetName asset.1) = true :=
    List.all_eq_true.mpr (fun asset hasset => (hchecked.packable asset hasset).1)
  have hnames : (((kThemeBundleJsonName, jsonBytes (themeBundleToJson options bundle)) ::
      bundle.assets.entries).map Prod.fst).Nodup <-> kThemeBundleJsonName ∉ bundle.assets.keys := by
    rw [List.map_cons, List.nodup_cons]
    exact and_iff_left (bundle.assets.keys_sorted.imp ne_of_lt)
  unfold themeBundleToZip
  rw [if_pos hvalid]
  by_cases hjson : kThemeBundleJsonName ∈ bundle.assets.keys
  · left
    rw [hzip.refuses _ (fun h => hnames.mp h hjson)]
    exact ⟨hjson, rfl⟩
  · right
    rcases hzip.packs _ (hnames.mpr hjson) with ⟨bytes, hpack, hne, hread⟩
    rw [hpack]
    exact ⟨hjson, hne, hread⟩

theorem fitsReader_of_restores (hzip : zip.Faithful) (hchecked : ExportChecked bundle.assets)
    (h : Restores zip fromText options bundle) : FitsReader options bundle := by
  rcases themeBundleToZip_cases hzip hchecked with ⟨-, hnil⟩ | ⟨hno, hne, hread⟩
  · exact absurd hnil h.written
  · by_contra hnot
    rcases (readArchive_packed hchecked hno hne hread).2 hnot with ⟨reason, hreason⟩
    have hrestored := h.restored
    unfold themeBundleFromZip at hrestored
    rw [hreason] at hrestored
    cases hrestored

theorem restores_of_fitsReader (hzip : zip.Faithful) (hchecked : ExportChecked bundle.assets)
    (hinverse : fromText (jsonBytes (themeBundleToJson options bundle)) =
      .ok (themeBundleToJson options bundle))
    (h : FitsReader options bundle) : Restores zip fromText options bundle := by
  rcases themeBundleToZip_cases hzip hchecked with ⟨hjson, -⟩ | ⟨hno, hne, hread⟩
  · exact absurd hjson h.noJsonAsset
  · refine ⟨hne, ?_⟩
    unfold themeBundleFromZip
    rw [(readArchive_packed hchecked hno hne hread).1 h]
    dsimp only
    rw [hinverse]
    dsimp only
    rw [if_pos (hasChildren_themeBundleToJson options bundle)]

theorem restores_iff (hzip : zip.Faithful)
    (hinverse : fromText (jsonBytes (themeBundleToJson options bundle)) =
      .ok (themeBundleToJson options bundle))
    (hexport : exportThemeBundle exporters site = .ok bundle) :
    Restores zip fromText options bundle <-> FitsReader options bundle :=
  have hchecked := exportThemeBundle_checked hexport
  ⟨fitsReader_of_restores hzip hchecked, restores_of_fitsReader hzip hchecked hinverse⟩

end Exported

/-!
# A long name
-/

def entryCodes (entries : List (String × FileBytes)) : List (List Nat × List Nat) :=
  entries.map (fun e => (e.1.toList.map Char.toNat, e.2.map UInt8.toNat))

def codedEntries (codes : List (List Nat × List Nat)) : List (String × FileBytes) :=
  codes.map (fun c => (String.ofList (c.1.map Char.ofNat), c.2.map UInt8.ofNat))

/-- An archive is as long as the number of its entries says. -/
def countedZip : ZipLibrary where
  pack := fun entries =>
    if (entries.map Prod.fst).Nodup then
      some (List.replicate (Encodable.encode (entryCodes entries) + 1) 0)
    else none
  read := fun bytes =>
    match Encodable.decode (bytes.length - 1) with
    | some codes => .archive ((codedEntries codes).map storedEntry)
    | none => .notZip

theorem codedEntries_entryCodes (entries : List (String × FileBytes)) :
    codedEntries (entryCodes entries) = entries := by
  unfold codedEntries entryCodes
  rw [List.map_map]
  apply (List.map_congr_left _).trans (List.map_id _)
  rintro ⟨name, bytes⟩ -
  simp only [Function.comp, List.map_map, id]
  have hname : name.toList.map (Char.ofNat ∘ Char.toNat) = name.toList :=
    (List.map_congr_left (fun c _ => Char.ofNat_toNat c)).trans (List.map_id _)
  have hbytes : bytes.map (UInt8.ofNat ∘ UInt8.toNat) = bytes :=
    (List.map_congr_left (fun b _ => UInt8.ofNat_toNat)).trans (List.map_id _)
  rw [hname, hbytes, String.ofList_toList]

theorem countedZip_faithful : countedZip.Faithful := by
  constructor
  · intro entries hnodup
    refine ⟨List.replicate (Encodable.encode (entryCodes entries) + 1) 0, if_pos hnodup,
      by simp, ?_⟩
    unfold countedZip
    dsimp only
    rw [List.length_replicate, Nat.add_sub_cancel, Encodable.encodek]
    dsimp only
    rw [codedEntries_entryCodes]
  · intro entries hnot
    exact if_neg hnot

/-- Reads the text of one document, and throws on everything else. -/
def readsOnly (json : Json) : JsonLoader := fun text =>
  if text = jsonBytes json then .ok json else .error (.runtimeError "invalid JSON object")

def namedExport (name : String) : ThemeBundleExportOptions := ⟨name, "", "", "", "", ""⟩

theorem isOk_emptySite :
    (exportThemeBundle ([] : List (String × SectionExporter Unit)) emptySite).isOk = true := by
  decide

theorem export_emptySite : exists bundle,
    exportThemeBundle ([] : List (String × SectionExporter Unit)) emptySite = .ok bundle := by
  have hok := isOk_emptySite
  cases h : exportThemeBundle ([] : List (String × SectionExporter Unit)) emptySite with
  | ok bundle => exact ⟨bundle, rfl⟩
  | error reason =>
      rw [h] at hok
      cases hok

/-- The document of a look without fonts and sections whose every value is short. -/
theorem length_sunrise
    (hplain : bundle.sources = [] ∧ bundle.families = [] ∧ bundle.appSections.entries = [])
    (hcontent : forall key, key ∈ kThemeBundleContentKeys ->
      (jsonBytes (contentJson key ((bundle.content.find? key).getD ""))).length ≤ 10)
    (htokens : forall key, key ∈ siteThemeTokens.map ThemeToken.key ->
      (jsonBytes (.str ((bundle.tokens.find? key).getD ""))).length ≤ 10) :
    (jsonBytes (themeBundleToJson (namedExport "Sunrise") bundle)).length ≤
      kMaxBundleJsonBytes := by
  have hname : forall key, key ∈ kThemeBundleContentKeys ++ siteThemeTokens.map ThemeToken.key ->
      (jsonBytes (.str key)).length ≤ 212 := by
    have hshort : forall key,
        key ∈ kThemeBundleContentKeys ++ siteThemeTokens.map ThemeToken.key ->
          key.utf8ByteSize ≤ 35 := by
      decide +kernel
    intro key hkey
    have hkey := hshort key hkey
    exact (length_str_le key).trans (by omega)
  have hcontent := length_settingsJson_le (fun key hkey =>
    Nat.add_le_add (hname key (List.mem_append_left _ hkey)) (hcontent key hkey))
  have htokens := length_settingsJson_le (fun key hkey =>
    Nat.add_le_add (hname key (List.mem_append_right _ hkey)) (htokens key hkey))
  have hkeys : kThemeBundleContentKeys.length ≤ 90 ∧
      (siteThemeTokens.map ThemeToken.key).length ≤ 90 := by decide
  have hnames : (jsonBytes (.str "content")).length ≤ 10 ∧
      (jsonBytes (.str "tokens")).length ≤ 10 ∧ (jsonBytes (.str "theme")).length ≤ 10 := by decide
  have htheme := @length_jsonObject_le
    [("content", settingsJson kThemeBundleContentKeys contentJson bundle.content),
      ("tokens", settingsJson (siteThemeTokens.map ThemeToken.key) (fun _ => Json.str)
        bundle.tokens)] 21000
    (List.forall_mem_cons.mpr ⟨by dsimp only; omega,
      List.forall_mem_singleton.mpr (by dsimp only; omega)⟩)
  simp only [List.length_cons, List.length_nil] at htheme
  unfold themeBundleToJson envelopeMembers
  rw [hplain.1, hplain.2.1, hplain.2.2]
  refine (@length_jsonObject_le _ 43000 ?_).trans
    (show 8 * 43002 + 2 ≤ kMaxBundleJsonBytes from by decide)
  simp only [List.append_nil, List.forall_mem_cons]
  exact ⟨by decide, by decide, by decide, by decide, by decide, by decide, by omega, by decide,
    nofun⟩

def logoSite : Site Unit :=
  { emptySite with
    secrets := SortedMap.empty.set kSiteLogoUrl "/api/site_asset/logo.png"
    assets := SortedMap.empty.set "logo.png" ⟨"png", [137, 80, 78, 71, 13, 10, 26, 10]⟩ }

theorem restores_logoSite : exists bundle,
    exportThemeBundle ([] : List (String × SectionExporter Unit)) logoSite = .ok bundle ∧
      bundle.assets.keys = ["logo.png"] ∧
      Restores countedZip (readsOnly (themeBundleToJson (namedExport "Sunrise") bundle))
        (namedExport "Sunrise") bundle := by
  let bundle : ThemeBundle Json :=
    ⟨exportContent logoSite, exportTokens logoSite, [], [], SortedMap.empty,
      exportImages logoSite⟩
  have hrefusal : exportRefusal (exportImages logoSite) = "" := by decide
  have hexport : exportThemeBundle ([] : List (String × SectionExporter Unit)) logoSite =
      .ok bundle := by
    rw [exportThemeBundle]
    exact if_neg (not_not.mpr hrefusal)
  have hcontent : forall key, key ∈ kThemeBundleContentKeys ->
      (jsonBytes (contentJson key (((exportContent logoSite).find? key).getD ""))).length ≤ 10 := by
    intro key hkey
    rw [exportContent, SortedMap.find?_tabulate, if_pos hkey]
    revert key
    decide +kernel
  have htokens : forall key, key ∈ siteThemeTokens.map ThemeToken.key ->
      (jsonBytes (.str (((exportTokens logoSite).find? key).getD ""))).length ≤ 10 := by
    intro key hkey
    rw [exportTokens, SortedMap.find?_tabulate, if_pos hkey]
    revert key
    decide +kernel
  have hjson := @length_sunrise bundle ⟨rfl, rfl, rfl⟩ hcontent htokens
  exact ⟨_, hexport, by decide, (restores_iff countedZip_faithful (if_pos rfl) hexport).mpr
    ⟨hjson, (Nat.add_le_add_right hjson _).trans (by decide), by decide⟩⟩

theorem exportSections_nil (site : Site app) (bundle : ThemeBundle Json) :
    exportSections site [] bundle = .ok bundle := rfl

theorem appSections_export {site : Site app}
    (h : exportThemeBundle [] site = .ok bundle) : bundle.appSections = SortedMap.empty := by
  unfold exportThemeBundle at h
  split at h
  · cases h
  · rw [exportSections_nil] at h
    dsimp only at h
    split at h
    · cases h
    · rw [← Except.ok.inj h]

theorem length_name (options : ThemeBundleExportOptions)
    (h : bundle.appSections = SortedMap.empty) :
    options.name.toList.length ≤ (jsonBytes (themeBundleToJson options bundle)).length := by
  have hnodup : ((envelopeMembers options bundle).map Prod.fst).Nodup := by
    unfold envelopeMembers
    dsimp only [List.map]
    decide
  have hmem : ("name", Json.str options.name) ∈ envelopeMembers options bundle := by
    simp [envelopeMembers]
  have hfound := SortedMap.mem_of_find?
    (SortedMap.find?_foldl_set hnodup hmem SortedMap.empty)
  unfold themeBundleToJson
  rw [h]
  change _ ≤ (jsonBytes (jsonObject (envelopeMembers options bundle ++ []))).length
  rw [List.append_nil]
  exact length_member hfound

theorem not_fitsReader_of_name {options : ThemeBundleExportOptions}
    (h : bundle.appSections = SortedMap.empty)
    (hlong : kMaxBundleJsonBytes < options.name.toList.length) :
    Not (FitsReader options bundle) := by
  intro hfits
  have hname := length_name options h
  have hjson := hfits.json
  omega

def repeated (n : Nat) : String := String.ofList (List.replicate n 'a')

theorem length_repeated (n : Nat) : (repeated n).toList.length = n := by
  unfold repeated
  rw [String.toList_ofList, List.length_replicate]

/-- The document is longer than the studio's name, and the name has no bound. -/
theorem longName_notRestored : exists bundle,
    exportThemeBundle ([] : List (String × SectionExporter Unit)) emptySite = .ok bundle ∧
      Not (Restores countedZip
        (readsOnly (themeBundleToJson (namedExport (repeated 1048577)) bundle))
        (namedExport (repeated 1048577)) bundle) := by
  rcases export_emptySite with ⟨bundle, hexport⟩
  refine ⟨bundle, hexport, fun h => ?_⟩
  apply not_fitsReader_of_name (appSections_export hexport) _
    (fitsReader_of_restores countedZip_faithful (exportThemeBundle_checked hexport) h)
  change kMaxBundleJsonBytes < (repeated 1048577).toList.length
  rw [length_repeated]
  decide

end Branding
end ServerComponents
