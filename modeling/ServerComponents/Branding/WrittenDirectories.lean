import ServerComponents.Branding.ThemeBundleDirectory

/-!
# Reading a written directory

The writer puts its files into a directory that may hold others, and the reader takes every
file it finds.
-/

namespace ServerComponents
namespace Branding

open Relational
open Rest (Json)

/-- The writer refuses a file, and a directory with a theme in it that it is not forced to
replace. -/
def RefusesWrite (force : Bool) : Place -> Prop
  | .absent => False
  | .file => True
  | .directory files => kThemeBundleJsonName ∈ files.keys ∧ force = false

/-- The document and its assets come back out of the directory they were written to. -/
def ReadsBack (listing : Listing) (fromText : JsonLoader) (document : ThemeDocument)
    (directory : String) (force : Bool) (place : Place) : Prop :=
  (writeThemeBundleDirectory document directory force place).1 = "" ->
    readThemeBundleDirectory listing fromText directory
      (writeThemeBundleDirectory document directory force place).2 =
        .ok (.ok (documentToJson document, document.bundle.assets))

/-- The document keeps to the bounds of the reader, no asset has its name, and no file of
another theme stays behind. -/
structure FitsDirectory (document : ThemeDocument) (files : SortedMap String FileBytes) :
    Prop where
  json : (jsonBytes (documentToJson document)).length ≤ kMaxBundleJsonBytes
  total : (jsonBytes (documentToJson document)).length +
    assetBytes document.bundle.assets.entries ≤ kMaxBundleTotalBytes
  noJsonAsset : kThemeBundleJsonName ∉ document.bundle.assets.keys
  noLeftOver : forall name, name ∈ files.keys ->
    name = kThemeBundleJsonName ∨ name ∈ document.bundle.assets.keys

/-!
# What is written
-/

variable {document : ThemeDocument}

def written (document : ThemeDocument) (files : SortedMap String FileBytes) :
    SortedMap String FileBytes :=
  document.bundle.assets.entries.foldl (fun m e => m.set e.1 e.2)
    (files.set kThemeBundleJsonName (jsonBytes (documentToJson document)))

theorem writeAssets_valid {assets : List (String × FileBytes)}
    (h : forall asset, asset ∈ assets -> isValidBundleAssetName asset.1 = true)
    (files : SortedMap String FileBytes) :
    writeAssets files assets = ("", assets.foldl (fun m e => m.set e.1 e.2) files) := by
  induction assets generalizing files with
  | nil => rfl
  | cons asset rest ih =>
      rw [List.forall_mem_cons] at h
      have hvalid : Not (isValidBundleAssetName asset.1 = false) := by
        rw [h.1]
        decide
      rw [writeAssets, if_neg hvalid, ih h.2, List.foldl_cons]

theorem writeFiles_valid (hchecked : ExportChecked document.bundle.assets)
    (files : SortedMap String FileBytes) :
    writeFiles document files = ("", .directory (written document files)) := by
  unfold writeFiles
  rw [writeAssets_valid (fun asset hasset => (hchecked.packable asset hasset).1)]
  rfl

theorem write_refused {directory : String} {force : Bool} {place : Place}
    (h : RefusesWrite force place) :
    (writeThemeBundleDirectory document directory force place).1 ≠ "" := by
  cases place with
  | absent => exact absurd h not_false
  | file =>
      unfold writeThemeBundleDirectory
      dsimp only
      simp
  | directory files =>
      have hrefuses : ((files.find? kThemeBundleJsonName).isSome && !force) = true := by
        rw [SortedMap.find?_isSome_iff.mpr h.1, h.2]
        rfl
      unfold writeThemeBundleDirectory
      dsimp only
      rw [if_pos hrefuses]
      simp

theorem write_accepted (hchecked : ExportChecked document.bundle.assets) {directory : String}
    {force : Bool} {place : Place} (h : Not (RefusesWrite force place)) :
    writeThemeBundleDirectory document directory force place =
      ("", .directory (written document (filesOf place))) := by
  cases place with
  | absent => exact writeFiles_valid hchecked SortedMap.empty
  | file => exact absurd trivial h
  | directory files =>
      have haccepts : Not (((files.find? kThemeBundleJsonName).isSome && !force) = true) := by
        rw [Bool.and_eq_true, SortedMap.find?_isSome_iff, Bool.not_eq_true']
        exact h
      unfold writeThemeBundleDirectory
      dsimp only
      rw [if_neg haccepts]
      exact writeFiles_valid hchecked files

variable {files : SortedMap String FileBytes}

theorem find?_written_asset {name : String} (h : name ∈ document.bundle.assets.keys) :
    (written document files).find? name = document.bundle.assets.find? name := by
  obtain ⟨asset, hasset, rfl⟩ := List.mem_map.mp h
  rw [SortedMap.find?_of_mem hasset]
  exact SortedMap.find?_foldl_set (document.bundle.assets.keys_sorted.imp ne_of_lt) hasset _

theorem find?_written_other {name : String} (h : name ∉ document.bundle.assets.keys) :
    (written document files).find? name =
      if name = kThemeBundleJsonName then some (jsonBytes (documentToJson document))
      else files.find? name := by
  unfold written
  rw [SortedMap.find?_foldl_set_of_notMem h]
  split
  case isTrue hname => rw [hname, SortedMap.find?_set_self]
  case isFalse hname => exact SortedMap.find?_set_of_ne _ _ hname

theorem written_perm (hno : kThemeBundleJsonName ∉ document.bundle.assets.keys)
    (hleft : forall name, name ∈ files.keys ->
      name = kThemeBundleJsonName ∨ name ∈ document.bundle.assets.keys) :
    (written document files).entries.Perm
      ((kThemeBundleJsonName, jsonBytes (documentToJson document)) ::
        document.bundle.assets.entries) := by
  have hnodup : ((kThemeBundleJsonName, jsonBytes (documentToJson document)) ::
      document.bundle.assets.entries).Nodup := by
    refine List.nodup_cons.mpr ⟨?_, SortedMap.nodup_entries _⟩
    exact fun hmem => hno (List.mem_map_of_mem hmem)
  refine (List.perm_ext_iff_of_nodup (SortedMap.nodup_entries _) hnodup).mpr ?_
  intro ⟨name, bytes⟩
  rw [← SortedMap.find?_eq_some_iff, List.mem_cons, ← SortedMap.find?_eq_some_iff, Prod.mk.injEq]
  by_cases hasset : name ∈ document.bundle.assets.keys
  case pos =>
    have hname : name ≠ kThemeBundleJsonName := fun heq => hno (heq ▸ hasset)
    rw [find?_written_asset hasset]
    simp only [hname, false_and, false_or]
  case neg =>
    have hnone : document.bundle.assets.find? name = none := SortedMap.find?_none hasset
    rw [find?_written_other hasset, hnone]
    split
    case isTrue hname => simp only [hname, true_and, Option.some.injEq, eq_comm, reduceCtorEq,
      or_false]
    case isFalse hname =>
      have hgone : files.find? name = none := by
        refine SortedMap.find?_none (fun hkey => ?_)
        cases hleft name hkey with
        | inl hjson => exact hname hjson
        | inr hin => exact hasset hin
      simp only [hgone, hname, false_and, reduceCtorEq, or_self]

/-!
# Names that differ in case only
-/

theorem duplicate_go_iff {names : List String} (hne : forall name, name ∈ names -> name ≠ "")
    (seen : List String) : findCaseInsensitiveDuplicate.go seen names = "" <->
      (names.map toLowerAscii).Nodup ∧ forall name, name ∈ names -> toLowerAscii name ∉ seen := by
  induction names generalizing seen with
  | nil => exact iff_of_true rfl ⟨List.nodup_nil, fun _ h => nomatch h⟩
  | cons name rest ih =>
      rw [List.forall_mem_cons] at hne
      rw [findCaseInsensitiveDuplicate.go, List.forall_mem_cons, List.map_cons, List.nodup_cons]
      split
      case isTrue hseen => exact iff_of_false hne.1 (fun h => h.2.1 hseen)
      case isFalse hnew =>
        rw [ih hne.2]
        constructor
        · intro ⟨hnodup, hrest⟩
          refine ⟨⟨?_, hnodup⟩, hnew, ?_⟩
          · intro hmem
            obtain ⟨other, hother, hsame⟩ := List.mem_map.mp hmem
            exact hrest other hother (hsame ▸ List.mem_cons_self)
          · exact fun other hother hin => hrest other hother (List.mem_cons_of_mem _ hin)
        · intro ⟨⟨hfirst, hnodup⟩, _, hrest⟩
          refine ⟨hnodup, ?_⟩
          intro other hother hmem
          cases List.mem_cons.mp hmem with
          | inl hsame => exact hfirst (List.mem_map.mpr ⟨other, hother, hsame⟩)
          | inr hin => exact hrest other hother hin

theorem noDuplicate_iff {names : List String} (hne : forall name, name ∈ names -> name ≠ "") :
    findCaseInsensitiveDuplicate names = "" <-> (names.map toLowerAscii).Nodup := by
  unfold findCaseInsensitiveDuplicate
  rw [duplicate_go_iff hne]
  exact and_iff_left (fun _ _ h => nomatch h)

theorem noDuplicate_perm {names names' : List String} (h : names.Perm names')
    (hne : forall name, name ∈ names' -> name ≠ "")
    (hnone : findCaseInsensitiveDuplicate names' = "") :
    findCaseInsensitiveDuplicate names = "" := by
  rw [noDuplicate_iff (fun name hname => hne name (h.mem_iff.mp hname))]
  exact ((h.map toLowerAscii).nodup_iff).mpr ((noDuplicate_iff hne).mp hnone)

/-!
# What is read
-/

theorem name_ne {name : String} (h : isValidBundleAssetName name = true) : name ≠ "" := by
  intro hempty
  rw [hempty] at h
  revert h
  decide

theorem documentBytes_ne (document : ThemeDocument) :
    jsonBytes (documentToJson document) ≠ [] := by
  have hlength : 0 < (documentToJson document).toText.toList.length := by
    unfold documentToJson jsonObject Json.toText
    simp
  intro hnil
  have hle := length_utf8 (documentToJson document).toText.toList
  unfold jsonBytes at hnil
  rw [hnil] at hle
  exact Nat.not_lt_of_le hle hlength

theorem assetBytes_perm {files files' : List (String × FileBytes)} (h : files.Perm files') :
    assetBytes files = assetBytes files' := by
  unfold assetBytes
  exact (h.map _).sum_nat

theorem zero_le_total : ReadEntries.initial.totalBytes ≤ kMaxBundleTotalBytes := Nat.zero_le _

section Read

variable {files : List (String × FileBytes)}

theorem isManifest_json (bytes : FileBytes) :
    isManifest (kThemeBundleJsonName, bytes) = true := decide_eq_true rfl

variable (hperm : files.Perm ((kThemeBundleJsonName, jsonBytes (documentToJson document)) ::
  document.bundle.assets.entries))

include hperm in
theorem filter_assets (hno : kThemeBundleJsonName ∉ document.bundle.assets.keys) :
    (files.filter (fun file => !isManifest file)).Perm document.bundle.assets.entries := by
  refine (hperm.filter _).trans ?_
  rw [List.filter_cons_of_neg (by simp only [isManifest_json, Bool.not_true, Bool.false_eq_true,
    not_false_eq_true]), List.filter_eq_self.mpr]
  intro asset hasset
  have hname : asset.1 ≠ kThemeBundleJsonName := fun heq => hno (heq ▸ List.mem_map_of_mem hasset)
  unfold isManifest
  simp only [hname, decide_false, Bool.not_false]

include hperm in
theorem filter_manifest (hno : kThemeBundleJsonName ∉ document.bundle.assets.keys) :
    files.filter isManifest =
      [(kThemeBundleJsonName, jsonBytes (documentToJson document))] := by
  refine List.perm_singleton.mp ((hperm.filter _).trans ?_)
  rw [List.filter_cons_of_pos (isManifest_json _), List.filter_eq_nil_iff.mpr]
  intro asset hasset
  have hname : asset.1 ≠ kThemeBundleJsonName := fun heq => hno (heq ▸ List.mem_map_of_mem hasset)
  unfold isManifest
  simp only [hname, decide_false, Bool.false_eq_true, not_false_eq_true]

include hperm in
theorem readListed_fits (hchecked : ExportChecked document.bundle.assets)
    (hjson : (jsonBytes (documentToJson document)).length ≤ kMaxBundleJsonBytes)
    (htotal : (jsonBytes (documentToJson document)).length +
      assetBytes document.bundle.assets.entries ≤ kMaxBundleTotalBytes)
    (hno : kThemeBundleJsonName ∉ document.bundle.assets.keys) (directory : String) :
    readListed directory files =
      .ok (jsonBytes (documentToJson document), document.bundle.assets) := by
  have hassets := filter_assets hperm hno
  have hreadable : forall file, file ∈ files -> Readable file := by
    intro file hfile
    cases List.mem_cons.mp (hperm.mem_iff.mp hfile) with
    | inl hmanifest =>
        rw [hmanifest]
        exact ⟨Or.inl (isManifest_json _), hjson⟩
    | inr hasset =>
        have hname : file.1 ≠ kThemeBundleJsonName :=
          fun heq => hno (heq ▸ List.mem_map_of_mem hasset)
        have hcap : entryCap file.1 = kMaxBundleAssetBytes := if_neg hname
        obtain ⟨hvalid, hsize⟩ := hchecked.packable file hasset
        exact ⟨Or.inr hvalid, hcap ▸ hsize⟩
  have hsum : ReadEntries.initial.totalBytes + assetBytes files ≤ kMaxBundleTotalBytes := by
    rw [assetBytes_perm hperm]
    exact (Nat.zero_add _).le.trans htotal
  have hread := (readFiles_eq_ok_iff zero_le_total).mpr ⟨hreadable, hsum, rfl⟩
  obtain ⟨hnames, hkept, htext⟩ := foldl_takeFile files ReadEntries.initial
  have hdocument : (files.foldl takeFile ReadEntries.initial).jsonText =
      jsonBytes (documentToJson document) := by
    rw [htext, filter_manifest hperm hno]
    rfl
  have hrestored : (files.foldl takeFile ReadEntries.initial).assets =
      document.bundle.assets := hkept.trans (SortedMap.foldl_set_perm hassets)
  have hdistinct : findCaseInsensitiveDuplicate
      (files.foldl takeFile ReadEntries.initial).names = "" := by
    rw [hnames]
    refine noDuplicate_perm (hassets.map Prod.fst) ?_ hchecked.noDuplicate
    intro name hname
    obtain ⟨asset, hasset, rfl⟩ := List.mem_map.mp hname
    exact name_ne (hchecked.packable asset hasset).1
  unfold readListed
  rw [hread]
  dsimp only
  rw [hdocument, hrestored, hdistinct, if_neg (documentBytes_ne document),
    if_neg (Nat.not_lt.mpr hchecked.count), if_neg (not_not.mpr rfl)]

theorem readListed_assets {directory : String} {text : FileBytes}
    {assets place : SortedMap String FileBytes} (hperm : files.Perm place.entries)
    (h : readListed directory files = .ok (text, assets)) :
    (forall file, file ∈ files -> Readable file) ∧ assetBytes files ≤ kMaxBundleTotalBytes ∧
      assets = place.filter (fun file => !isManifest file) := by
  unfold readListed at h
  cases hread : readFiles ReadEntries.initial files with
  | error reason =>
      rw [hread] at h
      cases h
  | ok done =>
      obtain ⟨hreadable, hsum, rfl⟩ := (readFiles_eq_ok_iff zero_le_total).mp hread
      obtain ⟨_, hkept, _⟩ := foldl_takeFile files ReadEntries.initial
      rw [hread] at h
      refine ⟨hreadable, (Nat.zero_add _).symm.le.trans hsum, ?_⟩
      have hassets : (files.foldl takeFile ReadEntries.initial).assets = assets := by
        dsimp only at h
        split at h
        case isTrue => cases h
        case isFalse =>
          split at h
          case isTrue => cases h
          case isFalse =>
            split at h
            case isTrue => cases h
            case isFalse => exact (Prod.mk.inj (Except.ok.inj h)).2
      rw [← hassets, hkept]
      exact SortedMap.foldl_set_perm (hperm.filter _)

end Read

/-!
# There and back
-/

section ThereAndBack

variable {listing : Listing} {fromText : JsonLoader} {directory : String}
  {files : SortedMap String FileBytes}

theorem read_of_fits (hchecked : ExportChecked document.bundle.assets)
    (hinverse : fromText (jsonBytes (documentToJson document)) = .ok (documentToJson document))
    (h : FitsDirectory document files) :
    readThemeBundleDirectory listing fromText directory (.directory (written document files)) =
      .ok (.ok (documentToJson document, document.bundle.assets)) := by
  have hperm := (listing.perm (written document files)).trans
    (written_perm h.noJsonAsset h.noLeftOver)
  unfold readThemeBundleDirectory
  dsimp only
  rw [readListed_fits hperm hchecked h.json h.total h.noJsonAsset directory]
  dsimp only
  rw [hinverse]
  exact if_pos rfl

theorem readListed_of_read {json : Json} {assets : SortedMap String FileBytes}
    (h : readThemeBundleDirectory listing fromText directory (.directory files) =
      .ok (.ok (json, assets))) :
    exists text, readListed directory (listing.order files) = .ok (text, assets) := by
  unfold readThemeBundleDirectory at h
  dsimp only at h
  cases hlisted : readListed directory (listing.order files) with
  | error reason =>
      rw [hlisted] at h
      cases h
  | ok pair =>
      obtain ⟨text, assets'⟩ := pair
      rw [hlisted] at h
      dsimp only at h
      cases hjson : fromText text with
      | error err =>
          rw [hjson] at h
          cases h
      | ok value =>
          rw [hjson] at h
          dsimp only at h
          split at h
          case isTrue =>
            cases h
            exact ⟨text, rfl⟩
          case isFalse => cases h

theorem fits_of_read {json : Json}
    (h : readThemeBundleDirectory listing fromText directory
      (.directory (written document files)) = .ok (.ok (json, document.bundle.assets))) :
    FitsDirectory document files := by
  obtain ⟨text, hlisted⟩ := readListed_of_read h
  obtain ⟨hreadable, htotal, hassets⟩ :=
    readListed_assets (listing.perm (written document files)) hlisted
  have hfind : forall name, document.bundle.assets.find? name =
      ((written document files).find? name).filter (fun bytes => !isManifest (name, bytes)) := by
    intro name
    exact (congrArg (fun m => m.find? name) hassets).trans (SortedMap.find?_filter _ _ _)
  have hno : kThemeBundleJsonName ∉ document.bundle.assets.keys := by
    intro hkey
    rw [← SortedMap.find?_isSome_iff, hfind, Option.isSome_iff_exists] at hkey
    obtain ⟨bytes, hbytes⟩ := hkey
    have hnot := (Option.filter_eq_some_iff.mp hbytes).2
    rw [isManifest_json] at hnot
    cases hnot
  have hleft : forall name, name ∈ files.keys ->
      name = kThemeBundleJsonName ∨ name ∈ document.bundle.assets.keys := by
    intro name hkey
    by_contra hother
    rw [not_or] at hother
    obtain ⟨bytes, hbytes⟩ := Option.isSome_iff_exists.mp (SortedMap.find?_isSome_iff.mpr hkey)
    have hname := hfind name
    rw [find?_written_other hother.2, if_neg hother.1, hbytes, SortedMap.find?_none hother.2,
      Option.filter_some] at hname
    unfold isManifest at hname
    simp only [hother.1, decide_false, Bool.not_false, if_true, reduceCtorEq] at hname
  have hperm := (listing.perm (written document files)).trans (written_perm hno hleft)
  have hmanifest := hreadable _ (hperm.mem_iff.mpr List.mem_cons_self)
  refine ⟨hmanifest.2, ?_, hno, hleft⟩
  rw [assetBytes_perm hperm] at htotal
  exact htotal

theorem readsBack_iff (listing : Listing) (directory : String) (force : Bool) (place : Place)
    (hchecked : ExportChecked document.bundle.assets)
    (hinverse : fromText (jsonBytes (documentToJson document)) =
      .ok (documentToJson document)) :
    ReadsBack listing fromText document directory force place <->
      (Not (RefusesWrite force place) -> FitsDirectory document (filesOf place)) := by
  unfold ReadsBack
  by_cases hrefuses : RefusesWrite force place
  case pos =>
    exact iff_of_true (fun hwritten => absurd hwritten (write_refused hrefuses))
      (fun haccepts => absurd hrefuses haccepts)
  case neg =>
    rw [write_accepted hchecked hrefuses]
    constructor
    · intro h _
      exact fits_of_read (h rfl)
    · intro h _
      exact read_of_fits hchecked hinverse (h hrefuses)

end ThereAndBack

def logoTheme : ThemeDocument where
  envelope := ⟨1, "Sunrise", "", "", "", "", ""⟩
  bundle :=
    { content := SortedMap.empty
      tokens := SortedMap.empty
      sources := []
      families := []
      appSections := SortedMap.empty
      assets := SortedMap.empty.set "logo.png" [137, 80, 78, 71, 13, 10, 26, 10] }

theorem logoTheme_checked : ExportChecked logoTheme.bundle.assets where
  packable := by
    intro asset hasset
    cases List.mem_singleton.mp hasset
    exact ⟨by decide, by decide⟩
  count := by decide
  total := by decide
  noDuplicate := by decide

def byName : Listing := ⟨SortedMap.entries, fun _ => List.Perm.refl _⟩

def olderTheme : Place :=
  .directory ((SortedMap.empty.set "theme.json" (asciiBytes "{}")).set "old.png" [137])

theorem readsBack_logoTheme :
    ReadsBack byName (readsOnly (documentToJson logoTheme)) logoTheme "look" false .absent := by
  have hjson : (jsonBytes (documentToJson logoTheme)).length ≤ kMaxBundleJsonBytes :=
    @length_sunrise logoTheme.bundle ⟨rfl, rfl, rfl⟩ (by decide +kernel)
      (fun _ _ => show (jsonBytes (.str "")).length ≤ 10 from by decide +kernel)
  refine (readsBack_iff byName "look" false .absent logoTheme_checked ?_).mpr fun _ => ?_
  · exact if_pos rfl
  · exact ⟨hjson, (Nat.add_le_add_right hjson _).trans (by decide), by decide, nofun⟩

/-- The image of a look that was replaced comes back with the new one. -/
theorem olderTheme_staysBehind :
    (writeThemeBundleDirectory logoTheme "look" true olderTheme).1 = "" ∧
      Not (ReadsBack byName (readsOnly (documentToJson logoTheme)) logoTheme "look" true
        olderTheme) := by
  have haccepts : Not (RefusesWrite true olderTheme) := fun h => nomatch h.2
  have hwrite := @write_accepted _ logoTheme_checked "look" true olderTheme haccepts
  constructor
  · rw [hwrite]
  · intro h
    unfold ReadsBack at h
    rw [hwrite] at h
    have hfits := fits_of_read (h rfl)
    cases hfits.noLeftOver "old.png" (by decide) with
    | inl hjson => exact absurd hjson (by decide)
    | inr hasset => exact absurd hasset (by decide)

end Branding
end ServerComponents
