import ServerComponents.Branding.DryRun

/-!
# What an import leaves behind

The settings, the images and the report of an import that goes through.
-/

namespace ServerComponents
namespace Branding

open Relational Control
open Rest (Json)

variable {app : Type}

/-!
# Writes of settings
-/

theorem Site.foldl_addSecret (writes : List (String × String)) (site : Site app) :
    writes.foldl Site.addSecret site = { site with
      secrets := writes.foldl (fun secrets write => secrets.set write.1 write.2)
        site.secrets } := by
  induction writes generalizing site with
  | nil => rfl
  | cons write rest ih =>
      rw [List.foldl_cons, ih]
      rfl

section Writes

variable {key value : Type} [LinearOrder key] {m : SortedMap key value}
  {writes : List (key × value)} {k : key}

theorem find?_foldl_set_of_notMem (h : forall write, write ∈ writes -> write.1 ≠ k) :
    (writes.foldl (fun m write => m.set write.1 write.2) m).find? k = m.find? k := by
  induction writes generalizing m with
  | nil => rfl
  | cons write rest ih =>
      have hrest : forall write', write' ∈ rest -> write'.1 ≠ k :=
        fun write' hmem => h write' (List.mem_cons_of_mem write hmem)
      rw [List.foldl_cons, ih hrest]
      exact SortedMap.find?_set_of_ne m write.2 (h write (by simp)).symm

theorem find?_foldl_set {v : value} (hall : forall write, write ∈ writes ->
      write.1 = k -> write.2 = v) (hsome : (k, v) ∈ writes) :
    (writes.foldl (fun m write => m.set write.1 write.2) m).find? k = some v := by
  induction writes generalizing m with
  | nil => cases hsome
  | cons write rest ih =>
      have hrest : forall write', write' ∈ rest -> write'.1 = k -> write'.2 = v :=
        fun write' hmem => hall write' (List.mem_cons_of_mem write hmem)
      rw [List.foldl_cons]
      by_cases hmem : (k, v) ∈ rest
      · exact ih hrest hmem
      · have hnone : forall write', write' ∈ rest -> write'.1 ≠ k := by
          intro write' hwrite hk
          apply hmem
          rw [← hk, ← hrest write' hwrite hk]
          exact hwrite
        rcases List.mem_cons.mp hsome with hfirst | hlater
        · rw [find?_foldl_set_of_notMem hnone, ← hfirst]
          exact SortedMap.find?_set_self m k v
        · exact absurd hlater hmem

theorem find?_foldl_set_congr {m' : SortedMap key value}
    (h : exists write, write ∈ writes ∧ write.1 = k) :
    (writes.foldl (fun m write => m.set write.1 write.2) m).find? k =
      (writes.foldl (fun m write => m.set write.1 write.2) m').find? k := by
  induction writes generalizing m m' with
  | nil =>
      rcases h with ⟨write, hmem, _⟩
      cases hmem
  | cons write rest ih =>
      rw [List.foldl_cons, List.foldl_cons]
      by_cases hrest : exists write, write ∈ rest ∧ write.1 = k
      · exact ih hrest
      · have hnone : forall write', write' ∈ rest -> write'.1 ≠ k :=
          fun write' hmem hk => hrest ⟨write', hmem, hk⟩
        rcases h with ⟨write', hmem, hk⟩
        rcases List.mem_cons.mp hmem with heq | hlater
        · rw [find?_foldl_set_of_notMem hnone, find?_foldl_set_of_notMem hnone, ← heq, ← hk,
            SortedMap.find?_set_self, SortedMap.find?_set_self]
        · exact absurd hk (hnone write' hlater)

end Writes

variable {bundle : ThemeBundle Json} {merge : Bool}

theorem contentWrite_key {key : String}
    {write : String × String} (h : contentWrite bundle merge key = some write) :
    write.1 = key := by
  unfold contentWrite at h
  split at h
  · split at h
    · cases h
    · cases h
      rfl
  · cases h
    rfl

theorem tokenWrite_key {key : String}
    {write : String × String} (h : tokenWrite bundle merge key = some write) :
    write.1 = key := by
  unfold tokenWrite at h
  split at h
  · split at h
    · cases h
    · cases h
      rfl
  · cases h
    rfl

theorem contentKeys_not_token : forall token : ThemeToken, token ∈ siteThemeTokens ->
    token.key ∉ contentKeys := by
  decide

def lookWrites (bundle : ThemeBundle Json) (merge : Bool) : List (String × String) :=
  contentWrites bundle merge ++ tokenWrites bundle merge

theorem lookWrites_content {key : String} (hkey : key ∈ contentKeys) {write : String × String} :
    write ∈ lookWrites bundle merge ∧ write.1 = key <->
      contentWrite bundle merge key = some write := by
  constructor
  · rintro ⟨hmem, hk⟩
    rcases List.mem_append.mp hmem with h | h
    · rcases List.mem_filterMap.mp h with ⟨key', _, hwrite⟩
      rw [← hk, contentWrite_key hwrite]
      exact hwrite
    · rcases List.mem_filterMap.mp h with ⟨token, htoken, hwrite⟩
      have htokenKey : token.key = key := (tokenWrite_key hwrite).symm.trans hk
      exact absurd (htokenKey ▸ hkey) (contentKeys_not_token token htoken)
  · intro h
    exact ⟨List.mem_append_left _ (List.mem_filterMap.mpr ⟨key, hkey, h⟩),
      contentWrite_key h⟩

theorem find?_lookWrites {key : String}
    (hkey : key ∈ contentKeys) (secrets : SortedMap String String) :
    ((lookWrites bundle merge).foldl (fun m write => m.set write.1 write.2) secrets).find? key =
      match contentWrite bundle merge key with
      | some write => some write.2
      | none => secrets.find? key := by
  rcases hwrite : contentWrite bundle merge key with _ | write
  · apply find?_foldl_set_of_notMem
    intro write hmem hk
    rw [(lookWrites_content hkey).mp ⟨hmem, hk⟩] at hwrite
    cases hwrite
  · have hk := contentWrite_key hwrite
    have hmem := ((lookWrites_content hkey).mpr hwrite).1
    apply find?_foldl_set
    · intro write' hmem' hk'
      have hsame := (lookWrites_content hkey).mp ⟨hmem', hk'⟩
      rw [hwrite] at hsame
      cases hsame
      rfl
    · rw [← hk]
      exact hmem

/-!
# Images
-/

theorem mem_keys_foldl_putAsset {images : List (String × FileBytes)}
    {assets : SortedMap String SiteAsset} {name : String} :
    name ∈ (images.foldl putAsset assets).keys <->
      name ∈ images.map Prod.fst ∨ name ∈ assets.keys := by
  induction images generalizing assets with
  | nil => simp
  | cons image rest ih =>
      rw [List.foldl_cons, ih]
      unfold putAsset
      rw [SortedMap.mem_keys_set, List.map_cons, List.mem_cons]
      tauto

theorem mem_keys_placeAssets {assets : SortedMap String SiteAsset} {name : String} :
    name ∈ (placeAssets bundle merge assets).keys <->
      name ∈ (imagesOf bundle).keys ∨ (merge = true ∧ name ∈ assets.keys) := by
  have hplaced : name ∈ ((imagesOf bundle).entries.foldl putAsset assets).keys <->
      name ∈ (imagesOf bundle).keys ∨ name ∈ assets.keys := mem_keys_foldl_putAsset
  unfold placeAssets
  cases merge with
  | true => simpa using hplaced
  | false =>
      simp only [Bool.false_eq_true, if_false, false_and, or_false]
      rw [← SortedMap.find?_isSome_iff, SortedMap.find?_filter]
      constructor
      · intro h
        rcases Option.isSome_iff_exists.mp h with ⟨asset, hasset⟩
        simpa using (Option.filter_eq_some_iff.mp hasset).2
      · intro h
        rcases Option.isSome_iff_exists.mp
          (SortedMap.find?_isSome_iff.mpr (hplaced.mpr (Or.inl h))) with ⟨asset, hasset⟩
        rw [hasset]
        simp [h]

/-!
# Imports that go through
-/

section Applied

variable {sections : SectionRegistry app} {json : Json}
  {assets : SortedMap String FileBytes} {options : ThemeBundleImportOptions}
  {site site' : Site app} {report : BundleImportReport}

theorem decideImport_error (h : decideImport sections json assets options = .error report) :
    report.ok = false := by
  unfold decideImport at h
  split at h
  · rename_i refused hread
    cases h
    unfold readImport at hread
    dsimp only at hread
    split at hread
    · cases hread
      rfl
    · split at hread
      · cases hread
        rfl
      · cases hread
  · rename_i raw first hread
    have hok := readImport_ok hread
    split at h
    · cases h
      exact hok
    · split at h
      · cases h
        exact hok
      · cases h

structure Applied (sections : SectionRegistry app) (json : Json)
    (assets : SortedMap String FileBytes) (options : ThemeBundleImportOptions)
    (site site' : Site app) (bundle : ThemeBundle Json) (report : BundleImportReport)
    (answer : String × List BundleProblem) : Prop where
  decided : decideImport sections json assets options = .ok (bundle, report)
  imported : importSections sections options.strictness options.merge bundle
    bundle.appSections.entries report.problems (applyLook bundle options.merge site) =
      (.ok answer, site')

theorem importThemeBundleJson_ok
    (h : importThemeBundleJson sections json assets options site = (.ok report, site'))
    (hok : report.ok = true) (hdry : options.dryRun = false) :
    exists bundle first answer,
      Applied sections json assets options site site' bundle first answer := by
  rcases hdecide : decideImport sections json assets options with refused | ⟨bundle, first⟩
  · unfold importThemeBundleJson at h
    rw [hdecide] at h
    cases h
    rw [decideImport_error hdecide] at hok
    cases hok
  · have hoptions : options = { options with dryRun := false } := by
      rw [← hdry]
    rw [hoptions, importThemeBundleJson_apply hdecide] at h
    rcases himport : importSections sections options.strictness options.merge bundle
      bundle.appSections.entries first.problems (applyLook bundle options.merge site)
      with ⟨answered, after⟩
    cases answered with
    | error thrown =>
        rw [Work.bind_error himport] at h
        cases h
    | ok answer =>
        rw [Work.bind_ok himport] at h
        cases h
        exact ⟨bundle, first, answer, hdecide, himport⟩

theorem applyLook_eq (bundle : ThemeBundle Json) (merge : Bool) (site : Site app) :
    applyLook bundle merge site = { site with
      secrets := (lookWrites bundle merge).foldl
        (fun m write => m.set write.1 write.2) site.secrets
      assets := placeAssets bundle merge site.assets
      fonts := applyBundleFonts bundle merge site.fonts } := by
  unfold applyLook lookWrites
  dsimp only
  rw [Site.foldl_addSecret]

/-- The importers leave what the view shows as it is. -/
def Leave {a : Type} (view : Site app -> a) (sections : SectionRegistry app) : Prop :=
  forall name importer, sections name = some importer ->
    forall (bundle : ThemeBundle Json) (body : Json) (merge : Bool) (site : Site app),
      view (importer bundle body merge site).2 = view site

theorem Leave.importSections {a : Type} {view : Site app -> a} (hleave : Leave view sections)
    {strictness : BundleStrictness}
    (entries : List (String × Json)) (problems : List BundleProblem) (site : Site app) :
    view (importSections sections strictness merge bundle entries problems site).2 =
      view site := by
  induction entries generalizing problems site with
  | nil => rfl
  | cons e rest ih =>
      rcases e with ⟨name, body⟩
      unfold Branding.importSections
      rcases hsection : sections name with _ | importer
      · exact ih problems site
      · have hfirst := hleave name importer hsection bundle body merge site
        dsimp only
        rcases himport : importer bundle body merge site with ⟨outcome, site₁⟩
        rw [himport] at hfirst
        cases outcome with
        | error thrown =>
            rw [Work.bind_error himport]
            exact hfirst
        | ok value =>
            rw [Work.bind_ok himport]
            split
            · rw [ih]
              exact hfirst
            · split
              · exact hfirst
              · rw [ih]
                exact hfirst

end Applied

end Branding
end ServerComponents
