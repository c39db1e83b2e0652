import ServerComponents.Branding.ThemeBundleJson
import ServerComponents.Control.Work

/-!
# The look of a site

The tables that hold a tenant's look: the settings in `config_secrets`, the images in
`site_assets`, and the fonts.  The faces of a family stand with it, as their foreign key
does.  A row's id is its own, and no id is given twice.
-/

namespace ServerComponents
namespace Branding

open Relational Control
open Rest (Json)

structure SiteAsset where
  type : String
  bytes : FileBytes
  deriving Repr, DecidableEq

structure SiteFontSource where
  id : Nat
  displayName : String
  baseUrl : String
  querySuffix : String
  preconnectLines : String
  active : Bool
  deriving Repr, DecidableEq

structure SiteFontFace where
  id : Nat
  weight : Int
  style : String
  format : String
  bytes : FileBytes
  deriving Repr, DecidableEq

structure SiteFont where
  family : String
  fallback : String
  sourceKind : String
  fontSourceId : Option Nat
  spec : String
  ordinal : Nat
  active : Bool
  faces : List SiteFontFace
  deriving Repr, DecidableEq

/-- The sources by their unique keys, the families by their ids, and the next ids. -/
structure SiteFonts where
  sources : SortedMap String SiteFontSource
  fonts : SortedMap Nat SiteFont
  nextSourceId : Nat
  nextFontId : Nat
  nextFaceId : Nat
  sourceIds : forall {key key' : String} {source source' : SiteFontSource},
    sources.find? key = some source -> sources.find? key' = some source' ->
      source.id = source'.id -> key = key'
  freshSource : forall {key : String} {source : SiteFontSource},
    sources.find? key = some source -> source.id < nextSourceId
  freshFont : forall {id : Nat}, id ∈ fonts.keys -> id < nextFontId

namespace SiteFonts

def empty : SiteFonts where
  sources := SortedMap.empty
  fonts := SortedMap.empty
  nextSourceId := 1
  nextFontId := 1
  nextFaceId := 1
  sourceIds := fun h _ _ => by cases h
  freshSource := fun h => by cases h
  freshFont := fun h => by cases h

/-!
# Sources
-/

section Sources

variable (t : SiteFonts) (key : String) (row : SiteFontSource)

/-- A row under its key: the row that was there, rewritten, or a new one. -/
def setSource (hown : forall key' source', t.sources.find? key' = some source' ->
      source'.id = row.id -> key' = key) : SiteFonts :=
  { t with
    sources := t.sources.set key row
    nextSourceId := max t.nextSourceId (row.id + 1)
    sourceIds := by
      intro key₁ key₂ source₁ source₂ h₁ h₂ hid
      by_cases hk₁ : key₁ = key <;> by_cases hk₂ : key₂ = key
      · rw [hk₁, hk₂]
      · rw [hk₁, SortedMap.find?_set_self] at h₁
        rw [SortedMap.find?_set_of_ne t.sources row hk₂] at h₂
        cases h₁
        exact absurd (hown key₂ source₂ h₂ hid.symm) hk₂
      · rw [hk₂, SortedMap.find?_set_self] at h₂
        rw [SortedMap.find?_set_of_ne t.sources row hk₁] at h₁
        cases h₂
        exact absurd (hown key₁ source₁ h₁ hid) hk₁
      · rw [SortedMap.find?_set_of_ne t.sources row hk₁] at h₁
        rw [SortedMap.find?_set_of_ne t.sources row hk₂] at h₂
        exact t.sourceIds h₁ h₂ hid
    freshSource := by
      intro key' source' h
      by_cases hk : key' = key
      · rw [hk, SortedMap.find?_set_self] at h
        cases h
        omega
      · rw [SortedMap.find?_set_of_ne t.sources row hk] at h
        have hlt := t.freshSource h
        omega }

end Sources

/-- The columns that an import writes; `active` is none of them. -/
def sourceRow (source : BundleFontSource) (id : Nat) (active : Bool) : SiteFontSource where
  id := id
  displayName := source.displayName
  baseUrl := source.baseUrl
  querySuffix := source.querySuffix
  preconnectLines := packLines (source.preconnects.map (fun preconnect =>
    preconnect.url ++ "|" ++ (if preconnect.crossorigin then "true" else "false")))
  active := active

/-- `GetSourceByKey`, and `UpdateSource` of the row or `AddSource`. -/
def putSource (t : SiteFonts) (source : BundleFontSource) : SiteFonts × Nat :=
  match h : t.sources.find? source.sourceKey with
  | some row =>
      (t.setSource source.sourceKey (sourceRow source row.id row.active)
        (fun _ _ h' hid => t.sourceIds h' h hid), row.id)
  | none =>
      (t.setSource source.sourceKey (sourceRow source t.nextSourceId true)
        (fun _ _ h' hid => absurd hid (Nat.ne_of_lt (t.freshSource h'))), t.nextSourceId)

/-- `DeleteSource` of the rows whose keys are not kept. -/
def keepSources (t : SiteFonts) (kept : String -> Bool) : SiteFonts :=
  { t with
    sources := t.sources.filter (fun e => kept e.1)
    sourceIds := by
      intro key key' source source' h h' hid
      rw [SortedMap.find?_filter, Option.filter_eq_some_iff] at h h'
      exact t.sourceIds h.1 h'.1 hid
    freshSource := by
      intro key source h
      rw [SortedMap.find?_filter, Option.filter_eq_some_iff] at h
      exact t.freshSource h.1 }

/-!
# Families
-/

/-- The rows of a family.  Nothing keeps a table from having several. -/
def rowsOf (t : SiteFonts) (family : String) : List (Nat × SiteFont) :=
  t.fonts.entries.filter (fun e => decide (e.2.family = family))

/-- `GetFontByFamily`: the first of the rows, by their ids. -/
def getFontByFamily (t : SiteFonts) (family : String) : Option (Nat × SiteFont) :=
  (t.rowsOf family).head?

def addFont (t : SiteFonts) (row : SiteFont) : SiteFonts :=
  { t with
    fonts := t.fonts.set t.nextFontId row
    nextFontId := t.nextFontId + 1
    nextFaceId := t.nextFaceId + row.faces.length
    freshFont := by
      intro id h
      rcases SortedMap.mem_keys_set.mp h with h | h
      · rw [h]
        exact Nat.lt_succ_self _
      · exact Nat.lt_succ_of_lt (t.freshFont h) }

def updateFont (t : SiteFonts) (id : Nat) (row : SiteFont) : SiteFonts :=
  { t with
    fonts := t.fonts.mapValues (fun id' old => if id' = id then row else old)
    nextFaceId := t.nextFaceId + row.faces.length
    freshFont := by
      intro id' h
      apply t.freshFont
      rw [← SortedMap.find?_isSome_iff, SortedMap.find?_mapValues, Option.isSome_map,
        SortedMap.find?_isSome_iff] at h
      exact h }

/-- `DeleteFont` of the rows whose families are not kept, their faces first. -/
def keepFonts (t : SiteFonts) (kept : String -> Bool) : SiteFonts :=
  { t with
    fonts := t.fonts.filter (fun e => kept e.2.family)
    freshFont := by
      intro id h
      apply t.freshFont
      rw [← SortedMap.find?_isSome_iff, SortedMap.find?_filter] at h
      rcases Option.isSome_iff_exists.mp h with ⟨row, hrow⟩
      exact SortedMap.find?_some (Option.filter_eq_some_iff.mp hrow).1 }

end SiteFonts

/-- A tenant's look, and what its app has stored.  Every asset has a name and every font source
a key: both columns allow NULL, and the rows without one are left out. -/
structure Site (app : Type) where
  secrets : SortedMap String String
  assets : SortedMap String SiteAsset
  fonts : SiteFonts
  app : app

namespace Site

variable {app : Type}

def lookupSecret (site : Site app) (name : String) : String :=
  (site.secrets.find? name).getD ""

def addSecret (site : Site app) (write : String × String) : Site app :=
  { site with secrets := site.secrets.set write.1 write.2 }

end Site

end Branding
end ServerComponents
