import ServerComponents.Branding.FontInventory

/-!
# Fonts that are served alike

Two sites serve the same fonts when their active rows differ in nothing but ids, and the
ids of their sources stand in the same order.
-/

namespace ServerComponents
namespace Branding

open Relational

/-- An inventory without the ids in the addresses of faces. -/
def SiteFontInventory.withoutIds (inventory : SiteFontInventory) : SiteFontInventory :=
  { inventory with faces := inventory.faces.map (fun face => { face with url := "" }) }

def SiteFontSource.withoutId (source : SiteFontSource) : SiteFontSource := { source with id := 0 }

def SiteFontFace.withoutId (face : SiteFontFace) : SiteFontFace := { face with id := 0 }

/-- A row that a page can show something of. -/
def isServed (font : Nat × SiteFont) : Bool :=
  decide (font.2.sourceKind = kSiteFontSourceKindCdn ∨ font.2.faces ≠ [])

def SameSourceId (used : String -> Prop) (t t' : SiteFonts) (id id' : Nat) : Prop :=
  exists key source source', used key ∧ t.sources.find? key = some source ∧
    t'.sources.find? key = some source' ∧ source.id = id ∧ source'.id = id' ∧
    source.withoutId = source'.withoutId

def SameSourceText (used : String -> Prop) (t t' : SiteFonts) (text text' : String) : Prop :=
  exists id id', text = toString id ∧ text' = toString id' ∧ SameSourceId used t t' id id'

structure SameFont (used : String -> Prop) (t t' : SiteFonts) (font font' : Nat × SiteFont) :
    Prop where
  family : font.2.family = font'.2.family
  sourceKind : font.2.sourceKind = font'.2.sourceKind
  spec : font.2.spec = font'.2.spec
  faces : font.2.faces.map SiteFontFace.withoutId = font'.2.faces.map SiteFontFace.withoutId
  source : font.2.sourceKind = kSiteFontSourceKindCdn ->
    Option.Rel (SameSourceId used t t') font.2.fontSourceId font'.2.fontSourceId

structure SameServed (used : String -> Prop) (t t' : SiteFonts) : Prop where
  fonts : List.Forall₂ (SameFont used t t') ((activeFonts t).filter isServed)
    ((activeFonts t').filter isServed)
  order : OrderAlike (SameSourceText used t t')

theorem toString_injective {id id' : Nat} (h : toString id = toString id') : id = id' := by
  have hdigits : Nat.toDigits 10 id = Nat.toDigits 10 id' := by
    rw [← Nat.toList_repr, ← Nat.toList_repr]
    exact congrArg String.toList h
  rw [← Nat.ofDigitChars_toDigits (b := 10) (by decide) (by decide) (n := id), hdigits,
    Nat.ofDigitChars_toDigits (by decide) (by decide)]

section Served

variable {used : String -> Prop} {t t' : SiteFonts}

theorem activeSource?_of_find? {key : String} {source : SiteFontSource}
    (h : t.sources.find? key = some source) :
    activeSource? t (toString source.id) = if source.active then some source else none := by
  have hunique : forall e, e ∈ t.sources.entries -> toString e.2.id = toString source.id ->
      e.2 = source := by
    intro e he hid
    have hfind := SortedMap.find?_of_mem he
    have hkey := t.sourceIds hfind h (toString_injective hid)
    rw [hkey, h] at hfind
    exact (Option.some.inj hfind).symm
  unfold activeSource?
  cases hactive : source.active with
  | true =>
      have hsome : (t.sources.entries.find? (fun e =>
          e.2.active && decide (toString e.2.id = toString source.id))).isSome = true := by
        rw [List.find?_isSome]
        exact ⟨(key, source), SortedMap.mem_of_find? h, by simp [hactive]⟩
      rcases Option.isSome_iff_exists.mp hsome with ⟨e, he⟩
      have hid := List.find?_some he
      rw [Bool.and_eq_true, decide_eq_true_eq] at hid
      rw [he, Option.map_some, hunique e (List.mem_of_find?_eq_some he) hid.2]
      rfl
  | false =>
      rw [List.find?_eq_none.mpr]
      · rfl
      · intro e he hboth
        rw [Bool.and_eq_true, decide_eq_true_eq] at hboth
        rw [hunique e he hboth.2, hactive] at hboth
        cases hboth.1

theorem SameSourceId.activeSource? {id id' : Nat} (h : SameSourceId used t t' id id') :
    (Branding.activeSource? t (toString id)).map SiteFontSource.withoutId =
      (Branding.activeSource? t' (toString id')).map SiteFontSource.withoutId := by
  rcases h with ⟨key, source, source', _, hfind, hfind', hid, hid', hsame⟩
  rw [← hid, ← hid', activeSource?_of_find? hfind, activeSource?_of_find? hfind']
  have hactive : source.withoutId.active = source'.withoutId.active := by rw [hsame]
  change source.active = source'.active at hactive
  rw [← hactive]
  split
  · rw [Option.map_some, Option.map_some, hsame]
  · rfl

theorem pushSpec_of_not_cdn {font : Nat × SiteFont}
    (h : font.2.sourceKind ≠ kSiteFontSourceKindCdn) (specs : SortedMap String (List String)) :
    pushSpec t specs font = specs := by
  unfold pushSpec
  split
  · rfl
  · rw [if_neg (fun hcdn => h hcdn.1)]

theorem pushSpec_of_not_served {font : Nat × SiteFont} (h : isServed font = false)
    (specs : SortedMap String (List String)) : pushSpec t specs font = specs := by
  apply pushSpec_of_not_cdn
  intro hkind
  unfold isServed at h
  simp [hkind] at h

theorem pushSpec_sideBySide (horder : OrderAlike (SameSourceText used t t'))
    {specs specs' : SortedMap String (List String)} {font font' : Nat × SiteFont}
    (hspecs : SideBySide (SameSourceText used t t') specs specs')
    (hfont : SameFont used t t' font font') :
    SideBySide (SameSourceText used t t') (pushSpec t specs font)
      (pushSpec t' specs' font') := by
  by_cases hkind : font.2.sourceKind = kSiteFontSourceKindCdn
  · have hsource := hfont.source hkind
    unfold pushSpec
    revert hsource
    rcases font.2.fontSourceId with _ | id <;> rcases font'.2.fontSourceId with _ | id'
    · intro _
      exact hspecs
    · intro hsource
      cases hsource
    · intro hsource
      cases hsource
    · intro hsource
      cases hsource with
      | some hid =>
          dsimp only
          have hrel : SameSourceText used t t' (toString id) (toString id') :=
            ⟨id, id', rfl, rfl, hid⟩
          have hisSome : (activeSource? t (toString id)).isSome =
              (activeSource? t' (toString id')).isSome := by
            have hsame := congrArg Option.isSome hid.activeSource?
            rwa [Option.isSome_map, Option.isSome_map] at hsame
          rw [hisSome, hfont.sourceKind, hfont.spec, hspecs.find? horder hrel]
          split
          · exact hspecs.set horder hrel _
          · exact hspecs
  · have hkind' : font'.2.sourceKind ≠ kSiteFontSourceKindCdn := by
      rw [← hfont.sourceKind]
      exact hkind
    rw [pushSpec_of_not_cdn hkind, pushSpec_of_not_cdn hkind']
    exact hspecs

theorem specsBySource_sideBySide (h : SameServed used t t') :
    SideBySide (SameSourceText used t t') (specsBySource t) (specsBySource t') := by
  unfold specsBySource
  have hskip : forall (t : SiteFonts) (specs : SortedMap String (List String))
      (font : Nat × SiteFont), isServed font = false -> pushSpec t specs font = specs :=
    fun _ specs _ hfont => pushSpec_of_not_served hfont specs
  rw [← foldl_filter_of_skip (hskip t), ← foldl_filter_of_skip (hskip t')]
  refine foldl_sideBySide ?_ h.fonts sideBySide_empty
  intro specs specs' font font' hspecs hfont
  exact pushSpec_sideBySide h.order hspecs hfont

theorem pushSource_same {served : List String × List BundleFontPreconnect}
    {entry entry' : String × List String}
    (h : RelatedEntry (SameSourceText used t t') entry entry') :
    pushSource t served entry = pushSource t' served entry' := by
  rcases h with ⟨⟨id, id', hid, hid', hsame⟩, hspecs⟩
  have hsource := hsame.activeSource?
  unfold pushSource
  rw [hid, hid', hspecs]
  revert hsource
  rcases activeSource? t (toString id) with _ | source <;>
    rcases activeSource? t' (toString id') with _ | source'
  · intro _
    rfl
  · intro h
    cases h
  · intro h
    cases h
  · intro h
    have hcolumns : source.withoutId = source'.withoutId := Option.some.inj h
    have hpush : forall source : SiteFontSource,
        (source.withoutId.baseUrl, source.withoutId.querySuffix,
          source.withoutId.preconnectLines) =
        (source.baseUrl, source.querySuffix, source.preconnectLines) := fun _ => rfl
    have hread := hpush source
    rw [hcolumns, hpush source'] at hread
    cases source
    cases source'
    cases hread
    rfl

/-!
# Faces
-/

def FontFaceDescriptor.withoutUrl (face : FontFaceDescriptor) : FontFaceDescriptor :=
  { face with url := "" }

theorem describeFace_withoutId (faceUrlPrefix family : String) (face : SiteFontFace) :
    (describeFace faceUrlPrefix family face).map FontFaceDescriptor.withoutUrl =
      (describeFace faceUrlPrefix family face.withoutId).map FontFaceDescriptor.withoutUrl := by
  unfold describeFace SiteFontFace.withoutId
  dsimp only
  split <;> rfl

theorem servedFaces_withoutId (faceUrlPrefix : String) (font : Nat × SiteFont) :
    (servedFaces faceUrlPrefix font).map FontFaceDescriptor.withoutUrl =
      (((font.2.faces.map SiteFontFace.withoutId).insertionSort FaceLe).filterMap
        (describeFace faceUrlPrefix font.2.family)).map FontFaceDescriptor.withoutUrl := by
  have hsort : (font.2.faces.insertionSort FaceLe).map SiteFontFace.withoutId =
      (font.2.faces.map SiteFontFace.withoutId).insertionSort FaceLe :=
    List.map_insertionSort _ _ _ _ (fun _ _ _ _ => Iff.rfl)
  unfold servedFaces
  rw [← hsort, List.filterMap_map, List.map_filterMap, List.map_filterMap]
  apply List.filterMap_congr
  intro face _
  exact describeFace_withoutId faceUrlPrefix font.2.family face

theorem servedFaces_same {font font' : Nat × SiteFont} (h : SameFont used t t' font font')
    (faceUrlPrefix : String) :
    (servedFaces faceUrlPrefix font).map FontFaceDescriptor.withoutUrl =
      (servedFaces faceUrlPrefix font').map FontFaceDescriptor.withoutUrl := by
  rw [servedFaces_withoutId, servedFaces_withoutId, h.faces, h.family]

theorem servedFaces_of_not_served {font : Nat × SiteFont} (h : isServed font = false)
    (faceUrlPrefix : String) : servedFaces faceUrlPrefix font = [] := by
  unfold isServed at h
  have hfaces : font.2.faces = [] := by
    by_contra hne
    simp [hne] at h
  unfold servedFaces
  rw [hfaces, List.insertionSort_nil]
  rfl

theorem flatMap_servedFaces_filter (faceUrlPrefix : String) (fonts : List (Nat × SiteFont)) :
    (fonts.filter isServed).flatMap (servedFaces faceUrlPrefix) =
      fonts.flatMap (servedFaces faceUrlPrefix) := by
  induction fonts with
  | nil => rfl
  | cons font rest ih =>
      rw [List.filter_cons, List.flatMap_cons]
      split
      · rw [List.flatMap_cons, ih]
      · rename_i hfont
        rw [servedFaces_of_not_served (by simpa using hfont), ih]
        rfl

theorem map_flatMap_servedFaces_same (faceUrlPrefix : String)
    {fonts fonts' : List (Nat × SiteFont)}
    (h : List.Forall₂ (SameFont used t t') fonts fonts') :
    (fonts.flatMap (servedFaces faceUrlPrefix)).map FontFaceDescriptor.withoutUrl =
      (fonts'.flatMap (servedFaces faceUrlPrefix)).map FontFaceDescriptor.withoutUrl := by
  induction h with
  | nil => rfl
  | cons hfirst _ ih =>
      rw [List.flatMap_cons, List.flatMap_cons, List.map_append, List.map_append,
        servedFaces_same hfirst, ih]

theorem loadSiteFontInventory_same (h : SameServed used t t') (faceUrlPrefix : String) :
    (loadSiteFontInventory t faceUrlPrefix).withoutIds =
      (loadSiteFontInventory t' faceUrlPrefix).withoutIds := by
  have hserved : (specsBySource t).entries.foldl (pushSource t) ([], []) =
      (specsBySource t').entries.foldl (pushSource t') ([], []) :=
    foldl_sideBySide (S := Eq) (fun _ _ _ _ hs hentry => hs ▸ pushSource_same hentry)
      (specsBySource_sideBySide h) rfl
  have hfaces := map_flatMap_servedFaces_same faceUrlPrefix h.fonts
  rw [flatMap_servedFaces_filter, flatMap_servedFaces_filter] at hfaces
  unfold SiteFontInventory.withoutIds loadSiteFontInventory
  dsimp only
  rw [hserved]
  congr 1

end Served

end Branding
end ServerComponents
