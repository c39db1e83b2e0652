import ServerComponents.Branding.ImportEffects
import ServerComponents.Branding.SameFonts

/-!
# Replacing imports

A replacing import leaves a row for each family that the bundle lists.  It comes from the
bundle but for its id and its `active` flag, which are those of the family's first row
before.  Further rows of a listed family stay as they are.
-/

namespace ServerComponents
namespace Branding

open Relational Control
open Rest (Json)

/-!
# Sources
-/

def SiteFonts.sourceFlag (t : SiteFonts) (key : String) : Bool :=
  match t.sources.find? key with
  | some row => row.active
  | none => true

theorem SiteFonts.fonts_putSource (t : SiteFonts) (source : BundleFontSource) :
    (t.putSource source).1.fonts = t.fonts := by
  unfold SiteFonts.putSource
  split <;> rfl

theorem foldl_putSource_fonts (sources : List BundleFontSource)
    (start : SiteFonts × SortedMap String Nat) :
    (sources.foldl (fun (t, ids) source =>
      ((t.putSource source).1, ids.set source.sourceKey (t.putSource source).2))
      start).1.fonts = start.1.fonts := by
  induction sources generalizing start with
  | nil => rfl
  | cons source rest ih =>
      rw [List.foldl_cons, ih]
      exact SiteFonts.fonts_putSource start.1 source

theorem fonts_applySources (t : SiteFonts) (sources : List BundleFontSource) :
    (applySources t sources).1.fonts = t.fonts :=
  foldl_putSource_fonts sources (t, SortedMap.empty)

def lastSource : List BundleFontSource -> String -> Option BundleFontSource
  | [], _ => none
  | source :: rest, key =>
      match lastSource rest key with
      | some last => some last
      | none => if source.sourceKey = key then some source else none

section Sources

variable {t : SiteFonts} {key : String}

theorem find?_putSource_self (t : SiteFonts) (source : BundleFontSource) :
    (t.putSource source).1.sources.find? source.sourceKey =
      some (SiteFonts.sourceRow source (t.putSource source).2 (t.sourceFlag source.sourceKey)) := by
  unfold SiteFonts.putSource
  split
  · rename_i row hrow
    have hflag : t.sourceFlag source.sourceKey = row.active := by
      unfold SiteFonts.sourceFlag
      rw [hrow]
    rw [hflag]
    exact SortedMap.find?_set_self _ _ _
  · rename_i hnone
    have hflag : t.sourceFlag source.sourceKey = true := by
      unfold SiteFonts.sourceFlag
      rw [hnone]
    rw [hflag]
    exact SortedMap.find?_set_self _ _ _

theorem find?_putSource_of_ne (t : SiteFonts) {source : BundleFontSource}
    (h : key ≠ source.sourceKey) :
    (t.putSource source).1.sources.find? key = t.sources.find? key := by
  unfold SiteFonts.putSource
  split
  · exact SortedMap.find?_set_of_ne _ _ h
  · exact SortedMap.find?_set_of_ne _ _ h

theorem sourceFlag_putSource (t : SiteFonts) (source : BundleFontSource) (key : String) :
    (t.putSource source).1.sourceFlag key = t.sourceFlag key := by
  by_cases h : key = source.sourceKey
  · rw [h]
    have hself := find?_putSource_self t source
    unfold SiteFonts.sourceFlag at *
    rw [hself]
    rfl
  · unfold SiteFonts.sourceFlag
    rw [find?_putSource_of_ne t h]

structure SourceApplied (sources : List BundleFontSource) (key : String)
    (start result : SiteFonts × SortedMap String Nat) : Prop where
  listed : forall source, lastSource sources key = some source ->
    exists id, result.1.sources.find? key =
        some (SiteFonts.sourceRow source id (start.1.sourceFlag key)) ∧
      result.2.find? key = some id
  unlisted : lastSource sources key = none ->
    result.1.sources.find? key = start.1.sources.find? key ∧
      result.2.find? key = start.2.find? key

theorem foldl_putSource_applied (sources : List BundleFontSource) (key : String)
    (start : SiteFonts × SortedMap String Nat) :
    SourceApplied sources key start (sources.foldl (fun (t, ids) source =>
      ((t.putSource source).1, ids.set source.sourceKey (t.putSource source).2)) start) := by
  induction sources generalizing start with
  | nil =>
      constructor
      · intro source h
        cases h
      · intro _
        exact ⟨rfl, rfl⟩
  | cons first rest ih =>
      rcases start with ⟨t, ids⟩
      have hrest := ih ((t.putSource first).1,
        ids.set first.sourceKey (t.putSource first).2)
      rw [List.foldl_cons]
      constructor
      · intro source h
        unfold lastSource at h
        split at h
        · rename_i hlast
          cases h
          rcases hrest.listed source hlast with ⟨id, hrow, hid⟩
          rw [sourceFlag_putSource] at hrow
          exact ⟨id, hrow, hid⟩
        · rename_i hnone
          split at h
          · rename_i hkey
            cases h
            rcases hrest.unlisted hnone with ⟨hrow, hid⟩
            rw [← hkey] at hrow hid ⊢
            exact ⟨(t.putSource first).2, hrow.trans (find?_putSource_self t first),
              hid.trans (SortedMap.find?_set_self _ _ _)⟩
          · cases h
      · intro h
        unfold lastSource at h
        split at h
        · cases h
        · rename_i hnone
          split at h
          · cases h
          · rename_i hkey
            have hne : key ≠ first.sourceKey := fun heq => hkey heq.symm
            rcases hrest.unlisted hnone with ⟨hrow, hid⟩
            exact ⟨hrow.trans (find?_putSource_of_ne t hne),
              hid.trans (SortedMap.find?_set_of_ne _ _ hne)⟩

theorem applySources_applied (t : SiteFonts) (sources : List BundleFontSource) (key : String) :
    SourceApplied sources key (t, SortedMap.empty) (applySources t sources) :=
  foldl_putSource_applied sources key (t, SortedMap.empty)

theorem lastSource_none_iff {sources : List BundleFontSource} :
    lastSource sources key = none <-> key ∉ sources.map BundleFontSource.sourceKey := by
  induction sources with
  | nil => simp [lastSource]
  | cons first rest ih =>
      unfold lastSource
      rw [List.map_cons, List.mem_cons, not_or]
      split
      · rename_i last hlast
        rw [hlast] at ih
        constructor
        · intro h
          cases h
        · intro h
          exact absurd (ih.mpr h.2) (by simp)
      · rename_i hnone
        split
        · rename_i hkey
          simp [hkey]
        · rename_i hkey
          exact ⟨fun _ => ⟨fun h => hkey h.symm, ih.mp hnone⟩, fun _ => rfl⟩

end Sources

/-!
# Families
-/

section Rows

variable {t : SiteFonts} {name : String} {id : Nat} {row new : SiteFont}

theorem SiteFonts.mem_rowsOf {e : Nat × SiteFont} :
    e ∈ t.rowsOf name <-> e ∈ t.fonts.entries ∧ e.2.family = name := by
  unfold SiteFonts.rowsOf
  simp [List.mem_filter]

theorem SiteFonts.entries_addFont (t : SiteFonts) (row : SiteFont) :
    (t.addFont row).fonts.entries = t.fonts.entries ++ [(t.nextFontId, row)] := by
  apply SortedMap.setEntry_last
  intro e he
  exact t.freshFont (List.mem_map_of_mem he)

theorem SiteFonts.rowsOf_addFont (t : SiteFonts) (row : SiteFont) (name : String) :
    (t.addFont row).rowsOf name =
      t.rowsOf name ++ if row.family = name then [(t.nextFontId, row)] else [] := by
  unfold SiteFonts.rowsOf
  rw [SiteFonts.entries_addFont, List.filter_append]
  by_cases hname : row.family = name <;> simp [hname]

theorem SiteFonts.getFontByFamily_some (h : t.getFontByFamily name = some (id, row)) :
    t.rowsOf name = (id, row) :: (t.rowsOf name).tail :=
  List.eq_cons_of_mem_head? h

theorem SiteFonts.getFontByFamily_none (h : t.getFontByFamily name = none) :
    t.rowsOf name = [] :=
  List.head?_eq_none_iff.mp h

theorem SiteFonts.mem_of_getFontByFamily (h : t.getFontByFamily name = some (id, row)) :
    (id, row) ∈ t.fonts.entries ∧ row.family = name := by
  apply SiteFonts.mem_rowsOf.mp
  rw [SiteFonts.getFontByFamily_some h]
  exact List.mem_cons_self

theorem SiteFonts.family_of_getFontByFamily (h : t.getFontByFamily name = some (id, row))
    {old : SiteFont} (hold : (id, old) ∈ t.fonts.entries) : old.family = name := by
  rcases SiteFonts.mem_of_getFontByFamily h with ⟨hentry, hname⟩
  have hsame : some old = some row := by
    rw [← SortedMap.find?_of_mem hold, ← SortedMap.find?_of_mem hentry]
  cases hsame
  exact hname

theorem SiteFonts.rowsOf_updateFont
    (h : forall {old}, (id, old) ∈ t.fonts.entries -> old.family = new.family)
    (name : String) : (t.updateFont id new).rowsOf name =
      (t.rowsOf name).map (fun e => (e.1, if e.1 = id then new else e.2)) := by
  unfold SiteFonts.rowsOf SiteFonts.updateFont SortedMap.mapValues
  dsimp only
  rw [List.filter_map]
  congr 1
  apply List.filter_congr
  intro e he
  by_cases hid : e.1 = id
  · have hfamily : e.2.family = new.family := h (hid ▸ he)
    simp [hid, hfamily]
  · simp [hid]

theorem map_updated_of_ne {rows : List (Nat × SiteFont)} (h : forall e, e ∈ rows -> e.1 ≠ id) :
    rows.map (fun e => (e.1, if e.1 = id then new else e.2)) = rows := by
  conv_rhs => rw [← List.map_id rows]
  apply List.map_congr_left
  intro e he
  rw [if_neg (h e he)]
  rfl

theorem SiteFonts.rowsOf_updateFont_self (h : t.getFontByFamily name = some (id, row))
    (hname : new.family = name) :
    (t.updateFont id new).rowsOf name = (id, new) :: (t.rowsOf name).tail := by
  have hrows := SiteFonts.getFontByFamily_some h
  have hsorted : (t.rowsOf name).Pairwise (fun e e' => e.1 < e'.1) :=
    t.fonts.sorted.filter _
  rw [hrows, List.pairwise_cons] at hsorted
  rw [SiteFonts.rowsOf_updateFont (hname ▸ SiteFonts.family_of_getFontByFamily h), hrows,
    List.map_cons, if_pos rfl, List.tail_cons]
  congr 1
  apply map_updated_of_ne
  intro e he
  exact (hsorted.1 e he).ne'

theorem SiteFonts.rowsOf_updateFont_of_ne (h : t.getFontByFamily name = some (id, row))
    (hname : new.family = name) {other : String} (hne : name ≠ other) :
    (t.updateFont id new).rowsOf other = t.rowsOf other := by
  rw [SiteFonts.rowsOf_updateFont (hname ▸ SiteFonts.family_of_getFontByFamily h)]
  apply map_updated_of_ne
  intro e he hid
  rcases SiteFonts.mem_rowsOf.mp he with ⟨hentry, hother⟩
  apply hne
  rw [← hother]
  exact (SiteFonts.family_of_getFontByFamily h (hid ▸ hentry)).symm

end Rows

/-- The flag of the first row, and that of a new row where there is none. -/
def SiteFonts.fontFlag (t : SiteFonts) (family : String) : Bool :=
  match t.getFontByFamily family with
  | some e => e.2.active
  | none => true

def lastFamily : Nat -> List BundleFontFamily -> String -> Option (Nat × BundleFontFamily)
  | _, [], _ => none
  | ordinal, family :: rest, name =>
      match lastFamily (ordinal + 10) rest name with
      | some last => some last
      | none => if family.family = name then some (ordinal, family) else none

theorem lastFamily_some {families : List BundleFontFamily} {start ordinal : Nat}
    {family : BundleFontFamily} {name : String}
    (h : lastFamily start families name = some (ordinal, family)) :
    family ∈ families ∧ family.family = name ∧ start ≤ ordinal := by
  induction families generalizing start with
  | nil => cases h
  | cons first rest ih =>
      unfold lastFamily at h
      split at h
      · rename_i last hlast
        cases h
        rcases ih hlast with ⟨hmem, hname, hle⟩
        exact ⟨List.mem_cons_of_mem first hmem, hname, by omega⟩
      · split at h
        · rename_i hname
          cases h
          exact ⟨List.mem_cons_self, hname, le_refl _⟩
        · cases h

theorem lastFamily_inj {families : List BundleFontFamily} {start ordinal : Nat}
    {family family' : BundleFontFamily} {name name' : String}
    (h : lastFamily start families name = some (ordinal, family))
    (h' : lastFamily start families name' = some (ordinal, family')) : name = name' := by
  induction families generalizing start with
  | nil => cases h
  | cons first rest ih =>
      unfold lastFamily at h h'
      split at h
      · rename_i last hlast
        split at h'
        · rename_i last' hlast'
          cases h
          cases h'
          exact ih hlast hlast'
        · split at h'
          · cases h
            cases h'
            have hle := (lastFamily_some hlast).2.2
            omega
          · cases h'
      · split at h
        · rename_i hname
          cases h
          split at h'
          · rename_i last' hlast'
            cases h'
            have hle := (lastFamily_some hlast').2.2
            omega
          · split at h'
            · rename_i hname'
              rw [← hname, ← hname']
            · cases h'
        · cases h

theorem lastFamily_none_iff {families : List BundleFontFamily} {start : Nat} {name : String} :
    lastFamily start families name = none <->
      name ∉ families.map BundleFontFamily.family := by
  induction families generalizing start with
  | nil => simp [lastFamily]
  | cons first rest ih =>
      have hrest := @ih (start + 10)
      unfold lastFamily
      rw [List.map_cons, List.mem_cons, not_or]
      split
      · rename_i last hlast
        rw [hlast] at hrest
        constructor
        · intro h
          cases h
        · intro h
          exact absurd (hrest.mpr h.2) (by simp)
      · rename_i hnone
        split
        · rename_i hname
          simp [hname]
        · rename_i hname
          exact ⟨fun _ => ⟨fun h => hname h.symm, hrest.mp hnone⟩, fun _ => rfl⟩

section Families

variable {t : SiteFonts} {bundle : ThemeBundle Json} {ids : SortedMap String Nat}
  {ordinal : Nat} {family : BundleFontFamily}

theorem applyFamily_self (bundle : ThemeBundle Json) (ids : SortedMap String Nat)
    (ordinal : Nat) (family : BundleFontFamily) (t : SiteFonts) :
    exists id faceId, (applyFamily bundle ids ordinal family t).rowsOf family.family =
      (id, fontRow bundle ids ordinal family faceId (t.fontFlag family.family)) ::
        (t.rowsOf family.family).tail := by
  unfold applyFamily SiteFonts.fontFlag
  rcases hfont : t.getFontByFamily family.family with _ | ⟨id, row⟩
  · refine ⟨t.nextFontId, t.nextFaceId, ?_⟩
    dsimp only
    rw [SiteFonts.rowsOf_addFont, SiteFonts.getFontByFamily_none hfont]
    simp [fontRow]
  · exact ⟨id, t.nextFaceId, SiteFonts.rowsOf_updateFont_self hfont rfl⟩

theorem applyFamily_of_ne {name : String} (hne : family.family ≠ name) :
    (applyFamily bundle ids ordinal family t).rowsOf name = t.rowsOf name := by
  unfold applyFamily
  rcases hfont : t.getFontByFamily family.family with _ | ⟨id, row⟩
  · dsimp only
    rw [SiteFonts.rowsOf_addFont]
    simp [fontRow, hne]
  · exact SiteFonts.rowsOf_updateFont_of_ne hfont rfl hne

theorem applyFamily_tail (name : String) :
    ((applyFamily bundle ids ordinal family t).rowsOf name).tail = (t.rowsOf name).tail := by
  by_cases hname : family.family = name
  · rcases applyFamily_self bundle ids ordinal family t with ⟨id, faceId, hrows⟩
    rw [← hname, hrows, List.tail_cons]
  · rw [applyFamily_of_ne hname]

theorem applyFamily_fontFlag (name : String) :
    (applyFamily bundle ids ordinal family t).fontFlag name = t.fontFlag name := by
  by_cases hname : family.family = name
  · rcases applyFamily_self bundle ids ordinal family t with ⟨id, faceId, hrows⟩
    rw [hname] at hrows
    conv_lhs => unfold SiteFonts.fontFlag SiteFonts.getFontByFamily
    rw [hrows]
    rfl
  · unfold SiteFonts.fontFlag SiteFonts.getFontByFamily
    rw [applyFamily_of_ne hname]

theorem applyFamily_sources :
    (applyFamily bundle ids ordinal family t).sources = t.sources := by
  unfold applyFamily
  split <;> rfl

theorem applyFamilies_sources {families : List BundleFontFamily} {start : Nat} :
    (applyFamilies bundle ids start families t).sources = t.sources := by
  induction families generalizing start t with
  | nil => rfl
  | cons first rest ih => exact ih.trans applyFamily_sources

/-- The rows of a name after the loop over the bundle's families. -/
structure NameApplied (bundle : ThemeBundle Json) (ids : SortedMap String Nat) (start : Nat)
    (families : List BundleFontFamily) (name : String) (t t' : SiteFonts) : Prop where
  listed : forall ordinal family, lastFamily start families name = some (ordinal, family) ->
    exists id faceId, t'.rowsOf name =
      (id, fontRow bundle ids ordinal family faceId (t.fontFlag name)) :: (t.rowsOf name).tail
  unlisted : lastFamily start families name = none -> t'.rowsOf name = t.rowsOf name

theorem applyFamilies_applied (families : List BundleFontFamily) (start : Nat) (name : String) :
    NameApplied bundle ids start families name t
      (applyFamilies bundle ids start families t) := by
  induction families generalizing start t with
  | nil =>
      refine ⟨?_, fun _ => rfl⟩
      intro ordinal family hlast
      cases hlast
  | cons first rest ih =>
      have hrest := @ih (applyFamily bundle ids start first t) (start + 10)
      constructor
      · intro ordinal family hlast
        unfold lastFamily at hlast
        split at hlast
        · rename_i hlater
          cases hlast
          rcases hrest.listed ordinal family hlater with ⟨id, faceId, hrows⟩
          rw [applyFamily_fontFlag, applyFamily_tail] at hrows
          exact ⟨id, faceId, hrows⟩
        · rename_i hlater
          split at hlast
          · rename_i hname
            cases hlast
            subst hname
            rcases applyFamily_self bundle ids start first t with ⟨id, faceId, hrows⟩
            exact ⟨id, faceId, (hrest.unlisted hlater).trans hrows⟩
          · cases hlast
      · intro hlast
        unfold lastFamily at hlast
        split at hlast
        · cases hlast
        · rename_i hlater
          split at hlast
          · cases hlast
          · rename_i hname
            exact (hrest.unlisted hlater).trans (applyFamily_of_ne hname)

end Families

/-!
# Tables after a replacing import
-/

section Replaced

variable {t t' : SiteFonts} {bundle : ThemeBundle Json}

theorem rowsOf_keepFonts (t : SiteFonts) (kept : String -> Bool) (name : String) :
    (t.keepFonts kept).rowsOf name = if kept name then t.rowsOf name else [] := by
  unfold SiteFonts.rowsOf SiteFonts.keepFonts SortedMap.filter
  dsimp only
  rw [List.filter_filter]
  split
  · rename_i hkept
    apply List.filter_congr
    intro e _
    by_cases hname : e.2.family = name
    · simp [hname, hkept]
    · simp [hname]
  · rename_i hkept
    rw [List.filter_eq_nil_iff]
    intro e _ hboth
    rw [Bool.and_eq_true, decide_eq_true_eq] at hboth
    rw [hboth.1] at hboth
    exact hkept hboth.2

theorem rowsOf_applySources (t : SiteFonts) (sources : List BundleFontSource) (name : String) :
    (applySources t sources).1.rowsOf name = t.rowsOf name := by
  unfold SiteFonts.rowsOf
  rw [fonts_applySources]

theorem fontFlag_applySources (t : SiteFonts) (sources : List BundleFontSource)
    (name : String) : (applySources t sources).1.fontFlag name = t.fontFlag name := by
  unfold SiteFonts.fontFlag SiteFonts.getFontByFamily
  rw [rowsOf_applySources]

/-- What a replacing import makes of the tables. -/
structure Replaced (bundle : ThemeBundle Json) (t t' : SiteFonts) : Prop where
  source : forall {key source}, lastSource bundle.sources key = some source ->
    exists id, t'.sources.find? key =
        some (SiteFonts.sourceRow source id (t.sourceFlag key)) ∧
      (applySources t bundle.sources).2.find? key = some id
  noSource : forall {key}, lastSource bundle.sources key = none ->
    t'.sources.find? key = none ∧ (applySources t bundle.sources).2.find? key = none
  family : forall {name ordinal family},
    lastFamily 10 bundle.families name = some (ordinal, family) ->
    exists id faceId, t'.rowsOf name =
      (id, fontRow bundle (applySources t bundle.sources).2 ordinal family faceId
        (t.fontFlag name)) :: (t.rowsOf name).tail
  noFamily : forall {name}, lastFamily 10 bundle.families name = none -> t'.rowsOf name = []

theorem applyBundleFonts_replaced (bundle : ThemeBundle Json) (t : SiteFonts) :
    Replaced bundle t (applyBundleFonts bundle false t) := by
  have happlied := applySources_applied t bundle.sources
  have hnames := fun name => @applyFamilies_applied (applySources t bundle.sources).1 bundle
    (applySources t bundle.sources).2 bundle.families 10 name
  have hrows : forall name, (applyBundleFonts bundle false t).rowsOf name =
      if name ∈ bundle.families.map BundleFontFamily.family then
        (applyFamilies bundle (applySources t bundle.sources).2 10 bundle.families
          (applySources t bundle.sources).1).rowsOf name
      else [] := by
    intro name
    have hkeep := rowsOf_keepFonts (applyFamilies bundle (applySources t bundle.sources).2 10
      bundle.families (applySources t bundle.sources).1) (fun family =>
        decide (family ∈ bundle.families.map BundleFontFamily.family)) name
    simp only [decide_eq_true_eq] at hkeep
    exact hkeep
  have hfind : forall key, (applyBundleFonts bundle false t).sources.find? key =
      ((applySources t bundle.sources).1.sources.find? key).filter (fun _ =>
        decide (key ∈ bundle.sources.map BundleFontSource.sourceKey)) := by
    intro key
    rw [← @applyFamilies_sources (applySources t bundle.sources).1 bundle
      (applySources t bundle.sources).2 bundle.families 10]
    exact SortedMap.find?_filter _ _ key
  constructor
  · intro key source hlast
    rcases (happlied key).listed source hlast with ⟨id, hrow, hid⟩
    have hlisted : key ∈ bundle.sources.map BundleFontSource.sourceKey := by
      by_contra hnot
      rw [lastSource_none_iff.mpr hnot] at hlast
      cases hlast
    refine ⟨id, ?_, hid⟩
    rw [hfind, hrow]
    simp [hlisted]
  · intro key hlast
    rcases (happlied key).unlisted hlast with ⟨hrow, hid⟩
    refine ⟨?_, hid⟩
    rw [hfind]
    have hunlisted := lastSource_none_iff.mp hlast
    simp [hunlisted]
  · intro name ordinal family hlast
    have hlisted : name ∈ bundle.families.map BundleFontFamily.family := by
      by_contra hnot
      rw [lastFamily_none_iff.mpr hnot] at hlast
      cases hlast
    rcases (hnames name).listed ordinal family hlast with ⟨id, faceId, hrow⟩
    rw [fontFlag_applySources, rowsOf_applySources] at hrow
    exact ⟨id, faceId, by rw [hrows, if_pos hlisted, hrow]⟩
  · intro name hlast
    rw [hrows, if_neg (lastFamily_none_iff.mp hlast)]

end Replaced

end Branding
end ServerComponents
