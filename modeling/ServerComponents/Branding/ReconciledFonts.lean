import ServerComponents.Branding.ManageSiteFonts

/-!
# The fonts after a save

A payload that passes leaves the rows that it lists, with the ids and the faces that they
had; every other one leaves the tables alone.
-/

namespace ServerComponents
namespace Branding

open Relational Control
open Rest (Json Response)

def textOf (object : Json) (name : String) : String :=
  match memberText object name with
  | .ok text => text
  | .error _ => ""

def payloadKeys (body : Json) : List String :=
  (payloadSources body).map (fun source => textOf source "source_key")

def payloadNames (body : Json) : List String :=
  (payloadFamilies body).map (fun family => textOf family "family")

/-!
# What a check that passes has seen
-/

section Checks

theorem requireThat_ok {condition : Bool} {detail : String}
    (h : requireThat condition detail = .ok ()) : condition = true := by
  unfold requireThat at h
  split at h
  · assumption
  · cases h

theorem checkedText_ok {object : Json} {name text : String}
    (h : checkedText object name = .ok text) : memberText object name = .ok text := by
  unfold checkedText at h
  cases hmember : memberText object name with
  | error e =>
      rw [hmember] at h
      cases h
  | ok value =>
      rw [hmember] at h
      cases h
      rfl

theorem textOf_eq {object : Json} {name text : String} (h : memberText object name = .ok text) :
    textOf object name = text := by
  unfold textOf
  rw [h]

/-- The texts of a source, but for its display name, which no check reads. -/
structure SourceChecked (source : Json) (key : String) : Prop where
  key : memberText source "source_key" = .ok key
  baseUrl : exists text, memberText source "base_url" = .ok text
  querySuffix : exists text, memberText source "query_suffix" = .ok text
  preconnectLines : exists text, memberText source "preconnect_lines" = .ok text

theorem checkSource_ok {keys : List String} {source : Json} {key : String}
    (h : checkSource keys source = .ok key) : SourceChecked source key ∧ key ∉ keys := by
  unfold checkSource at h
  rcases exceptBind_ok h with ⟨key', hkey, h⟩
  rcases exceptBind_ok h with ⟨baseUrl, hbaseUrl, h⟩
  rcases exceptBind_ok h with ⟨-, -, h⟩
  rcases exceptBind_ok h with ⟨_, hfresh, h⟩
  rcases exceptBind_ok h with ⟨-, -, h⟩
  rcases exceptBind_ok h with ⟨suffix, hsuffix, h⟩
  rcases exceptBind_ok h with ⟨-, -, h⟩
  rcases exceptBind_ok h with ⟨lines, hlines, h⟩
  cases h
  exact ⟨⟨checkedText_ok hkey, ⟨_, checkedText_ok hbaseUrl⟩, ⟨_, checkedText_ok hsuffix⟩,
    ⟨_, checkedText_ok hlines⟩⟩, by simpa using requireThat_ok hfresh⟩

theorem checkFamily_ok {names : List String} {family : Json} {name : String}
    (h : checkFamily names family = .ok name) :
    (exists p, familyPayload family = .ok p ∧ p.name = name ∧
      (p.kind = kSiteFontSourceKindCdn ->
        memberText family "source_key" = .ok p.sourceKey)) ∧
    memberText family "family" = .ok name ∧ name ∉ names := by
  unfold checkFamily at h
  rcases exceptBind_ok h with ⟨name', hname, h⟩
  rcases exceptBind_ok h with ⟨fallback, hfallback, h⟩
  rcases exceptBind_ok h with ⟨kind, hkind, h⟩
  rcases exceptBind_ok h with ⟨-, -, h⟩
  rcases exceptBind_ok h with ⟨_, hfresh, h⟩
  rcases exceptBind_ok h with ⟨-, -, h⟩
  rcases exceptBind_ok h with ⟨-, -, h⟩
  have hnotMem : name' ∉ names := by simpa using requireThat_ok hfresh
  unfold familyPayload
  rw [checkedText_ok hname, checkedText_ok hfallback, checkedText_ok hkind]
  split at h
  · rename_i hcdn
    rcases exceptBind_ok h with ⟨spec, hspec, h⟩
    rcases exceptBind_ok h with ⟨-, -, h⟩
    rcases exceptBind_ok h with ⟨key, hkey, h⟩
    rcases exceptBind_ok h with ⟨-, -, h⟩
    cases h
    refine ⟨⟨⟨_, fallback, kind, _, spec⟩, ?_, rfl, fun _ => checkedText_ok hkey⟩, rfl,
      hnotMem⟩
    show (if kind = kSiteFontSourceKindCdn then _ else _) = _
    rw [if_pos hcdn, checkedText_ok hkey, checkedText_ok hspec]
    rfl
  · rename_i hcdn
    cases h
    refine ⟨⟨⟨_, fallback, kind, "", ""⟩, ?_, rfl, fun h => absurd h hcdn⟩, rfl, hnotMem⟩
    show (if kind = kSiteFontSourceKindCdn then _ else _) = _
    rw [if_neg hcdn]

theorem checkEach_ok {check : List String -> Json -> Checked String}
    {passed : Json -> String -> Prop}
    (hcheck : forall done item name, check done item = .ok name ->
      passed item name ∧ name ∉ done)
    {items : List Json} {done all : List String} (hdone : done.Nodup)
    (h : checkEach check done items = .ok all) :
    exists names, all = done ++ names ∧ List.Forall₂ passed items names ∧ all.Nodup := by
  induction items generalizing done with
  | nil =>
      cases h
      exact ⟨[], by simp, List.Forall₂.nil, hdone⟩
  | cons item rest ih =>
      rcases exceptBind_ok h with ⟨name, hname, hrest⟩
      rcases hcheck done item name hname with ⟨hpassed, hnew⟩
      have hnodup : (done ++ [name]).Nodup :=
        List.nodup_append.mpr ⟨hdone, List.nodup_singleton _, by
          rintro a ha b hb rfl
          exact hnew (List.mem_singleton.mp hb ▸ ha)⟩
      rcases ih hnodup hrest with ⟨names, hall, hforall, hall'⟩
      exact ⟨name :: names, by simp [hall], List.Forall₂.cons hpassed hforall, hall'⟩

end Checks

/-!
# The loops
-/

section Sources

variable {t t' : SiteFonts} {key : String}

theorem find?_writeSource_self (t : SiteFonts) (source : SourcePayload) :
    exists row, (t.writeSource source).1.sources.find? source.key = some row ∧
      row.id = (t.writeSource source).2 := by
  unfold SiteFonts.writeSource
  split
  · exact ⟨_, SortedMap.find?_set_self _ _ _, rfl⟩
  · exact ⟨_, SortedMap.find?_set_self _ _ _, rfl⟩

theorem find?_writeSource_of_ne (t : SiteFonts) {source : SourcePayload}
    (h : key ≠ source.key) :
    (t.writeSource source).1.sources.find? key = t.sources.find? key := by
  unfold SiteFonts.writeSource
  split
  · exact SortedMap.find?_set_of_ne _ _ h
  · exact SortedMap.find?_set_of_ne _ _ h

theorem fonts_writeSource (t : SiteFonts) (source : SourcePayload) :
    (t.writeSource source).1.fonts = t.fonts := by
  unfold SiteFonts.writeSource
  split <;> rfl

/-- The ids are those of the stored sources with these keys. -/
def IdsOf (t : SiteFonts) (ids : SortedMap String Nat) : Prop :=
  forall key id, ids.find? key = some id ->
    exists row, t.sources.find? key = some row ∧ row.id = id

theorem IdsOf.writeSource {ids : SortedMap String Nat} (h : IdsOf t ids)
    (source : SourcePayload) :
    IdsOf (t.writeSource source).1 (ids.set source.key (t.writeSource source).2) := by
  intro key id hid
  by_cases hkey : key = source.key
  · rw [hkey, SortedMap.find?_set_self] at hid
    rw [hkey, ← Option.some.inj hid]
    exact find?_writeSource_self t source
  · rw [SortedMap.find?_set_of_ne _ _ hkey] at hid
    rw [find?_writeSource_of_ne t hkey]
    exact h key id hid

theorem reconcileSources_ok {items : List Json} {ids ids' : SortedMap String Nat}
    (h : reconcileSources items ids t = (.ok ids', t')) :
    (forall item, item ∈ items -> exists source, sourcePayload item = .ok source) ∧
      (IdsOf t ids -> IdsOf t' ids') ∧ t'.fonts = t.fonts ∧
      forall key, key ∈ ids'.keys <->
        key ∈ ids.keys ∨ key ∈ items.map (fun item => textOf item "source_key") := by
  induction items generalizing t ids with
  | nil =>
      cases h
      exact ⟨fun item hitem => absurd hitem List.not_mem_nil, id, rfl, by simp⟩
  | cons item rest ih =>
      unfold reconcileSources at h
      cases hread : sourcePayload item with
      | error e =>
          rw [hread] at h
          cases h
      | ok source =>
          rw [hread] at h
          have hkey : textOf item "source_key" = source.key := by
            unfold sourcePayload at hread
            rcases exceptBind_ok hread with ⟨key, hkey, hread⟩
            rcases exceptBind_ok hread with ⟨_, _, hread⟩
            rcases exceptBind_ok hread with ⟨_, _, hread⟩
            rcases exceptBind_ok hread with ⟨_, _, hread⟩
            rcases exceptBind_ok hread with ⟨_, _, hread⟩
            cases hread
            exact textOf_eq hkey
          rcases ih h with ⟨hall, hids, hfonts, hkeys⟩
          refine ⟨?_, fun hstart => hids (hstart.writeSource source),
            hfonts.trans (fonts_writeSource t source), fun key => ?_⟩
          · intro item' hitem
            rcases List.mem_cons.mp hitem with rfl | hitem
            · exact ⟨source, hread⟩
            · exact hall item' hitem
          · rw [hkeys key, SortedMap.mem_keys_set, List.map_cons, List.mem_cons, hkey]
            tauto

theorem reconcileSources_of_readable {items : List Json} (ids : SortedMap String Nat)
    (h : forall item, item ∈ items -> exists source, sourcePayload item = .ok source) :
    exists ids' t', reconcileSources items ids t = (.ok ids', t') := by
  induction items generalizing t ids with
  | nil => exact ⟨ids, t, rfl⟩
  | cons item rest ih =>
      rcases h item List.mem_cons_self with ⟨source, hread⟩
      unfold reconcileSources
      rw [hread]
      exact ih _ (fun item' hitem => h item' (List.mem_cons_of_mem item hitem))

end Sources

section Families

variable {t t' : SiteFonts} {ids : SortedMap String Nat} {ordinal : Nat}
  {family : FamilyPayload}

/-- The first row of a family is new, or the one before with its id and its faces. -/
structure FamilyPut (ids : SortedMap String Nat) (ordinal : Nat) (family : FamilyPayload)
    (t t' : SiteFonts) : Prop where
  put : exists id active faces,
    t'.rowsOf family.name = (id, family.row ids ordinal active faces) ::
      (t.rowsOf family.name).tail ∧
    forall e, t.getFontByFamily family.name = some e -> e.1 = id ∧ e.2.faces = faces
  others : forall name, name ≠ family.name -> t'.rowsOf name = t.rowsOf name
  sources : t'.sources = t.sources

theorem reconcileFamily_put (ids : SortedMap String Nat) (ordinal : Nat)
    (family : FamilyPayload) (t : SiteFonts) :
    FamilyPut ids ordinal family t (reconcileFamily ids ordinal family t) := by
  unfold reconcileFamily
  rcases hfont : t.getFontByFamily family.name with _ | ⟨id, row⟩
  · have hrows := SiteFonts.getFontByFamily_none hfont
    refine ⟨⟨t.nextFontId, true, [], ?_, fun e he => ?_⟩, fun name hne => ?_, rfl⟩
    · dsimp only
      rw [SiteFonts.rowsOf_addFont, hrows]
      simp [FamilyPayload.row]
    · rw [hfont] at he
      cases he
    · dsimp only
      rw [SiteFonts.rowsOf_addFont]
      simp [FamilyPayload.row, hne.symm]
  · refine ⟨⟨id, row.active, row.faces, SiteFonts.rowsOf_updateFont_self hfont rfl,
      fun e he => ?_⟩, fun name hne => ?_, rfl⟩
    · rw [hfont] at he
      cases he
      exact ⟨rfl, rfl⟩
    · exact SiteFonts.rowsOf_updateFont_of_ne hfont rfl hne.symm

/-- The `n`th family of the loop is put with the `n`th ordinal. -/
structure FamiliesPut (ids : SortedMap String Nat) (start : Nat)
    (families : List FamilyPayload) (t t' : SiteFonts) : Prop where
  put : forall (n : Nat) (family : FamilyPayload), families[n]? = some family ->
    exists id active faces,
      t'.rowsOf family.name = (id, family.row ids (start + 10 * n) active faces) ::
        (t.rowsOf family.name).tail ∧
      forall e, t.getFontByFamily family.name = some e -> e.1 = id ∧ e.2.faces = faces
  others : forall name, name ∉ families.map FamilyPayload.name ->
    t'.rowsOf name = t.rowsOf name
  sources : t'.sources = t.sources

theorem FamilyPut.cons {first : FamilyPayload} {rest : List FamilyPayload} {start : Nat}
    {t₁ : SiteFonts} (hfirst : FamilyPut ids start first t t₁)
    (hnew : first.name ∉ rest.map FamilyPayload.name)
    (hrest : FamiliesPut ids (start + 10) rest t₁ t') :
    FamiliesPut ids start (first :: rest) t t' where
  put := by
    intro n family hget
    cases n with
    | zero =>
        cases hget
        rcases hfirst.put with ⟨id, active, faces, hrows, hkeep⟩
        refine ⟨id, active, faces, ?_, hkeep⟩
        rw [hrest.others _ hnew]
        exact hrows
    | succ n =>
        rw [List.getElem?_cons_succ] at hget
        rcases hrest.put n family hget with ⟨id, active, faces, hrows, hkeep⟩
        have hne : family.name ≠ first.name := by
          intro heq
          exact hnew (heq ▸ List.mem_map_of_mem (List.mem_of_getElem? hget))
        unfold SiteFonts.getFontByFamily at hkeep
        rw [hfirst.others _ hne] at hkeep hrows
        rw [show start + 10 + 10 * n = start + 10 * (n + 1) by omega] at hrows
        exact ⟨id, active, faces, hrows, hkeep⟩
  others := by
    intro name hname
    rw [List.map_cons, List.mem_cons, not_or] at hname
    rw [hrest.others name hname.2, hfirst.others name hname.1]
  sources := hrest.sources.trans hfirst.sources

theorem reconcileFamilies_put {items : List Json} {families : List FamilyPayload}
    (start : Nat) (t : SiteFonts)
    (hread : List.Forall₂ (fun item family => familyPayload item = .ok family) items families)
    (hnodup : (families.map FamilyPayload.name).Nodup) :
    exists t', reconcileFamilies ids start items t =
        (.ok (families.map FamilyPayload.name), t') ∧
      FamiliesPut ids start families t t' := by
  induction hread generalizing start t with
  | nil =>
      refine ⟨t, rfl, fun n family hget => ?_, fun name _ => rfl, rfl⟩
      cases hget
  | @cons item first items rest hfirst _ ih =>
      rcases List.nodup_cons.mp hnodup with ⟨hnew, hrest⟩
      rcases ih (start + 10) (reconcileFamily ids start first t) hrest with ⟨t', hloop, hput⟩
      refine ⟨t', ?_, (reconcileFamily_put ids start first t).cons hnew hput⟩
      unfold reconcileFamilies
      rw [hfirst]
      dsimp only
      rw [Work.bind_ok hloop]
      rfl

end Families

/-!
# A payload that passes
-/

section Payload

variable {body : Json}

structure ReadFamily (item : Json) (family : FamilyPayload) : Prop where
  read : familyPayload item = .ok family
  name : textOf item "family" = family.name
  kind : textOf item "source_kind" = family.kind
  sourceKey : family.kind = kSiteFontSourceKindCdn ->
    textOf item "source_key" = family.sourceKey

theorem familyPayload_kind {item : Json} {family : FamilyPayload}
    (h : familyPayload item = .ok family) : textOf item "source_kind" = family.kind := by
  unfold familyPayload at h
  rcases exceptBind_ok h with ⟨_, _, h⟩
  rcases exceptBind_ok h with ⟨_, _, h⟩
  rcases exceptBind_ok h with ⟨kind, hkind, h⟩
  have htext := textOf_eq hkind
  split at h
  · rcases exceptBind_ok h with ⟨_, _, h⟩
    rcases exceptBind_ok h with ⟨_, _, h⟩
    cases h
    exact htext
  · cases h
    exact htext

structure Passed (body : Json) (families : List FamilyPayload) : Prop where
  sources : forall item, item ∈ payloadSources body ->
    exists key, SourceChecked item key
  read : List.Forall₂ ReadFamily (payloadFamilies body) families
  nodup : (families.map FamilyPayload.name).Nodup

theorem Passed.names {families : List FamilyPayload} (h : Passed body families) :
    families.map FamilyPayload.name = payloadNames body := by
  unfold payloadNames
  have hread := h.read
  generalize payloadFamilies body = items at hread
  clear h
  induction hread with
  | nil => rfl
  | cons hfirst _ ih => rw [List.map_cons, List.map_cons, ih, hfirst.name]

theorem checkPayload_ok (h : checkPayload body = .ok ()) :
    exists families, Passed body families := by
  unfold checkPayload at h
  rcases exceptBind_ok h with ⟨keys, hkeys, h⟩
  rcases exceptBind_ok h with ⟨names, hnames, -⟩
  have hsource : forall done item key, checkSource done item = .ok key ->
      SourceChecked item key ∧ key ∉ done := fun _ _ _ hcheck => checkSource_ok hcheck
  rcases checkEach_ok hsource List.nodup_nil hkeys with ⟨keys', -, hsources, -⟩
  have hfamily : forall done item name, checkFamily done item = .ok name ->
      (exists family, ReadFamily item family ∧ family.name = name) ∧ name ∉ done := by
    intro done item name hcheck
    rcases checkFamily_ok hcheck with ⟨⟨family, hread, hname, hkey⟩, htext, hnew⟩
    refine ⟨⟨family, ⟨hread, ?_, familyPayload_kind hread, ?_⟩, hname⟩, hnew⟩
    · rw [hname]
      exact textOf_eq htext
    · exact fun hcdn => textOf_eq (hkey hcdn)
  rcases checkEach_ok hfamily List.nodup_nil hnames with ⟨names', hall, hfamilies, hnodup⟩
  have hread : exists families, List.Forall₂ ReadFamily (payloadFamilies body) families ∧
      families.map FamilyPayload.name = names' := by
    generalize payloadFamilies body = items at hfamilies
    clear hall hnodup hnames
    induction hfamilies with
    | nil => exact ⟨[], List.Forall₂.nil, rfl⟩
    | cons hfirst _ ih =>
        rcases hfirst with ⟨family, hread, hname⟩
        rcases ih with ⟨rest, hrest, hnames⟩
        exact ⟨family :: rest, List.Forall₂.cons hread hrest, by
          rw [List.map_cons, hname, hnames]⟩
  rcases hread with ⟨families, hread, hmap⟩
  refine ⟨families, ⟨?_, hread, ?_⟩⟩
  · intro item hitem
    generalize payloadSources body = items at hsources hitem
    clear hkeys
    induction hsources with
    | nil => cases hitem
    | cons hfirst _ ih =>
        rcases List.mem_cons.mp hitem with rfl | hitem
        · exact ⟨_, hfirst⟩
        · exact ih hitem
  · rw [hmap]
    rwa [hall, List.nil_append] at hnodup

/-- The display names are read when the sources are written, and must be texts as well. -/
def DisplayNames (body : Json) : Prop :=
  forall item, item ∈ payloadSources body ->
    exists text, memberText item "display_name" = .ok text

theorem sourcePayload_of_checked {item : Json} {key : String} (h : SourceChecked item key)
    (hname : exists text, memberText item "display_name" = .ok text) :
    exists source, sourcePayload item = .ok source := by
  rcases h with ⟨hkey, ⟨baseUrl, hbaseUrl⟩, ⟨suffix, hsuffix⟩, lines, hlines⟩
  rcases hname with ⟨displayName, hdisplayName⟩
  unfold sourcePayload
  rw [hkey, hdisplayName, hbaseUrl, hsuffix, hlines]
  exact ⟨_, rfl⟩

theorem displayName_of_sourcePayload {item : Json} {source : SourcePayload}
    (h : sourcePayload item = .ok source) :
    exists text, memberText item "display_name" = .ok text := by
  unfold sourcePayload at h
  rcases exceptBind_ok h with ⟨_, _, h⟩
  rcases exceptBind_ok h with ⟨displayName, hdisplayName, _⟩
  exact ⟨displayName, hdisplayName⟩

end Payload

/-!
# The tables that are left
-/

section Left

variable {body : Json} {t t' : SiteFonts}

/-- A family that is kept by a save: its row id, and its uploaded faces. -/
def KeepsRow (t' : SiteFonts) (e : Nat × SiteFont) : Prop :=
  exists row, t'.fonts.find? e.1 = some row ∧ row.family = e.2.family ∧ row.faces = e.2.faces

/-- The sources and the families of the payload are left, in its order. -/
structure Reconciled (body : Json) (t t' : SiteFonts) : Prop where
  sources : forall key, key ∈ t'.sources.keys <-> key ∈ payloadKeys body
  families : (allFonts t').map (fun e => e.2.family) = payloadNames body
  cdn : forall e, e ∈ t'.fonts.entries -> e.2.sourceKind = kSiteFontSourceKindCdn ->
    exists key row, t'.sources.find? key = some row ∧ e.2.fontSourceId = some row.id
  referenced : forall e id, e ∈ t'.fonts.entries -> e.2.fontSourceId = some id ->
    exists key row, t'.sources.find? key = some row ∧ row.id = id
  kept : forall e, e ∈ t.fonts.entries -> e.2.family ∈ payloadNames body -> KeepsRow t' e

structure Saved (body : Json) (families : List FamilyPayload) (ids : SortedMap String Nat)
    (t t' : SiteFonts) : Prop where
  displayNames : DisplayNames body
  keys : forall key, key ∈ ids.keys <-> key ∈ payloadKeys body
  sources : forall key, t'.sources.find? key = none <-> key ∉ payloadKeys body
  idsOf : IdsOf t' ids
  listed : forall (n : Nat) (family : FamilyPayload), families[n]? = some family ->
    exists id active faces,
      t'.rowsOf family.name = (id, family.row ids (10 + 10 * n) active faces) ::
        (t.rowsOf family.name).tail ∧
      forall e, t.getFontByFamily family.name = some e -> e.1 = id ∧ e.2.faces = faces
  unlisted : forall name, name ∉ payloadNames body -> t'.rowsOf name = []

variable {families : List FamilyPayload}

theorem saved_of_loops {ids : SortedMap String Nat}
    {t₁ t₂ : SiteFonts} (hpassed : Passed body families)
    (hsources : reconcileSources (payloadSources body) SortedMap.empty t = (.ok ids, t₁))
    (hput : FamiliesPut ids 10 families t₁ t₂) :
    Saved body families ids t (dropUnkept ids.keys (payloadNames body) t₂) := by
  rcases reconcileSources_ok hsources with ⟨hread, hidsOf, hfonts, hkeys⟩
  have hkeys' : forall key, key ∈ ids.keys <-> key ∈ payloadKeys body := by
    intro key
    rw [hkeys key]
    simp [payloadKeys, SortedMap.keys, SortedMap.empty]
  have hrows : forall name, t₁.rowsOf name = t.rowsOf name := by
    intro name
    unfold SiteFonts.rowsOf
    rw [hfonts]
  have hdropped : forall name, (dropUnkept ids.keys (payloadNames body) t₂).rowsOf name =
      if name ∈ payloadNames body then t₂.rowsOf name else [] := by
    intro name
    have hkeep := rowsOf_keepFonts t₂ (fun family => decide (family ∈ payloadNames body)) name
    simp only [decide_eq_true_eq] at hkeep
    exact hkeep
  have hfind : forall key, (dropUnkept ids.keys (payloadNames body) t₂).sources.find? key =
      (t₁.sources.find? key).filter (fun _ => decide (key ∈ ids.keys)) := by
    intro key
    rw [← hput.sources]
    exact SortedMap.find?_filter _ _ key
  have hids : IdsOf t₁ ids := hidsOf (fun key id h => by cases h)
  constructor
  · intro item hitem
    rcases hread item hitem with ⟨source, hsource⟩
    exact displayName_of_sourcePayload hsource
  · exact hkeys'
  · intro key
    rw [hfind, ← hkeys' key]
    constructor
    · intro hnone hmem
      rcases Option.isSome_iff_exists.mp (SortedMap.find?_isSome_iff.mpr hmem) with ⟨id, hid⟩
      rcases hids key id hid with ⟨row, hrow, -⟩
      rw [hrow] at hnone
      simp [hmem] at hnone
    · intro hnot
      simp [hnot]
  · intro key id hid
    rcases hids key id hid with ⟨row, hrow, hrowId⟩
    have hmem : key ∈ ids.keys := SortedMap.find?_isSome_iff.mp (by rw [hid]; rfl)
    refine ⟨row, ?_, hrowId⟩
    rw [hfind, hrow]
    simp [hmem]
  · intro n family hget
    rcases hput.put n family hget with ⟨id, active, faces, hrow, hkeep⟩
    have hmem : family.name ∈ payloadNames body := by
      rw [← hpassed.names]
      exact List.mem_map_of_mem (List.mem_of_getElem? hget)
    unfold SiteFonts.getFontByFamily at hkeep ⊢
    rw [hrows] at hrow hkeep
    exact ⟨id, active, faces, by rw [hdropped, if_pos hmem, hrow], hkeep⟩
  · intro name hname
    rw [hdropped, if_neg hname]

theorem reconcile_of_passed (hpassed : Passed body families)
    {ids : SortedMap String Nat} {t₁ : SiteFonts}
    (hsources : reconcileSources (payloadSources body) SortedMap.empty t = (.ok ids, t₁)) :
    exists response t', reconcile body t = (.ok response, t') ∧ response.status = 200 ∧
      Saved body families ids t t' := by
  have hitems : List.Forall₂ (fun item family => familyPayload item = .ok family)
      (payloadFamilies body) families := hpassed.read.imp (fun _ _ h => h.read)
  rcases @reconcileFamilies_put ids _ _ 10 t₁ hitems hpassed.nodup with ⟨t₂, hfamilies, hput⟩
  rw [hpassed.names] at hfamilies
  refine ⟨⟨200, [("Content-Type", "application/json")], savedBody ids.keys (payloadNames body)⟩,
    dropUnkept ids.keys (payloadNames body) t₂, ?_, rfl, saved_of_loops hpassed hsources hput⟩
  unfold reconcile
  rw [Work.bind_ok hsources, Work.bind_ok hfamilies]
  rfl

theorem reconcile_ok (hpassed : Passed body families)
    {response : Response} (h : reconcile body t = (.ok response, t')) :
    response.status = 200 ∧ exists ids, Saved body families ids t t' := by
  rcases hsources : reconcileSources (payloadSources body) SortedMap.empty t with ⟨outcome, t₁⟩
  cases outcome with
  | error e =>
      unfold reconcile at h
      rw [Work.bind_error hsources] at h
      cases h
  | ok ids =>
      rcases reconcile_of_passed hpassed hsources with ⟨response', t₂, hrun, hstatus, hsaved⟩
      rw [h] at hrun
      cases hrun
      exact ⟨hstatus, ids, hsaved⟩

/-- Every downloaded family of the payload has one of its sources. -/
def CdnListed (body : Json) : Prop :=
  forall item, item ∈ payloadFamilies body ->
    textOf item "source_kind" = kSiteFontSourceKindCdn ->
    textOf item "source_key" ∈ payloadKeys body

theorem mem_left {item : Json} {items : List Json}
    (h : List.Forall₂ ReadFamily items families) (hitem : item ∈ items) :
    exists family, family ∈ families ∧ ReadFamily item family := by
  induction h with
  | nil => cases hitem
  | cons hfirst _ ih =>
      rcases List.mem_cons.mp hitem with rfl | hitem
      · exact ⟨_, List.mem_cons_self, hfirst⟩
      · rcases ih hitem with ⟨family, hmem, hread⟩
        exact ⟨family, List.mem_cons_of_mem _ hmem, hread⟩

variable {family : FamilyPayload}

theorem mem_right {items : List Json}
    (h : List.Forall₂ ReadFamily items families) (hfamily : family ∈ families) :
    exists item, item ∈ items ∧ ReadFamily item family := by
  induction h with
  | nil => cases hfamily
  | cons hfirst _ ih =>
      rcases List.mem_cons.mp hfamily with rfl | hfamily
      · exact ⟨_, List.mem_cons_self, hfirst⟩
      · rcases ih hfamily with ⟨item, hmem, hread⟩
        exact ⟨item, List.mem_cons_of_mem _ hmem, hread⟩

section Rows

variable {families : List FamilyPayload} {ids : SortedMap String Nat}

def SingleRows (body : Json) (t : SiteFonts) : Prop :=
  forall name, name ∈ payloadNames body -> (t.rowsOf name).length ≤ 1

variable (h : Saved body families ids t t')

variable (hpassed : Passed body families)

include hpassed h in
theorem Saved.single (hone : SingleRows body t) {n : Nat}
    (hget : families[n]? = some family) : exists id active faces,
      t'.rowsOf family.name = [(id, family.row ids (10 + 10 * n) active faces)] ∧
      forall e, e ∈ t.rowsOf family.name -> e.1 = id ∧ e.2.faces = faces := by
  rcases h.listed n family hget with ⟨id, active, faces, hrow, hkeep⟩
  have hlength : (t.rowsOf family.name).length ≤ 1 := by
    apply hone
    rw [← hpassed.names]
    exact List.mem_map_of_mem (List.mem_of_getElem? hget)
  have htail : (t.rowsOf family.name).tail = [] := by
    apply List.eq_nil_of_length_eq_zero
    rw [List.length_tail]
    omega
  refine ⟨id, active, faces, by rw [hrow, htail], fun e he => hkeep e ?_⟩
  unfold SiteFonts.getFontByFamily
  rcases hrows : t.rowsOf family.name with _ | ⟨first, rest⟩
  · rw [hrows] at he
    cases he
  · rw [hrows, List.tail_cons] at htail
    rw [hrows, htail, List.mem_singleton] at he
    rw [he]
    rfl

include h in
include hpassed in
/-- A row that is left is one of a family of the payload. -/
theorem Saved.row {e : Nat × SiteFont} (he : e ∈ t'.fonts.entries) :
    exists (n : Nat) (family : FamilyPayload), families[n]? = some family ∧
      e ∈ t'.rowsOf family.name := by
  have hmem : e ∈ t'.rowsOf e.2.family := SiteFonts.mem_rowsOf.mpr ⟨he, rfl⟩
  have hname : e.2.family ∈ payloadNames body := by
    by_contra hnot
    rw [h.unlisted _ hnot] at hmem
    cases hmem
  rw [← hpassed.names] at hname
  rcases List.mem_map.mp hname with ⟨family, hfamily, hfamilyName⟩
  rcases List.mem_iff_getElem?.mp hfamily with ⟨n, hget⟩
  exact ⟨n, family, hget, hfamilyName ▸ hmem⟩

include hpassed h in
theorem Saved.row_single
    (hone : SingleRows body t) {e : Nat × SiteFont} (he : e ∈ t'.fonts.entries) :
    exists (n : Nat) (family : FamilyPayload) (active : Bool) (faces : List SiteFontFace),
      families[n]? = some family ∧ t'.rowsOf family.name = [e] ∧
      e.2 = family.row ids (10 + 10 * n) active faces := by
  rcases h.row hpassed he with ⟨n, family, hget, hmem⟩
  rcases h.single hpassed hone hget with ⟨id, active, faces, hrow, -⟩
  rw [hrow] at hmem
  have heq := List.mem_singleton.mp hmem
  exact ⟨n, family, active, faces, hget, by rw [hrow, heq], by rw [heq]⟩

def placed (e : Nat × SiteFont) : Nat × String := (e.2.ordinal, e.2.family)

def places (families : List FamilyPayload) : List (Nat × String) :=
  families.mapIdx (fun (n : Nat) (family : FamilyPayload) => (10 + 10 * n, family.name))

theorem mem_places {place : Nat × String} :
    place ∈ places families <-> exists (n : Nat) (family : FamilyPayload),
      families[n]? = some family ∧ place = (10 + 10 * n, family.name) := by
  unfold places
  rw [List.mem_iff_getElem?]
  constructor
  · rintro ⟨n, hn⟩
    rw [List.getElem?_mapIdx] at hn
    rcases Option.map_eq_some_iff.mp hn with ⟨family, hfamily, rfl⟩
    exact ⟨n, family, hfamily, rfl⟩
  · rintro ⟨n, family, hfamily, rfl⟩
    refine ⟨n, ?_⟩
    rw [List.getElem?_mapIdx, hfamily]
    rfl

theorem places_increasing (families : List FamilyPayload) :
    (places families).Pairwise (fun a b => a.1 < b.1) := by
  rw [List.pairwise_iff_getElem]
  intro i j hi hj hij
  simp only [places, List.getElem_mapIdx]
  omega

theorem map_snd_places (families : List FamilyPayload) :
    (places families).map Prod.snd = families.map FamilyPayload.name := by
  apply List.ext_getElem?
  intro n
  unfold places
  rw [List.getElem?_map, List.getElem?_mapIdx, List.getElem?_map, Option.map_map]
  rfl

include hpassed h in
theorem Saved.perm (hone : SingleRows body t) :
    (t'.fonts.entries.map placed).Perm (places families) := by
  have hplaces : (places families).Nodup :=
    (places_increasing families).imp (fun hlt heq => by rw [heq] at hlt; omega)
  have hentries : (t'.fonts.entries.map placed).Nodup := by
    have hnodup : t'.fonts.entries.Nodup :=
      List.Nodup.of_map Prod.fst (t'.fonts.keys_sorted.imp (fun hlt => Nat.ne_of_lt hlt))
    refine List.Nodup.map_on ?_ hnodup
    intro e he e' he' hsame
    rcases h.row_single hpassed hone he with ⟨n, family, active, faces, hget, hrows, hrow⟩
    have hfamily : e.2.family = family.name := by rw [hrow]; rfl
    have hmem : e' ∈ t'.rowsOf family.name :=
      SiteFonts.mem_rowsOf.mpr ⟨he', by rw [← hfamily]; exact (Prod.mk.inj hsame).2.symm⟩
    rw [hrows] at hmem
    exact (List.mem_singleton.mp hmem).symm
  rw [List.perm_ext_iff_of_nodup hentries hplaces]
  intro place
  rw [mem_places]
  constructor
  · intro hplace
    rcases List.mem_map.mp hplace with ⟨e, he, rfl⟩
    rcases h.row_single hpassed hone he with ⟨n, family, active, faces, hget, -, hrow⟩
    refine ⟨n, family, hget, ?_⟩
    unfold placed
    rw [hrow]
    rfl
  · rintro ⟨n, family, hget, rfl⟩
    rcases h.listed n family hget with ⟨id, active, faces, hrow, -⟩
    have hmem : (id, family.row ids (10 + 10 * n) active faces) ∈ t'.rowsOf family.name := by
      rw [hrow]
      exact List.mem_cons_self
    exact List.mem_map.mpr ⟨_, (SiteFonts.mem_rowsOf.mp hmem).1, rfl⟩

include hpassed h in
theorem Saved.order (hone : SingleRows body t) :
    (allFonts t').map (fun e => e.2.family) = payloadNames body := by
  have hsorted : ((allFonts t').map placed).Pairwise (fun a b => a.1 ≤ b.1) := by
    rw [List.pairwise_map]
    exact List.pairwise_insertionSort OrdinalLe _
  have hperm : ((allFonts t').map placed).Perm (places families) :=
    ((List.perm_insertionSort OrdinalLe _).map placed).trans (h.perm hpassed hone)
  have hplaces : (places families).Pairwise (fun a b => a.1 ≤ b.1) :=
    (places_increasing families).imp (fun hlt => Nat.le_of_lt hlt)
  have hanti : forall a b, a ∈ (allFonts t').map placed -> b ∈ places families ->
      a.1 ≤ b.1 -> b.1 ≤ a.1 -> a = b := by
    intro a b ha hb hab hba
    rcases mem_places.mp (hperm.subset ha) with ⟨n, family, hget, rfl⟩
    rcases mem_places.mp hb with ⟨n', family', hget', rfl⟩
    have hn : n = n' := by
      dsimp only at hab hba
      omega
    subst hn
    rw [hget] at hget'
    cases hget'
    rfl
  have heq := hperm.eq_of_pairwise hanti hsorted hplaces
  have hnames := congrArg (List.map Prod.snd) heq
  rw [List.map_map] at hnames
  rw [show (fun e : Nat × SiteFont => e.2.family) = Prod.snd ∘ placed from rfl, hnames,
    ← hpassed.names]
  exact map_snd_places families

include h in
theorem Saved.fontSource {id : Nat} (hid : family.sourceId ids = some id) :
    exists key row, t'.sources.find? key = some row ∧ row.id = id := by
  unfold FamilyPayload.sourceId at hid
  split at hid
  · exact ⟨_, h.idsOf _ id hid⟩
  · cases hid

include hpassed h in
theorem Saved.kept (hone : SingleRows body t) {e : Nat × SiteFont} (he : e ∈ t.fonts.entries)
    (hname : e.2.family ∈ payloadNames body) : KeepsRow t' e := by
  rw [← hpassed.names] at hname
  rcases List.mem_map.mp hname with ⟨family, hfamily, hfamilyName⟩
  rcases List.mem_iff_getElem?.mp hfamily with ⟨n, hget⟩
  rcases h.single hpassed hone hget with ⟨id, active, faces, hrow, hkeep⟩
  rcases hkeep e (SiteFonts.mem_rowsOf.mpr ⟨he, hfamilyName.symm⟩) with ⟨hid, hfaces⟩
  have hmem : (id, family.row ids (10 + 10 * n) active faces) ∈ t'.fonts.entries := by
    have hmem : (id, family.row ids (10 + 10 * n) active faces) ∈ t'.rowsOf family.name := by
      rw [hrow]
      exact List.mem_singleton_self _
    exact (SiteFonts.mem_rowsOf.mp hmem).1
  refine ⟨family.row ids (10 + 10 * n) active faces, ?_, hfamilyName, hfaces.symm⟩
  rw [hid]
  exact SortedMap.find?_of_mem hmem

include h in
theorem Saved.keys_sources (key : String) :
    key ∈ t'.sources.keys <-> key ∈ payloadKeys body := by
  have hnone := h.sources key
  rw [← SortedMap.find?_isSome_iff, Option.isSome_iff_ne_none]
  tauto

include hpassed h in
theorem Saved.reconciled
    (hone : SingleRows body t) (hcdn : CdnListed body) : Reconciled body t t' where
  sources := h.keys_sources
  families := h.order hpassed hone
  cdn := by
    intro e he hkind
    rcases h.row_single hpassed hone he with ⟨n, family, active, faces, hget, -, hrow⟩
    rw [hrow] at hkind ⊢
    change family.kind = kSiteFontSourceKindCdn at hkind
    show exists key row, t'.sources.find? key = some row ∧ family.sourceId ids = some row.id
    rcases mem_right hpassed.read (List.mem_of_getElem? hget) with ⟨item, hitem, hread⟩
    have hlisted := hcdn item hitem (hread.kind.trans hkind)
    rw [hread.sourceKey hkind, ← h.keys] at hlisted
    rcases Option.isSome_iff_exists.mp (SortedMap.find?_isSome_iff.mpr hlisted) with ⟨id, hid⟩
    rcases h.idsOf _ id hid with ⟨row, hsource, hsourceId⟩
    refine ⟨family.sourceKey, row, hsource, ?_⟩
    unfold FamilyPayload.sourceId
    rw [if_pos hkind, hid, hsourceId]
  referenced := by
    intro e id he hid
    rcases h.row_single hpassed hone he with ⟨n, family, active, faces, -, -, hrow⟩
    rw [hrow] at hid
    exact h.fontSource hid
  kept := fun e he hname => h.kept hpassed hone he hname

include hpassed h in
theorem Saved.cdnListed (hreconciled : Reconciled body t t') : CdnListed body := by
  intro item hitem hkind
  rcases mem_left hpassed.read hitem with ⟨family, hfamily, hread⟩
  rcases List.mem_iff_getElem?.mp hfamily with ⟨n, hget⟩
  rcases h.listed n family hget with ⟨id, active, faces, hrow, -⟩
  rw [hread.kind] at hkind
  have hmem : (id, family.row ids (10 + 10 * n) active faces) ∈ t'.rowsOf family.name := by
    rw [hrow]
    exact List.mem_cons_self
  rcases hreconciled.cdn _ (SiteFonts.mem_rowsOf.mp hmem).1 hkind with ⟨key, row, -, hid⟩
  change family.sourceId ids = some row.id at hid
  unfold FamilyPayload.sourceId at hid
  rw [if_pos hkind] at hid
  rw [hread.sourceKey hkind, ← h.keys, ← SortedMap.find?_isSome_iff, hid]
  rfl

include h in
include hpassed in
/-- A second row of a family is listed beside the first one. -/
theorem Saved.singleRows (hreconciled : Reconciled body t t') : SingleRows body t := by
  intro name hname
  have hnodup := hpassed.nodup
  rw [hpassed.names, ← hreconciled.families, List.nodup_iff_count_le_one] at hnodup
  have hcount : (t'.rowsOf name).length ≤ 1 := by
    have hperm := ((List.perm_insertionSort OrdinalLe t'.fonts.entries).map
      (fun e => e.2.family)).count_eq name
    have hle := hnodup name
    change List.count name ((t'.fonts.entries.insertionSort OrdinalLe).map _) ≤ 1 at hle
    rw [hperm, List.count, List.countP_map, List.countP_eq_length_filter] at hle
    exact hle
  rw [← hpassed.names] at hname
  rcases List.mem_map.mp hname with ⟨family, hfamily, rfl⟩
  rcases List.mem_iff_getElem?.mp hfamily with ⟨n, hget⟩
  rcases h.listed n family hget with ⟨id, active, faces, hrow, -⟩
  rw [hrow, List.length_cons, List.length_tail] at hcount
  omega

end Rows

end Left

/-!
# Every answer
-/

section Answers

variable {access : Access} {parsed : Except Exn Json} {body : Json} {t : SiteFonts}

/-- An administrator's payload that passes the checks. -/
structure Admitted (access : Access) (parsed : Except Exn Json) (body : Json) : Prop where
  admin : access = .admin
  parsed : parsed = .ok body
  object : body.hasChildren = true
  checked : checkPayload body = .ok ()
  displayNames : DisplayNames body

/-- What is saved is the payload, and what is refused changes nothing. -/
def AnswersWell (access : Access) (parsed : Except Exn Json) (t : SiteFonts) : Prop :=
  ((handlePut access parsed t).1.status = 200 -> exists body, parsed = .ok body ∧
    Reconciled body t (handlePut access parsed t).2) ∧
  ((handlePut access parsed t).1.status ≠ 200 -> (handlePut access parsed t).2 = t)

theorem reconcile_of_admitted (h : Admitted access parsed body) :
    exists response t', reconcile body t = (.ok response, t') := by
  rcases checkPayload_ok h.checked with ⟨families, hpassed⟩
  have hread : forall item, item ∈ payloadSources body ->
      exists source, sourcePayload item = .ok source := by
    intro item hitem
    rcases hpassed.sources item hitem with ⟨key, hkey⟩
    exact sourcePayload_of_checked hkey (h.displayNames item hitem)
  rcases @reconcileSources_of_readable t (payloadSources body) SortedMap.empty hread with
    ⟨ids, t₁, hsources⟩
  rcases reconcile_of_passed hpassed hsources with ⟨response, t', hrun, -⟩
  exact ⟨response, t', hrun⟩

/-- The responses that stop a check are errors. -/
def Refuses {a : Type} (x : Checked a) : Prop :=
  forall response, x = .error (.response response) -> response.status ≠ 200

theorem refuses_ok {a : Type} (value : a) : Refuses (.ok value : Checked a) :=
  fun _ h => by cases h

theorem Refuses.bind {a b : Type} {x : Checked a} {f : a -> Checked b} (hx : Refuses x)
    (hf : forall value, Refuses (f value)) : Refuses (x >>= f) := by
  intro response h
  cases x with
  | error refusal =>
      cases h
      exact hx response rfl
  | ok value => exact hf value response h

theorem errorStatus_ne (code : Rest.ErrorCode) : code.status ≠ 200 := by
  cases code <;> decide

theorem refuses_requireThat (condition : Bool) (detail : String) :
    Refuses (requireThat condition detail) := by
  intro response h
  unfold requireThat at h
  split at h
  · cases h
  · cases h
    exact errorStatus_ne .validationError

theorem refuses_checkedText (object : Json) (name : String) :
    Refuses (checkedText object name) := by
  intro response h
  unfold checkedText at h
  cases hmember : memberText object name with
  | error e =>
      rw [hmember] at h
      cases h
  | ok text =>
      rw [hmember] at h
      cases h

theorem refuses_checkSource (keys : List String) (source : Json) :
    Refuses (checkSource keys source) := by
  unfold checkSource
  refine (refuses_checkedText _ _).bind fun key => (refuses_checkedText _ _).bind fun url => ?_
  refine (refuses_requireThat _ _).bind fun _ => (refuses_requireThat _ _).bind fun _ => ?_
  refine (refuses_requireThat _ _).bind fun _ => (refuses_checkedText _ _).bind fun suffix => ?_
  exact (refuses_requireThat _ _).bind fun _ => (refuses_checkedText _ _).bind fun _ =>
    refuses_ok key

theorem refuses_checkFamily (names : List String) (family : Json) :
    Refuses (checkFamily names family) := by
  unfold checkFamily
  refine (refuses_checkedText _ _).bind fun name => (refuses_checkedText _ _).bind fun _ => ?_
  refine (refuses_checkedText _ _).bind fun kind => (refuses_requireThat _ _).bind fun _ => ?_
  refine (refuses_requireThat _ _).bind fun _ => (refuses_requireThat _ _).bind fun _ => ?_
  refine (refuses_requireThat _ _).bind fun _ => ?_
  split
  · refine (refuses_checkedText _ _).bind fun spec => (refuses_requireThat _ _).bind fun _ => ?_
    exact (refuses_checkedText _ _).bind fun _ => (refuses_requireThat _ _).bind fun _ =>
      refuses_ok name
  · exact refuses_ok name

theorem refuses_checkEach {check : List String -> Json -> Checked String}
    (hcheck : forall done item, Refuses (check done item)) (items : List Json)
    (done : List String) : Refuses (checkEach check done items) := by
  induction items generalizing done with
  | nil => exact refuses_ok done
  | cons item rest ih => exact (hcheck done item).bind fun name => ih _

theorem refuses_checkPayload (body : Json) : Refuses (checkPayload body) := by
  unfold checkPayload
  exact (refuses_checkEach refuses_checkSource _ _).bind fun _ =>
    (refuses_checkEach refuses_checkFamily _ _).bind fun _ => refuses_ok ()

theorem handlePut_cases (access : Access) (parsed : Except Exn Json) (t : SiteFonts) :
    (exists body families ids, Admitted access parsed body ∧ Passed body families ∧
      (handlePut access parsed t).1.status = 200 ∧
      Saved body families ids t (handlePut access parsed t).2) ∨
    ((forall body, Not (Admitted access parsed body)) ∧
      (handlePut access parsed t).1.status ≠ 200 ∧ (handlePut access parsed t).2 = t) := by
  unfold handlePut putManageSiteFonts
  cases access with
  | loggedOut => exact Or.inr ⟨fun body h => (nomatch h.admin), errorStatus_ne .notAuthenticated,
      rfl⟩
  | loggedIn => exact Or.inr ⟨fun body h => (nomatch h.admin), errorStatus_ne .notAuthorized, rfl⟩
  | admin =>
      cases parsed with
      | error e => exact Or.inr ⟨fun body h => (nomatch h.parsed), errorStatus_ne .internalError,
          rfl⟩
      | ok body =>
          have hbody : forall body', Admitted .admin (.ok body) body' ->
              Admitted .admin (.ok body) body := by
            intro body' h
            cases h.parsed
            exact h
          dsimp only [requireAdmin]
          by_cases hobject : body.hasChildren = false
          · rw [if_pos hobject]
            refine Or.inr ⟨fun body' h => ?_, errorStatus_ne .badRequest, rfl⟩
            rw [(hbody body' h).object] at hobject
            cases hobject
          · rw [if_neg hobject]
            cases hchecked : checkPayload body with
            | error refusal =>
                have hnot : forall body', Not (Admitted .admin (.ok body) body') := by
                  intro body' h
                  rw [(hbody body' h).checked] at hchecked
                  cases hchecked
                cases refusal with
                | response response =>
                    exact Or.inr ⟨hnot, refuses_checkPayload body response hchecked, rfl⟩
                | thrown e => exact Or.inr ⟨hnot, errorStatus_ne .internalError, rfl⟩
            | ok value =>
                rcases checkPayload_ok hchecked with ⟨families, hpassed⟩
                dsimp only
                rcases hrun : reconcile body t with ⟨outcome, t'⟩
                cases outcome with
                | error e =>
                    refine Or.inr ⟨fun body' h => ?_, errorStatus_ne .internalError, rfl⟩
                    rcases reconcile_of_admitted (hbody body' h) with ⟨response, t₂, hok⟩
                    rw [hrun] at hok
                    cases hok
                | ok response =>
                    rcases reconcile_ok hpassed hrun with ⟨hstatus, ids, hsaved⟩
                    refine Or.inl ⟨body, families, ids, ⟨rfl, rfl, by simpa using hobject,
                      hchecked, hsaved.displayNames⟩, hpassed, hstatus, hsaved⟩

/-- A downloaded family of a source that the payload does not have. -/
def unlistedSource : Json :=
  .obj [("families", .arr [.obj [("family", .str "Lora"), ("fallback", .str "serif"),
      ("source_kind", .str "cdn"), ("source_key", .str "bunny"), ("spec", .str "family=Lora")]]),
    ("sources", .arr [])]

end Answers

end Branding
end ServerComponents
