import ServerComponents.Branding.ReplaceImport

/-!
# The look after a replacing import

Two sites that import one theme look alike when what the import does not write agrees: the
`active` flags of the listed rows that a page shows something of, and the order of the ids
of the listed sources in use.  A further row of a listed family must show nothing.
-/

namespace ServerComponents
namespace Branding

open Relational Control
open Rest (Json)

def UsedSource (bundle : ThemeBundle Json) (key : String) : Prop :=
  exists family, family ∈ bundle.families ∧ family.sourceKind = kSiteFontSourceKindCdn ∧
    family.sourceKey = key

/-- Of the families that the bundle lists, only the first rows can show something. -/
def ShowsFirst (bundle : ThemeBundle Json) (t : SiteFonts) : Prop :=
  forall family : BundleFontFamily, family ∈ bundle.families ->
    forall e, e ∈ (t.rowsOf family.family).tail -> e.2.active = true -> isServed e = false

def ThemeBundle.sourceKeys (bundle : ThemeBundle Json) : List String :=
  bundle.sources.map BundleFontSource.sourceKey

/-- The id under which an import keeps a listed source: that of its row, or the next one
after those of the listed sources without a row before it. -/
def SiteFonts.idFor (t : SiteFonts) (keys : List String) (key : String) : Nat :=
  match t.sources.find? key with
  | some row => row.id
  | none => t.nextSourceId +
      (keys.filter (fun key => (t.sources.find? key).isNone)).eraseDups.idxOf key

/-- What an import of the bundle does not write agrees in both sites. -/
structure AgreeUnwritten (bundle : ThemeBundle Json) (t t' : SiteFonts) : Prop where
  first : ShowsFirst bundle t
  first' : ShowsFirst bundle t'
  family : forall family : BundleFontFamily, family ∈ bundle.families ->
    (family.sourceKind = kSiteFontSourceKindCdn ∨ family.faces ≠ []) ->
    t.fontFlag family.family = t'.fontFlag family.family
  source : forall key, UsedSource bundle key -> t.sourceFlag key = t'.sourceFlag key
  order : forall key key₁, UsedSource bundle key -> UsedSource bundle key₁ ->
    key ∈ bundle.sourceKeys -> key₁ ∈ bundle.sourceKeys ->
      (toString (t.idFor bundle.sourceKeys key) < toString (t.idFor bundle.sourceKeys key₁) <->
        toString (t'.idFor bundle.sourceKeys key) < toString (t'.idFor bundle.sourceKeys key₁))

theorem SiteFonts.putSource_id (t : SiteFonts) (source : BundleFontSource)
    (keys : List String) :
    (t.putSource source).2 = t.idFor (source.sourceKey :: keys) source.sourceKey := by
  unfold SiteFonts.putSource SiteFonts.idFor
  split
  · simp [*]
  · simp [*, List.eraseDups_cons]

theorem SiteFonts.nextSourceId_putSource (t : SiteFonts) (source : BundleFontSource) :
    (t.putSource source).1.nextSourceId =
      t.nextSourceId + if (t.sources.find? source.sourceKey).isNone then 1 else 0 := by
  unfold SiteFonts.putSource SiteFonts.setSource
  split
  · rename_i row hrow
    have hlt := t.freshSource hrow
    simp only [hrow, SiteFonts.sourceRow]
    simp
    omega
  · rename_i hnone
    simp [hnone, SiteFonts.sourceRow]

theorem SiteFonts.idFor_putSource (t : SiteFonts) (source : BundleFontSource)
    (keys : List String) (key : String) :
    (t.putSource source).1.idFor keys key = t.idFor (source.sourceKey :: keys) key := by
  by_cases hkey : key = source.sourceKey
  · rw [hkey, ← t.putSource_id source keys]
    unfold SiteFonts.idFor
    rw [find?_putSource_self]
    rfl
  · have hrows : forall k, ((t.putSource source).1.sources.find? k).isNone =
        ((t.sources.find? k).isNone && k != source.sourceKey) := by
      intro k
      by_cases hk : k = source.sourceKey
      · rw [hk, find?_putSource_self]
        simp
      · rw [find?_putSource_of_ne t hk]
        simp [hk]
    unfold SiteFonts.idFor
    rw [find?_putSource_of_ne t hkey, SiteFonts.nextSourceId_putSource, List.filter_cons]
    simp only [hrows]
    cases hnew : (t.sources.find? source.sourceKey).isNone
    · have hall : forall k, ((t.sources.find? k).isNone && k != source.sourceKey) =
          (t.sources.find? k).isNone := by
        intro k
        by_cases hk : k = source.sourceKey
        · rw [hk, hnew]
          rfl
        · simp [hk]
      simp only [hall]
      rfl
    · rw [if_pos rfl, if_pos rfl, List.eraseDups_cons, List.filter_filter,
        List.idxOf_cons_ne _ (Ne.symm hkey), Nat.succ_eq_one_add]
      simp only [Bool.and_comm, bne, Nat.add_assoc]

theorem foldl_putSource_ids (sources : List BundleFontSource) (t : SiteFonts)
    (ids : SortedMap String Nat) (key : String) :
    (sources.foldl (fun (t, ids) source =>
      ((t.putSource source).1, ids.set source.sourceKey (t.putSource source).2))
      (t, ids)).2.find? key =
      if key ∈ sources.map BundleFontSource.sourceKey then
        some (t.idFor (sources.map BundleFontSource.sourceKey) key)
      else ids.find? key := by
  induction sources generalizing t ids with
  | nil => rfl
  | cons source rest ih =>
      rw [List.foldl_cons, ih, SiteFonts.idFor_putSource, List.map_cons]
      by_cases hkey : key = source.sourceKey
      · rw [hkey, SortedMap.find?_set_self,
          t.putSource_id source (rest.map BundleFontSource.sourceKey)]
        simp
      · rw [SortedMap.find?_set_of_ne _ _ hkey]
        simp [hkey]
section Fonts

variable {bundle : ThemeBundle Json} {s s' t t' : SiteFonts}

theorem AgreeUnwritten.symm (h : AgreeUnwritten bundle s s') : AgreeUnwritten bundle s' s where
  first := h.first'
  first' := h.first
  family := fun family hmem hserved => (h.family family hmem hserved).symm
  source := fun key hused => (h.source key hused).symm
  order := fun key key₁ hused hused₁ hlisted hlisted₁ =>
    (h.order key key₁ hused hused₁ hlisted hlisted₁).symm

theorem facesOf_withoutId (bundle : ThemeBundle Json) (family : BundleFontFamily)
    (faceId faceId' : Nat) :
    (facesOf bundle family faceId).map SiteFontFace.withoutId =
      (facesOf bundle family faceId').map SiteFontFace.withoutId := by
  unfold facesOf
  rw [List.mapIdx_eq_zipIdx_map, List.mapIdx_eq_zipIdx_map, List.map_map, List.map_map]
  apply List.map_congr_left
  rintro ⟨⟨face, bytes⟩, index⟩ _
  rfl

variable {family : BundleFontFamily}

theorem facesOf_nonempty {faceId : Nat}
    (h : facesOf bundle family faceId ≠ []) : family.faces ≠ [] := by
  intro hfaces
  apply h
  unfold facesOf
  rw [hfaces]
  rfl

theorem Replaced.sameSource (hs : Replaced bundle s t) (hs' : Replaced bundle s' t')
    (hagree : AgreeUnwritten bundle s s') {key : String} (hused : UsedSource bundle key) :
    Option.Rel (SameSourceId (UsedSource bundle) t t')
      ((applySources s bundle.sources).2.find? key)
      ((applySources s' bundle.sources).2.find? key) := by
  rcases hlast : lastSource bundle.sources key with _ | source
  · rw [(hs.noSource hlast).2, (hs'.noSource hlast).2]
    exact Option.Rel.none
  · rcases hs.source hlast with ⟨id, hrow, hid⟩
    rcases hs'.source hlast with ⟨id', hrow', hid'⟩
    rw [hid, hid']
    refine Option.Rel.some ⟨key, _, _, hused, hrow, hrow', rfl, rfl, ?_⟩
    rw [hagree.source key hused]
    rfl

theorem SameSourceId.symm {used : String -> Prop} {id id' : Nat}
    (h : SameSourceId used t t' id id') : SameSourceId used t' t id' id := by
  rcases h with ⟨key, source, source', hused, hrow, hrow', hid, hid', hsame⟩
  exact ⟨key, source', source, hused, hrow', hrow, hid', hid, hsame.symm⟩

theorem SameFont.symm {used : String -> Prop} {font font' : Nat × SiteFont}
    (h : SameFont used t t' font font') : SameFont used t' t font' font where
  family := h.family.symm
  sourceKind := h.sourceKind.symm
  spec := h.spec.symm
  faces := h.faces.symm
  source := by
    intro hkind
    have hrel := h.source (h.sourceKind.trans hkind)
    revert hrel
    rcases font.2.fontSourceId with _ | id <;> rcases font'.2.fontSourceId with _ | id'
    · intro _
      exact Option.Rel.none
    · intro hrel
      cases hrel
    · intro hrel
      cases hrel
    · intro hrel
      cases hrel with
      | some hid => exact Option.Rel.some hid.symm

variable {font : Nat × SiteFont}

theorem mem_activeFonts :
    font ∈ activeFonts t <-> font ∈ t.fonts.entries ∧ font.2.active = true := by
  unfold activeFonts
  rw [List.mem_insertionSort, List.mem_filter]

theorem eq_of_shown (hfirst : ShowsFirst bundle s)
    (h : font ∈ (activeFonts t).filter isServed) {name : String}
    (hname : font.2.family = name) {ordinal : Nat}
    (hlast : lastFamily 10 bundle.families name = some (ordinal, family)) {first : Nat × SiteFont}
    (hrows : t.rowsOf name = first :: (s.rowsOf name).tail) : font = first := by
  rcases List.mem_filter.mp h with ⟨hactive, hserved⟩
  rcases mem_activeFonts.mp hactive with ⟨hentry, hflag⟩
  rcases lastFamily_some hlast with ⟨hmem, hfamily, _⟩
  have hrow := SiteFonts.mem_rowsOf.mpr ⟨hentry, hname⟩
  rw [hrows] at hrow
  rcases List.mem_cons.mp hrow with heq | htail
  · exact heq
  · rw [hfirst family hmem font (hfamily ▸ htail) hflag] at hserved
    cases hserved

theorem Replaced.row (hs : Replaced bundle s t) (hfirst : ShowsFirst bundle s)
    (h : font ∈ (activeFonts t).filter isServed) :
    exists ordinal family faceId,
      lastFamily 10 bundle.families font.2.family = some (ordinal, family) ∧
      font.2 = fontRow bundle (applySources s bundle.sources).2 ordinal family faceId
        (s.fontFlag font.2.family) := by
  rcases hlast : lastFamily 10 bundle.families font.2.family with _ | ⟨ordinal, family⟩
  · have hentry := (mem_activeFonts.mp (List.mem_filter.mp h).1).1
    have hmem : font ∈ t.rowsOf font.2.family := SiteFonts.mem_rowsOf.mpr ⟨hentry, rfl⟩
    rw [hs.noFamily hlast] at hmem
    cases hmem
  · rcases hs.family hlast with ⟨id, faceId, hrows⟩
    have hfont := eq_of_shown hfirst h rfl hlast hrows
    exact ⟨ordinal, family, faceId, rfl, congrArg Prod.snd hfont⟩

theorem Replaced.partner (hs : Replaced bundle s t) (hs' : Replaced bundle s' t')
    (hagree : AgreeUnwritten bundle s s') (h : font ∈ (activeFonts t).filter isServed) :
    exists font', font' ∈ (activeFonts t').filter isServed ∧
      (SameFont (UsedSource bundle) t t' font font' ∧ font.2.ordinal = font'.2.ordinal) := by
  rcases List.mem_filter.mp h with ⟨hactive, hserved⟩
  rcases mem_activeFonts.mp hactive with ⟨hentry, hflag⟩
  rcases hs.row hagree.first h with ⟨ordinal, family, faceId, hlast, hrow⟩
  rcases lastFamily_some hlast with ⟨hmem, hname, _⟩
  rcases hs'.family hlast with ⟨id', faceId', hrows'⟩
  have hfaces : font.2.faces = facesOf bundle family faceId := by rw [hrow]; rfl
  have hkind : font.2.sourceKind = family.sourceKind := by rw [hrow]; rfl
  have hshown : family.sourceKind = kSiteFontSourceKindCdn ∨ family.faces ≠ [] := by
    unfold isServed at hserved
    rw [decide_eq_true_eq, hkind, hfaces] at hserved
    exact hserved.imp id facesOf_nonempty
  have hsame : s.fontFlag font.2.family = s'.fontFlag font.2.family := by
    rw [← hname]
    exact hagree.family family hmem hshown
  have hactive' : s'.fontFlag font.2.family = true := by
    rw [← hsame, ← hflag]
    conv_rhs => rw [hrow]
    rfl
  rw [hactive'] at hrows'
  have hmem' : (id', fontRow bundle (applySources s' bundle.sources).2 ordinal family faceId'
      true) ∈ t'.rowsOf font.2.family := by
    rw [hrows']
    exact List.mem_cons_self
  rw [SiteFonts.mem_rowsOf] at hmem'
  have hsameFont : SameFont (UsedSource bundle) t t' font (id', fontRow bundle
      (applySources s' bundle.sources).2 ordinal family faceId' true) :=
    { family := hmem'.2.symm
      sourceKind := hkind
      spec := by rw [hrow]; rfl
      faces := by
        rw [hfaces]
        exact facesOf_withoutId bundle family faceId faceId'
      source := by
        intro hcdn
        rw [hkind] at hcdn
        rw [hrow]
        unfold fontRow
        simp only [hcdn, decide_true, if_true]
        exact hs.sameSource hs' hagree ⟨family, hmem, hcdn, rfl⟩ }
  refine ⟨_, List.mem_filter.mpr ⟨mem_activeFonts.mpr ⟨hmem'.1, rfl⟩, ?_⟩, hsameFont, ?_⟩
  · have hnonempty : facesOf bundle family faceId = [] <->
        facesOf bundle family faceId' = [] := by
      rw [← List.map_eq_nil_iff (f := SiteFontFace.withoutId),
        facesOf_withoutId bundle family faceId faceId', List.map_eq_nil_iff]
    unfold isServed at *
    rw [decide_eq_true_eq] at *
    rw [hkind, hfaces] at hserved
    exact hserved.imp id (fun hne hnil => hne (hnonempty.mpr hnil))
  · rw [hrow]
    rfl

theorem Replaced.shown_sorted (hs : Replaced bundle s t) (hfirst : ShowsFirst bundle s) :
    ((activeFonts t).filter isServed).Pairwise
      (fun font font' => font.2.ordinal < font'.2.ordinal) := by
  have hle : ((activeFonts t).filter isServed).Pairwise
      (fun font font' => font.2.ordinal ≤ font'.2.ordinal) :=
    (List.pairwise_insertionSort OrdinalLe _).filter _
  have hne : ((activeFonts t).filter isServed).Pairwise
      (fun font font' => font.2.ordinal ≠ font'.2.ordinal) := by
    have hnodup : ((activeFonts t).filter isServed).Nodup := by
      apply List.Nodup.filter
      unfold activeFonts
      rw [(List.perm_insertionSort _ _).nodup_iff]
      have hentries : t.fonts.entries.Nodup :=
        t.fonts.sorted.imp (fun {e e'} h heq => by rw [heq] at h; exact lt_irrefl _ h)
      exact List.Pairwise.filter _ hentries
    refine List.Pairwise.imp_of_mem ?_ hnodup
    intro font font' hfont hfont' hdiff hordinal
    apply hdiff
    rcases hs.row hfirst hfont with ⟨o, f, i, hlast, hrow⟩
    rcases hs.row hfirst hfont' with ⟨o', f', i', hlast', hrow'⟩
    have ho : o = font.2.ordinal := by rw [hrow]; rfl
    have ho' : o' = font'.2.ordinal := by rw [hrow']; rfl
    rw [ho] at hlast
    rw [ho', ← hordinal] at hlast'
    have hname := lastFamily_inj hlast hlast'
    rcases hs.family hlast with ⟨id, faceId, hrows⟩
    rw [eq_of_shown hfirst hfont rfl hlast hrows,
      eq_of_shown hfirst hfont' hname.symm hlast hrows]
  exact (hle.and hne).imp (fun h => lt_of_le_of_ne h.1 h.2)

theorem Replaced.id_of_row (hs : Replaced bundle s t) {key : String} {row : SiteFontSource}
    (h : t.sources.find? key = some row) :
    key ∈ bundle.sourceKeys ∧ row.id = s.idFor bundle.sourceKeys key := by
  have hids := foldl_putSource_ids bundle.sources s SortedMap.empty key
  rcases hlast : lastSource bundle.sources key with _ | source
  · rw [(hs.noSource hlast).1] at h
    cases h
  · rcases hs.source hlast with ⟨id, hrow, hid⟩
    rw [hrow] at h
    cases h
    unfold applySources at hid
    rw [hid] at hids
    split at hids
    · exact ⟨‹_›, Option.some.inj hids⟩
    · cases hids

theorem Replaced.sameServed (hs : Replaced bundle s t) (hs' : Replaced bundle s' t')
    (hagree : AgreeUnwritten bundle s s') : SameServed (UsedSource bundle) t t' where
  fonts := by
    have hpairs : List.Forall₂ (fun font font' => SameFont (UsedSource bundle) t t' font font' ∧
        font.2.ordinal = font'.2.ordinal)
        ((activeFonts t).filter isServed) ((activeFonts t').filter isServed) := by
      apply forall₂_of_sorted (f := fun font => font.2.ordinal) (g := fun font => font.2.ordinal)
      · exact hs.shown_sorted hagree.first
      · exact hs'.shown_sorted hagree.first'
      · exact fun _ _ h => h.2
      · exact fun font h => hs.partner hs' hagree h
      · intro font' h
        rcases hs'.partner hs hagree.symm h with ⟨font, hmem, hsame, hordinal⟩
        exact ⟨font, hmem, hsame.symm, hordinal.symm⟩
    exact hpairs.imp (fun _ _ h => h.1)
  order := by
    rintro k l k' l' ⟨id, id', hk, hk', hsame⟩ ⟨id₁, id₁', hl, hl', hsame₁⟩
    rcases hsame with ⟨key, row, row', hused, hrow, hrow', hid, hid', _⟩
    rcases hsame₁ with ⟨key₁, row₁, row₁', hused₁, hrow₁, hrow₁', hid₁, hid₁', _⟩
    rcases hs.id_of_row hrow with ⟨hlisted, hown⟩
    rcases hs.id_of_row hrow₁ with ⟨hlisted₁, hown₁⟩
    rw [hk, hk', hl, hl', ← hid, ← hid', ← hid₁, ← hid₁', hown, hown₁, (hs'.id_of_row hrow').2,
      (hs'.id_of_row hrow₁').2]
    exact hagree.order key key₁ hused hused₁ hlisted hlisted₁

/-!
# Faces that are served
-/

/-- A family with a face that a page can load. -/
def HasServableFace (bundle : ThemeBundle Json) (family : BundleFontFamily) : Prop :=
  isValidFontFamilyName family.family = true ∧
    exists face bytes, face ∈ family.faces ∧ bundle.assets.find? face.file = some bytes ∧
      fontFormatFromMagicBytes bytes ≠ ""

theorem describeFace_family {faceUrlPrefix family : String} {face : SiteFontFace}
    {descriptor : FontFaceDescriptor}
    (h : describeFace faceUrlPrefix family face = some descriptor) :
    descriptor.family = family := by
  unfold describeFace at h
  split at h
  · cases h
  · cases h
    rfl

theorem mem_servedFaces_family {faceUrlPrefix : String}
    {descriptor : FontFaceDescriptor} (h : descriptor ∈ servedFaces faceUrlPrefix font) :
    descriptor.family = font.2.family := by
  rcases List.mem_filterMap.mp h with ⟨face, _, hface⟩
  exact describeFace_family hface

theorem exists_mem_facesOf {bundle : ThemeBundle Json}
    (h : HasServableFace bundle family) (faceId : Nat) :
    exists face, face ∈ facesOf bundle family faceId ∧ face.format ≠ "" := by
  rcases h with ⟨_, face, bytes, hface, hbytes, hformat⟩
  have hmem : (face, bytes) ∈ family.faces.filterMap (fun face =>
      (bundle.assets.find? face.file).map (fun bytes => (face, bytes))) :=
    List.mem_filterMap.mpr ⟨face, hface, by rw [hbytes]; rfl⟩
  rcases List.mem_iff_getElem.mp hmem with ⟨index, hindex, hget⟩
  refine ⟨_, List.mem_mapIdx.mpr ⟨index, hindex, rfl⟩, ?_⟩
  rw [hget]
  exact hformat

theorem isServed_of_servedFaces {faceUrlPrefix : String}
    {descriptor : FontFaceDescriptor} (h : descriptor ∈ servedFaces faceUrlPrefix font) :
    isServed font = true := by
  by_contra hnot
  rw [servedFaces_of_not_served (by simpa using hnot)] at h
  cases h

theorem Replaced.serves_iff (hs : Replaced bundle s t) (hfirst : ShowsFirst bundle s)
    {name : String} {ordinal : Nat}
    (hlast : lastFamily 10 bundle.families name = some (ordinal, family))
    (hface : HasServableFace bundle family) (faceUrlPrefix : String) :
    (exists descriptor, descriptor ∈ (loadSiteFontInventory t faceUrlPrefix).withoutIds.faces ∧
      descriptor.family = name) <-> s.fontFlag name = true := by
  rcases hs.family hlast with ⟨id, faceId, hrows⟩
  have hname := (lastFamily_some hlast).2.1
  constructor
  · rintro ⟨descriptor, hmem, hdescriptor⟩
    rcases List.mem_map.mp hmem with ⟨served, hserved, hsame⟩
    rcases List.mem_flatMap.mp hserved with ⟨font, hfont, hin⟩
    have hfamily : font.2.family = name := by
      rw [← mem_servedFaces_family hin, ← hdescriptor, ← hsame]
    have hshown := List.mem_filter.mpr ⟨hfont, isServed_of_servedFaces hin⟩
    have hactive := (mem_activeFonts.mp hfont).2
    rw [eq_of_shown hfirst hshown hfamily hlast hrows] at hactive
    exact hactive
  · intro hflag
    rw [hflag] at hrows
    have hrow : (id, fontRow bundle (applySources s bundle.sources).2 ordinal family faceId
        true) ∈ t.rowsOf name := by
      rw [hrows]
      exact List.mem_cons_self
    rw [SiteFonts.mem_rowsOf] at hrow
    rcases exists_mem_facesOf hface faceId with ⟨face, hmem, hformat⟩
    have hdescribe : exists descriptor,
        describeFace faceUrlPrefix family.family face = some descriptor := by
      unfold describeFace
      rw [if_neg (by simp [hface.1, hformat])]
      exact ⟨_, rfl⟩
    rcases hdescribe with ⟨descriptor, hdescriptor⟩
    refine ⟨descriptor.withoutUrl, List.mem_map_of_mem (List.mem_flatMap.mpr
      ⟨_, mem_activeFonts.mpr ⟨hrow.1, rfl⟩, List.mem_filterMap.mpr
        ⟨face, (List.mem_insertionSort _).mpr hmem, hdescriptor⟩⟩), ?_⟩
    exact (describeFace_family hdescriptor).trans hname

theorem Replaced.flags_agree (hs : Replaced bundle s t) (hs' : Replaced bundle s' t')
    (hfirst : ShowsFirst bundle s) (hfirst' : ShowsFirst bundle s') {faceUrlPrefix : String}
    (h : (loadSiteFontInventory t faceUrlPrefix).withoutIds =
      (loadSiteFontInventory t' faceUrlPrefix).withoutIds) {name : String} {ordinal : Nat}
    (hlast : lastFamily 10 bundle.families name = some (ordinal, family))
    (hface : HasServableFace bundle family) : s.fontFlag name = s'.fontFlag name := by
  have hiff := hs.serves_iff hfirst hlast hface faceUrlPrefix
  rw [h, hs'.serves_iff hfirst' hlast hface faceUrlPrefix] at hiff
  exact Bool.eq_iff_iff.mpr hiff.symm

end Fonts

/-!
# Settings and images
-/

section Look

variable {app : Type} {bundle : ThemeBundle Json}

def tokenKeys : List String := siteThemeTokens.map ThemeToken.key

theorem mem_lookWrites_replace {key : String} (hkey : key ∈ contentKeys ∨ key ∈ tokenKeys) :
    exists write, write ∈ lookWrites bundle false ∧ write.1 = key := by
  rcases hkey with hcontent | htoken
  · have hwrite : exists write, contentWrite bundle false key = some write := by
      unfold contentWrite
      split <;> exact ⟨_, rfl⟩
    rcases hwrite with ⟨write, hwrite⟩
    exact ⟨write, (lookWrites_content hcontent).mpr hwrite⟩
  · rcases List.mem_map.mp htoken with ⟨token, hmem, hkey⟩
    have hwrite : exists write, tokenWrite bundle false token.key = some write := by
      unfold tokenWrite
      split <;> exact ⟨_, rfl⟩
    rcases hwrite with ⟨write, hwrite⟩
    exact ⟨write, List.mem_append_right _ (List.mem_filterMap.mpr ⟨token, hmem, hwrite⟩),
      (tokenWrite_key hwrite).trans hkey⟩

theorem foldl_putAsset_eq (images : List (String × FileBytes))
    (assets : SortedMap String SiteAsset) :
    images.foldl putAsset assets =
      (images.map (fun image => (image.1, SiteAsset.mk (imageTypeFromMagicBytes image.2)
        image.2))).foldl (fun m write => m.set write.1 write.2) assets := by
  rw [List.foldl_map]
  rfl

theorem placeAssets_replace (assets assets' : SortedMap String SiteAsset) :
    placeAssets bundle false assets = placeAssets bundle false assets' := by
  unfold placeAssets
  simp only [Bool.false_eq_true, if_false]
  apply SortedMap.ext_find?
  intro name
  rw [SortedMap.find?_filter, SortedMap.find?_filter]
  by_cases hname : name ∈ (imagesOf bundle).keys
  · rcases List.mem_map.mp hname with ⟨image, himage, hk⟩
    rw [foldl_putAsset_eq, foldl_putAsset_eq, find?_foldl_set_congr]
    exact ⟨_, List.mem_map_of_mem himage, hk⟩
  · have hnone : forall asset : Option SiteAsset,
        asset.filter (fun _ => decide (name ∈ (imagesOf bundle).keys)) = none := by
      intro asset
      cases asset <;> simp [hname]
    rw [hnone, hnone]

/-- The same settings, images and served fonts, up to ids. -/
structure SameLook (site site' : Site app) : Prop where
  settings : forall key, key ∈ contentKeys ∨ key ∈ tokenKeys ->
    site.lookupSecret key = site'.lookupSecret key
  assets : site.assets = site'.assets
  fonts : forall faceUrlPrefix, (loadSiteFontInventory site.fonts faceUrlPrefix).withoutIds =
    (loadSiteFontInventory site'.fonts faceUrlPrefix).withoutIds

theorem replaceImport_effects {sections : SectionRegistry app} {json : Json}
    {assets : SortedMap String FileBytes} {options : ThemeBundleImportOptions}
    {start site : Site app} {report first : BundleImportReport}
    (hleave : Leave (fun site => (site.secrets, site.assets, site.fonts)) sections)
    (hmerge : options.merge = false) (hdry : options.dryRun = false)
    (hdecide : decideImport sections json assets options = .ok (bundle, first))
    (h : importThemeBundleJson sections json assets options start = (.ok report, site))
    (hok : report.ok = true) :
    site.secrets = (lookWrites bundle false).foldl
        (fun m write => m.set write.1 write.2) start.secrets ∧
      site.assets = placeAssets bundle false start.assets ∧
      Replaced bundle start.fonts site.fonts := by
  rcases importThemeBundleJson_ok h hok hdry with ⟨bundle', first', answer, happlied⟩
  have hsame := happlied.decided
  rw [hdecide] at hsame
  cases hsame
  have hview : (fun site : Site app => (site.secrets, site.assets, site.fonts))
      (importSections sections options.strictness options.merge bundle
        bundle.appSections.entries first.problems (applyLook bundle options.merge start)).2 =
      (fun site : Site app => (site.secrets, site.assets, site.fonts))
        (applyLook bundle options.merge start) := hleave.importSections _ _ _
  rw [happlied.imported, hmerge, applyLook_eq] at hview
  dsimp only at hview
  rw [Prod.mk.injEq, Prod.mk.injEq] at hview
  rw [hview.1, hview.2.1, hview.2.2]
  exact ⟨rfl, rfl, applyBundleFonts_replaced bundle start.fonts⟩

/-- Replacing imports of one theme that report ok leave the same look where what they do
not write agrees; and where the look is the same and only first rows show something, the
flags agree on every family with a servable face. -/
theorem replaceImport_sameLook {sections : SectionRegistry app} {json : Json}
    {assets : SortedMap String FileBytes} {options : ThemeBundleImportOptions}
    {start start' site site' : Site app} {report report' first : BundleImportReport}
    (hleave : Leave (fun site => (site.secrets, site.assets, site.fonts)) sections)
    (hmerge : options.merge = false) (hdry : options.dryRun = false)
    (hdecide : decideImport sections json assets options = .ok (bundle, first))
    (h : importThemeBundleJson sections json assets options start = (.ok report, site))
    (hok : report.ok = true)
    (h' : importThemeBundleJson sections json assets options start' = (.ok report', site'))
    (hok' : report'.ok = true) :
    (AgreeUnwritten bundle start.fonts start'.fonts -> SameLook site site') ∧
      (SameLook site site' -> ShowsFirst bundle start.fonts -> ShowsFirst bundle start'.fonts ->
        forall name ordinal family,
        lastFamily 10 bundle.families name = some (ordinal, family) ->
        HasServableFace bundle family ->
          start.fonts.fontFlag name = start'.fonts.fontFlag name) := by
  rcases replaceImport_effects hleave hmerge hdry hdecide h hok with
    ⟨hsecrets, hassets, hreplaced⟩
  rcases replaceImport_effects hleave hmerge hdry hdecide h' hok' with
    ⟨hsecrets', hassets', hreplaced'⟩
  constructor
  · intro hagree
    constructor
    · intro key hkey
      unfold Site.lookupSecret
      rw [hsecrets, hsecrets', find?_foldl_set_congr (mem_lookWrites_replace hkey)]
    · rw [hassets, hassets']
      exact placeAssets_replace _ _
    · intro faceUrlPrefix
      exact loadSiteFontInventory_same (hreplaced.sameServed hreplaced' hagree) faceUrlPrefix
  · intro hlook hfirst hfirst' name ordinal family hlast hface
    exact hreplaced.flags_agree hreplaced' hfirst hfirst' (hlook.fonts "") hlast hface

end Look

def studioTheme : Json :=
  .obj [("fonts", .obj [("families", .arr [.obj [
      ("faces", .arr [.obj [("file", .str "studio.woff2"), ("style", .str "normal"),
        ("weight", .int 400)]]),
      ("fallback", .str "sans-serif"), ("family", .str "Studio"),
      ("source_kind", .str "uploaded")]])]),
    ("format", .str "honuware.site-theme"), ("format_version", .int 1)]

def studioFamily : BundleFontFamily where
  family := "Studio"
  fallback := "sans-serif"
  sourceKind := "uploaded"
  sourceKey := ""
  spec := ""
  faces := [⟨400, "normal", "studio.woff2"⟩]

def studioAssets : SortedMap String FileBytes :=
  SortedMap.empty.set "studio.woff2" (asciiBytes "wOF2")

def studioRow (active : Bool) : SiteFont where
  family := "Studio"
  fallback := "serif"
  sourceKind := "system"
  fontSourceId := none
  spec := ""
  ordinal := 40
  active := active
  faces := []

/-- A site that has used another theme, with the family in use or retired. -/
def usedSite (active : Bool) : Site Unit where
  secrets := SortedMap.empty.set "site_hero_headline" "Welcome"
  assets := SortedMap.empty.set "old.png" ⟨"png", [0x89]⟩
  fonts := SiteFonts.empty.addFont (studioRow active)
  app := ()

def studioReport : BundleImportReport :=
  { BundleImportReport.initial with
    ok := true
    contentChanges := 16
    tokenChanges := 86
    fontFamilyChanges := 1
    assetChanges := 1 }

def studioSite (start : Site Unit) : Site Unit :=
  (importThemeBundleJson skipsRow studioTheme studioAssets ⟨.strict, false, false⟩ start).2

theorem import_studio_empty : importThemeBundleJson skipsRow studioTheme studioAssets
    ⟨.strict, false, false⟩ emptySite = (.ok studioReport, studioSite emptySite) := by
  have hreport : (importThemeBundleJson skipsRow studioTheme studioAssets
      ⟨.strict, false, false⟩ emptySite).1 = .ok studioReport := by decide
  rw [← hreport]
  rfl

theorem import_studio_used (active : Bool) : importThemeBundleJson skipsRow studioTheme
    studioAssets ⟨.strict, false, false⟩ (usedSite active) =
      (.ok studioReport, studioSite (usedSite active)) := by
  have hreport : forall active, (importThemeBundleJson skipsRow studioTheme studioAssets
      ⟨.strict, false, false⟩ (usedSite active)).1 = .ok studioReport := by decide
  rw [← hreport active]
  rfl

theorem leave_fonts_skipsRow :
    Leave (fun site => (site.secrets, site.assets, site.fonts)) skipsRow := by
  intro name importer h bundle body merge site
  unfold skipsRow at h
  split at h
  · cases h
    rfl
  · cases h

theorem replaceImport_sameLook_studio :
    SameLook (studioSite emptySite) (studioSite (usedSite true)) := by
  rcases hdecide : decideImport skipsRow studioTheme studioAssets ⟨.strict, false, false⟩
    with refused | ⟨bundle, first⟩
  · have hnone : (decideImport skipsRow studioTheme studioAssets
        ⟨.strict, false, false⟩).toOption.isSome = true := by decide
    rw [hdecide] at hnone
    cases hnone
  · have hfamilies : (decideImport skipsRow studioTheme studioAssets
        ⟨.strict, false, false⟩).toOption.map (fun decided => decided.1.families) =
          some [studioFamily] := by decide
    rw [hdecide] at hfamilies
    have hone : bundle.families = [studioFamily] := Option.some.inj hfamilies
    have hunused : forall key, Not (UsedSource bundle key) := by
      rintro key ⟨family, hmem, hcdn, _⟩
      rw [hone, List.mem_singleton] at hmem
      rw [hmem] at hcdn
      exact absurd hcdn (by decide)
    refine (replaceImport_sameLook leave_fonts_skipsRow rfl rfl hdecide import_studio_empty rfl
      (import_studio_used true) rfl).1 ⟨?_, ?_, ?_, ?_, ?_⟩
    · intro family _ e he
      cases he
    · intro family hmem e he
      rw [hone, List.mem_singleton] at hmem
      rw [hmem] at he
      cases he
    · intro family hmem _
      rw [hone, List.mem_singleton] at hmem
      rw [hmem]
      decide
    · intro key hused
      exact absurd hused (hunused key)
    · intro key _ hused
      exact absurd hused (hunused key)

/-- A family that was retired stays retired, and its face is not served. -/
theorem replaceImport_retired :
    Not (forall (json : Json) (assets : SortedMap String FileBytes)
      (options : ThemeBundleImportOptions) (start start' site site' : Site Unit)
      (report report' : BundleImportReport),
      options.merge = false -> options.dryRun = false ->
      importThemeBundleJson skipsRow json assets options start = (.ok report, site) ->
      report.ok = true ->
      importThemeBundleJson skipsRow json assets options start' = (.ok report', site') ->
      report'.ok = true -> SameLook site site') := by
  intro h
  have hlook := h _ _ _ _ _ _ _ _ _ rfl rfl import_studio_empty rfl
    (import_studio_used false) rfl
  exact absurd (hlook.fonts "/api/site_font_face/") (by decide)

end Branding
end ServerComponents
