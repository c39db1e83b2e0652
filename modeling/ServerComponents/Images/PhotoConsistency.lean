import ServerComponents.Images.ImageHelper
import ServerComponents.Relational.Ownership

/-!
# Photos that belong together

In the middle of an operation some instances are referred to by no photo, and some source
photos belong to no item.  These are listed; every statement changes the lists by what it
adds or deletes.
-/

namespace ServerComponents
namespace Images

open Relational SqlUtil

def PhotoDb.references (db : PhotoDb) : List (SourcePhoto ⊕ ScaledPhoto) :=
  db.sourcePhotos.rows.map Sum.inl ++ db.scaledPhotos.rows.map Sum.inr

theorem PhotoDb.references_filter (db : PhotoDb) (selSource : SourcePhoto -> Bool)
    (selScaled : ScaledPhoto -> Bool) :
    db.references.filter (Sum.elim selSource selScaled) =
      (db.sourcePhotos.rows.filter selSource).map Sum.inl ++
        (db.scaledPhotos.rows.filter selScaled).map Sum.inr := by
  unfold PhotoDb.references
  rw [List.filter_append, List.filter_map, List.filter_map]
  rfl

theorem PhotoDb.references_reject (db : PhotoDb) (selSource : SourcePhoto -> Bool)
    (selScaled : ScaledPhoto -> Bool) :
    db.references.filter (fun r => ! Sum.elim selSource selScaled r) =
      (db.sourcePhotos.rows.filter (fun s => ! selSource s)).map Sum.inl ++
        (db.scaledPhotos.rows.filter (fun c => ! selScaled c)).map Sum.inr := by
  unfold PhotoDb.references
  rw [List.filter_append, List.filter_map, List.filter_map]
  rfl

theorem PhotoDb.deleteInstance_of_unreferred (db : PhotoDb) {id : Nat}
    (hsource : forall s, s ∈ db.sourcePhotos.rows -> s.photoInstanceId ≠ id)
    (hscaled : forall c, c ∈ db.scaledPhotos.rows -> c.photoInstanceId ≠ id) :
    db.deleteInstance id =
      { db with photoInstances := db.photoInstances.delete (fun i => i.id == id) } := by
  have hgone : db.sourcePhotos.rows.filter (fun s => s.photoInstanceId == id) = [] := by
    rw [List.filter_eq_nil_iff]
    intro s hs
    simpa using hsource s hs
  have hsources : db.deleteSources (fun s => s.photoInstanceId == id) = db := by
    unfold PhotoDb.deleteSources
    rw [hgone]
    dsimp only
    rw [Table.delete_of_none (fun s hs => beq_eq_false_iff_ne.mpr (hsource s hs)),
      Table.delete_of_none (fun _ _ => by simp), Table.delete_of_none (fun _ _ => by simp)]
  unfold PhotoDb.deleteInstance
  rw [hsources]
  dsimp only
  rw [Table.delete_of_none (fun c hc => beq_eq_false_iff_ne.mpr (hscaled c hc))]

def instanceHeld : SourcePhoto ⊕ ScaledPhoto -> Nat :=
  Sum.elim (fun s => s.photoInstanceId) (fun c => c.photoInstanceId)

/-- What is to be served of a source for a box: a vector itself, a raster resized. -/
def ScaledFrom (library : ImageLibrary) (source : PhotoInstance) (width height : Int)
    (photo : PhotoData) : Prop :=
  if isVectorType source.type = true then
    photo = vectorData (byteaHexDecode source.photo) source.type
  else
    exists imageTypeEnum, imageTypeFromString source.type = some imageTypeEnum ∧
      resized library source imageTypeEnum width height = .ok photo

/-- The instances in `loose` are referred to by no photo and the source photos in `unlinked`
belong to no item; all others are referred to, and belong, once. -/
structure Consistent (library : ImageLibrary) (loose unlinked : List Nat) (db : PhotoDb) :
    Prop where
  instances : Owned (db.photoInstances.rows.map (fun i => i.id)) db.references instanceHeld loose
  sources : Owned (db.sourcePhotos.rows.map (fun s => s.id)) db.tableItemPhotos.rows
    (fun t => t.sourcePhotoId) unlinked
  scaled : forall c, c ∈ db.scaledPhotos.rows ->
    exists s, s ∈ db.sourcePhotos.rows ∧ s.id = c.sourcePhotoId
  supported : forall t, t ∈ db.tableItemPhotos.rows -> t.tableName ∈ db.photoSupportTables
  derived : forall c s i j, c ∈ db.scaledPhotos.rows -> s ∈ db.sourcePhotos.rows ->
    i ∈ db.photoInstances.rows -> j ∈ db.photoInstances.rows ->
    s.id = c.sourcePhotoId -> i.id = s.photoInstanceId -> j.id = c.photoInstanceId ->
      ScaledFrom library i c.width c.height j.data

theorem consistent_fresh (library : ImageLibrary) (photoSupportTables : List String) :
    Consistent library [] [] (PhotoDb.fresh photoSupportTables) where
  instances := Owned.nil instanceHeld
  sources := Owned.nil _
  scaled := fun _ hc => nomatch hc
  supported := fun _ ht => nomatch ht
  derived := fun _ _ _ _ hc => nomatch hc

namespace Consistent

variable {library : ImageLibrary} {loose unlinked : List Nat} {db : PhotoDb}

theorem source_mem_references {s : SourcePhoto} (hs : s ∈ db.sourcePhotos.rows) :
    Sum.inl s ∈ db.references :=
  List.mem_append_left _ (List.mem_map_of_mem hs)

theorem scaled_mem_references {c : ScaledPhoto} (hc : c ∈ db.scaledPhotos.rows) :
    Sum.inr c ∈ db.references :=
  List.mem_append_right _ (List.mem_map_of_mem hc)

theorem instance_of_reference (h : Consistent library loose unlinked db)
    {r : SourcePhoto ⊕ ScaledPhoto} (hr : r ∈ db.references) :
    exists i, i ∈ db.photoInstances.rows ∧ i.id = instanceHeld r :=
  List.mem_map.mp (h.instances.held_mem hr)

theorem fresh_of_noClash {row : Type} {clash : row -> row -> Prop} {t table : Table row clash}
    {r : row} (id : row -> Nat) (hclash : forall r', id r' = id r -> clash r' r)
    (hrows : table.rows = t.rows ++ [r]) : Not (id r ∈ t.rows.map id) := by
  intro hmem
  rcases List.mem_map.mp hmem with ⟨r', hr', heq⟩
  have hpairwise := table.noClash
  rw [hrows, List.pairwise_append] at hpairwise
  exact hpairwise.2.2 r' hr' r (List.mem_singleton_self r) (hclash r' heq)

/-!
# Insertions
-/

theorem addInstance (h : Consistent library loose unlinked db)
    {table : Table PhotoInstance PhotoInstance.Clash} {i : PhotoInstance}
    (hrows : table.rows = db.photoInstances.rows ++ [i]) :
    Consistent library (i.id :: loose) unlinked { db with photoInstances := table } where
  instances := by
    have hfresh := fresh_of_noClash (fun i : PhotoInstance => i.id) (fun _ heq => heq) hrows
    have hadd := h.instances.add_key hfresh
    dsimp only
    rw [hrows, List.map_append, List.map_singleton]
    exact hadd
  sources := h.sources
  scaled := h.scaled
  supported := h.supported
  derived := by
    intro c s i₁ j hc hs hi hj hsource hinstance hscaled
    have hfresh := fresh_of_noClash (fun i : PhotoInstance => i.id) (fun _ heq => heq) hrows
    have hold : forall (k : PhotoInstance) (r : SourcePhoto ⊕ ScaledPhoto), k ∈ table.rows ->
        r ∈ db.references -> k.id = instanceHeld r -> k ∈ db.photoInstances.rows := by
      intro k r hk hr heq
      rw [hrows] at hk
      rcases List.mem_append.mp hk with hk | hk
      · exact hk
      · have hmem := h.instances.held_mem hr
        rw [← heq, List.mem_singleton.mp hk] at hmem
        exact absurd hmem hfresh
    exact h.derived c s i₁ j hc hs (hold i₁ _ hi (source_mem_references hs) hinstance)
      (hold j _ hj (scaled_mem_references hc) hscaled) hsource hinstance hscaled

theorem addSource {s : SourcePhoto}
    (h : Consistent library (s.photoInstanceId :: loose) unlinked db)
    {table : Table SourcePhoto SourcePhoto.Clash}
    (hrows : table.rows = db.sourcePhotos.rows ++ [s]) :
    Consistent library loose (s.id :: unlinked) { db with sourcePhotos := table } where
  instances := by
    have hadd : Owned _ (db.references ++ [Sum.inl s]) instanceHeld loose :=
      h.instances.add_row
    apply hadd.of_perm
    apply List.Perm.map
    unfold PhotoDb.references
    dsimp only
    rw [hrows, List.map_append, List.map_singleton, List.append_assoc, List.append_assoc]
    exact List.Perm.append_left _ List.perm_append_comm
  sources := by
    have hfresh := fresh_of_noClash (fun s : SourcePhoto => s.id) (fun _ heq => heq) hrows
    have hadd := h.sources.add_key hfresh
    dsimp only
    rw [hrows, List.map_append, List.map_singleton]
    exact hadd
  scaled := by
    intro c hc
    rcases h.scaled c hc with ⟨s', hs', heq⟩
    exact ⟨s', by rw [hrows]; exact List.mem_append_left _ hs', heq⟩
  supported := h.supported
  derived := by
    intro c s₁ i j hc hs hi hj hsource hinstance hscaled
    have hfresh := fresh_of_noClash (fun s : SourcePhoto => s.id) (fun _ heq => heq) hrows
    have hs' : s₁ ∈ table.rows := hs
    rw [hrows] at hs'
    rcases List.mem_append.mp hs' with hold | hnew
    · exact h.derived c s₁ i j hc hold hi hj hsource hinstance hscaled
    · rcases h.scaled c hc with ⟨s₂, hs₂, heq⟩
      rw [List.mem_singleton.mp hnew] at hsource
      exact absurd (List.mem_map.mpr ⟨s₂, hs₂, heq.trans hsource.symm⟩) hfresh

theorem addScaled {c : ScaledPhoto}
    (h : Consistent library (c.photoInstanceId :: loose) unlinked db)
    {table : Table ScaledPhoto ScaledPhoto.Clash}
    (hrows : table.rows = db.scaledPhotos.rows ++ [c])
    (hsource : exists s, s ∈ db.sourcePhotos.rows ∧ s.id = c.sourcePhotoId)
    (hderived : forall s i j, s ∈ db.sourcePhotos.rows -> i ∈ db.photoInstances.rows ->
      j ∈ db.photoInstances.rows -> s.id = c.sourcePhotoId -> i.id = s.photoInstanceId ->
      j.id = c.photoInstanceId -> ScaledFrom library i c.width c.height j.data) :
    Consistent library loose unlinked { db with scaledPhotos := table } where
  instances := by
    have hadd : Owned _ (db.references ++ [Sum.inr c]) instanceHeld loose :=
      h.instances.add_row
    apply hadd.of_perm
    apply List.Perm.map
    unfold PhotoDb.references
    dsimp only
    rw [hrows, List.map_append, List.map_singleton, List.append_assoc]
  sources := h.sources
  scaled := by
    intro c' hc'
    have hmem : c' ∈ table.rows := hc'
    rw [hrows] at hmem
    rcases List.mem_append.mp hmem with hold | hnew
    · exact h.scaled c' hold
    · rw [List.mem_singleton.mp hnew]
      exact hsource
  supported := h.supported
  derived := by
    intro c' s i j hc' hs hi hj hsource' hinstance hscaled
    have hmem : c' ∈ table.rows := hc'
    rw [hrows] at hmem
    rcases List.mem_append.mp hmem with hold | hnew
    · exact h.derived c' s i j hold hs hi hj hsource' hinstance hscaled
    · rw [List.mem_singleton.mp hnew] at hsource' hscaled ⊢
      exact hderived s i j hs hi hj hsource' hinstance hscaled

theorem addLink {t : TableItemPhoto}
    (h : Consistent library loose (t.sourcePhotoId :: unlinked) db)
    {table : Table TableItemPhoto TableItemPhoto.Clash}
    (hrows : table.rows = db.tableItemPhotos.rows ++ [t])
    (hsupported : t.tableName ∈ db.photoSupportTables) :
    Consistent library loose unlinked { db with tableItemPhotos := table } where
  instances := h.instances
  sources := by
    have hadd : Owned _ (db.tableItemPhotos.rows ++ [t]) _ unlinked := h.sources.add_row
    dsimp only
    rw [hrows]
    exact hadd
  scaled := h.scaled
  supported := by
    intro t' ht'
    have hmem : t' ∈ table.rows := ht'
    rw [hrows] at hmem
    rcases List.mem_append.mp hmem with hold | hnew
    · exact h.supported t' hold
    · rw [List.mem_singleton.mp hnew]
      exact hsupported
  derived := h.derived

theorem touched (h : Consistent library loose unlinked db)
    {table : Table ScaledPhoto ScaledPhoto.Clash} {change : ScaledPhoto -> ScaledPhoto}
    (hrows : table.rows = db.scaledPhotos.rows.map change)
    (hchange : forall c, (change c).sourcePhotoId = c.sourcePhotoId ∧
      (change c).photoInstanceId = c.photoInstanceId ∧ (change c).width = c.width ∧
        (change c).height = c.height) :
    Consistent library loose unlinked { db with scaledPhotos := table } where
  instances := by
    apply h.instances.of_perm
    unfold PhotoDb.references
    dsimp only
    rw [hrows, List.map_append, List.map_append, List.map_map, List.map_map, List.map_map,
      List.map_map]
    apply List.Perm.of_eq
    congr 1
    apply List.map_congr_left
    intro c _
    exact (hchange c).2.1
  sources := h.sources
  scaled := by
    intro c hc
    have hmem : c ∈ table.rows := hc
    rw [hrows] at hmem
    rcases List.mem_map.mp hmem with ⟨c₀, hc₀, rfl⟩
    rw [(hchange c₀).1]
    exact h.scaled c₀ hc₀
  supported := h.supported
  derived := by
    intro c s i j hc hs hi hj hsource hinstance hscaled
    have hmem : c ∈ table.rows := hc
    rw [hrows] at hmem
    rcases List.mem_map.mp hmem with ⟨c₀, hc₀, rfl⟩
    rcases hchange c₀ with ⟨hkeepSource, hkeepInstance, hkeepWidth, hkeepHeight⟩
    rw [hkeepSource] at hsource
    rw [hkeepInstance] at hscaled
    rw [hkeepWidth, hkeepHeight]
    exact h.derived c₀ s i j hc₀ hs hi hj hsource hinstance hscaled

/-!
# Deletions
-/

theorem deleteLinks (h : Consistent library loose unlinked db) (sel : TableItemPhoto -> Bool) :
    Consistent library loose
      ((db.tableItemPhotos.rows.filter sel).map (fun t => t.sourcePhotoId) ++ unlinked)
      { db with tableItemPhotos := db.tableItemPhotos.delete sel } where
  instances := h.instances
  sources := h.sources.delete_rows sel
  scaled := h.scaled
  supported := fun t ht => h.supported t (List.mem_of_mem_filter ht)
  derived := h.derived

theorem deleteScaled (h : Consistent library loose unlinked db) (sel : ScaledPhoto -> Bool) :
    Consistent library
      ((db.scaledPhotos.rows.filter sel).map (fun c => c.photoInstanceId) ++ loose) unlinked
      { db with scaledPhotos := db.scaledPhotos.delete sel } where
  instances := by
    have hdelete := h.instances.delete_rows (Sum.elim (fun _ => false) sel)
    rw [db.references_filter, db.references_reject, List.filter_false, List.map_nil,
      List.nil_append, List.map_map] at hdelete
    have hsources : db.sourcePhotos.rows.filter (fun _ => ! false) = db.sourcePhotos.rows :=
      List.filter_true _
    rw [hsources] at hdelete
    exact hdelete
  sources := h.sources
  scaled := fun c hc => h.scaled c (List.mem_of_mem_filter hc)
  supported := h.supported
  derived := fun c s i j hc => h.derived c s i j (List.mem_of_mem_filter hc)

theorem deleteInstance_eq {id : Nat} (h : Consistent library (id :: loose) unlinked db) :
    db.deleteInstance id =
      { db with photoInstances := db.photoInstances.delete (fun i => i.id == id) } := by
  apply db.deleteInstance_of_unreferred
  · intro s hs
    exact h.instances.held_ne_loose (source_mem_references hs) List.mem_cons_self
  · intro c hc
    exact h.instances.held_ne_loose (scaled_mem_references hc) List.mem_cons_self

theorem deleteInstance {id : Nat} (h : Consistent library (id :: loose) unlinked db) :
    Consistent library loose unlinked (db.deleteInstance id) := by
  rw [h.deleteInstance_eq]
  exact
    { instances := by
        have hdelete := h.instances.delete_key
        rw [List.filter_map] at hdelete
        exact hdelete
      sources := h.sources
      scaled := h.scaled
      supported := h.supported
      derived := fun c s i j hc hs hi hj =>
        h.derived c s i j hc hs (List.mem_of_mem_filter hi) (List.mem_of_mem_filter hj) }

theorem filter_source {s : SourcePhoto} (hs : s ∈ db.sourcePhotos.rows) :
    db.sourcePhotos.rows.filter (fun s' => s'.id == s.id) = [s] := by
  have hclash : forall r r' : SourcePhoto, (r.id == s.id) = true -> (r'.id == s.id) = true ->
      SourcePhoto.Clash r r' := by
    intro r r' hr hr'
    have hr : r.id = s.id := by simpa using hr
    have hr' : r'.id = s.id := by simpa using hr'
    exact hr.trans hr'.symm
  cases hfind : db.sourcePhotos.find? (fun s' => s'.id == s.id) with
  | none =>
      have hnone := Table.find?_none hfind hs
      simp at hnone
  | some found =>
      rcases Table.find?_some hfind with ⟨hmem, hid⟩
      have heq : found = s := Table.eq_of_clash (fun h => Eq.symm h) hmem hs (by simpa using hid)
      rw [Table.filter_eq_singleton hclash hfind, heq]

theorem deleteSources_eq {s : SourcePhoto}
    (h : Consistent library loose (s.id :: unlinked) db) (hs : s ∈ db.sourcePhotos.rows)
    (hscaled : forall c, c ∈ db.scaledPhotos.rows -> c.sourcePhotoId ≠ s.id) :
    db.deleteSources (fun s' => s'.id == s.id) =
      { db with sourcePhotos := db.sourcePhotos.delete (fun s' => s'.id == s.id) } := by
  unfold PhotoDb.deleteSources
  rw [filter_source hs]
  dsimp only
  have hcopies : forall c, c ∈ db.scaledPhotos.rows ->
      decide (c.sourcePhotoId ∈ [s].map (fun s => s.id)) = false := by
    intro c hc
    simpa using hscaled c hc
  have hlinks : forall t, t ∈ db.tableItemPhotos.rows ->
      decide (t.sourcePhotoId ∈ [s].map (fun s => s.id)) = false := by
    intro t ht
    have hne := h.sources.held_ne_loose ht List.mem_cons_self
    simpa using hne
  rw [Table.delete_of_none hcopies, Table.delete_of_none hlinks]

theorem deleteSource {s : SourcePhoto}
    (h : Consistent library loose (s.id :: unlinked) db) (hs : s ∈ db.sourcePhotos.rows)
    (hscaled : forall c, c ∈ db.scaledPhotos.rows -> c.sourcePhotoId ≠ s.id) :
    Consistent library (s.photoInstanceId :: loose) unlinked
      (db.deleteSources (fun s' => s'.id == s.id)) := by
  rw [deleteSources_eq h hs hscaled]
  exact
    { instances := by
        have hdelete := h.instances.delete_rows
          (Sum.elim (fun s' : SourcePhoto => s'.id == s.id) (fun _ => false))
        have hscaledAll : db.scaledPhotos.rows.filter (fun _ => ! false) =
            db.scaledPhotos.rows := List.filter_true _
        rw [db.references_filter, db.references_reject, List.filter_false, hscaledAll,
          filter_source hs] at hdelete
        exact hdelete
      sources := by
        have hdelete := h.sources.delete_key
        rw [List.filter_map] at hdelete
        exact hdelete
      scaled := by
        intro c hc
        rcases h.scaled c hc with ⟨s', hs', heq⟩
        refine ⟨s', List.mem_filter.mpr ⟨hs', ?_⟩, heq⟩
        have hne := hscaled c hc
        rw [← heq] at hne
        simpa using hne
      supported := h.supported
      derived := fun c s' i j hc hs' =>
        h.derived c s' i j hc (List.mem_of_mem_filter hs') }

end Consistent

end Images
end ServerComponents
