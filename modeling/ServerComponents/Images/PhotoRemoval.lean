import ServerComponents.Images.PhotoStorage

/-!
# What the deletion of a photo takes away

The rows of a photo are the link of its item, the source photo, its scaled copies, and the
instances of both.
-/

namespace ServerComponents
namespace Images

open Relational Statements SqlUtil

/-- The instance of the linked source photo, or of a scaled copy of it. -/
def PhotoDb.HoldsInstance (db : PhotoDb) (t : TableItemPhoto) (i : PhotoInstance) : Prop :=
  (exists s, s ∈ db.sourcePhotos.rows ∧ s.id = t.sourcePhotoId ∧ s.photoInstanceId = i.id) ∨
    exists c, c ∈ db.scaledPhotos.rows ∧ c.sourcePhotoId = t.sourcePhotoId ∧
      c.photoInstanceId = i.id

/-- The rows of the photos behind these links are gone, and no others. -/
structure Removed (gone : TableItemPhoto -> Prop) (db db' : PhotoDb) : Prop where
  links : forall t, t ∈ db'.tableItemPhotos.rows <-> t ∈ db.tableItemPhotos.rows ∧ Not (gone t)
  sources : forall s, s ∈ db'.sourcePhotos.rows <-> s ∈ db.sourcePhotos.rows ∧
    forall t, t ∈ db.tableItemPhotos.rows -> gone t -> s.id ≠ t.sourcePhotoId
  scaled : forall c, c ∈ db'.scaledPhotos.rows <-> c ∈ db.scaledPhotos.rows ∧
    forall t, t ∈ db.tableItemPhotos.rows -> gone t -> c.sourcePhotoId ≠ t.sourcePhotoId
  instances : forall i, i ∈ db'.photoInstances.rows <-> i ∈ db.photoInstances.rows ∧
    forall t, t ∈ db.tableItemPhotos.rows -> gone t -> Not (db.HoldsInstance t i)

section Rules

variable {gone gone' : TableItemPhoto -> Prop} {db db' : PhotoDb}

theorem Removed.none (h : forall t, t ∈ db.tableItemPhotos.rows -> Not (gone t)) :
    Removed gone db db := by
  constructor
  · exact fun t => ⟨fun ht => ⟨ht, h t ht⟩, fun ht => ht.1⟩
  · exact fun s => ⟨fun hs => ⟨hs, fun t ht hgone => absurd hgone (h t ht)⟩, fun hs => hs.1⟩
  · exact fun c => ⟨fun hc => ⟨hc, fun t ht hgone => absurd hgone (h t ht)⟩, fun hc => hc.1⟩
  · exact fun i => ⟨fun hi => ⟨hi, fun t ht hgone => absurd hgone (h t ht)⟩, fun hi => hi.1⟩

theorem Removed.congr (h : Removed gone db db')
    (hsame : forall t, t ∈ db.tableItemPhotos.rows -> (gone t <-> gone' t)) :
    Removed gone' db db' := by
  have hall : forall p : TableItemPhoto -> Prop,
      (forall t, t ∈ db.tableItemPhotos.rows -> gone t -> p t) <->
        forall t, t ∈ db.tableItemPhotos.rows -> gone' t -> p t := by
    intro p
    constructor
    · exact fun hp t ht hgone => hp t ht ((hsame t ht).mpr hgone)
    · exact fun hp t ht hgone => hp t ht ((hsame t ht).mp hgone)
  constructor
  · intro t
    rw [h.links t]
    exact and_congr_right (fun ht => not_congr (hsame t ht))
  · intro s
    rw [h.sources s, hall]
  · intro c
    rw [h.scaled c, hall]
  · intro i
    rw [h.instances i, hall]

theorem Removed.iff_of_removed (h : Removed gone db db') :
    Removed gone' db db' <->
      forall t, t ∈ db.tableItemPhotos.rows -> (gone t <-> gone' t) := by
  constructor
  · intro h' t ht
    have hleft : Not (gone t) <-> Not (gone' t) := by
      constructor
      · exact fun hnot => ((h'.links t).mp ((h.links t).mpr ⟨ht, hnot⟩)).2
      · exact fun hnot => ((h.links t).mp ((h'.links t).mpr ⟨ht, hnot⟩)).2
    exact not_iff_not.mp hleft
  · exact h.congr

end Rules

/-!
# The run of a deletion
-/

section Runs

variable {library : ImageLibrary} {loose unlinked : List Nat} {db : PhotoDb} (env : Env)

theorem run_deleteInstanceRow {id : Nat} (h : Consistent library (id :: loose) unlinked db) :
    (deleteInstanceRow id).run env db =
      (.ok (), { db with photoInstances := db.photoInstances.delete (fun i => i.id == id) }) := by
  unfold deleteInstanceRow
  rw [Prog.run_exec]
  dsimp only
  rw [h.deleteInstance_eq]

theorem run_deleteInstanceRows {ids : List Nat}
    (h : Consistent library (ids ++ loose) unlinked db) :
    exists db', (deleteInstanceRows ids).run env db = (.ok (), db') ∧
      Consistent library loose unlinked db' ∧
        db' = { db with photoInstances := db'.photoInstances } ∧
          forall i, i ∈ db'.photoInstances.rows <->
            i ∈ db.photoInstances.rows ∧ i.id ∉ ids := by
  induction ids generalizing db with
  | nil => exact ⟨db, rfl, h, rfl, fun i => by simp⟩
  | cons id rest ih =>
      have hnext := h.deleteInstance
      rw [h.deleteInstance_eq] at hnext
      rcases ih hnext with ⟨db', hrun, hconsistent, hframe, hinstances⟩
      refine ⟨db', ?_, hconsistent, by rw [hframe], ?_⟩
      · unfold deleteInstanceRows
        rw [Prog.bind_eq, Prog.run_bind, run_deleteInstanceRow env h]
        exact hrun
      · intro i
        rw [hinstances i, Table.mem_delete, List.mem_cons, not_or]
        constructor
        · rintro ⟨⟨hi, hid⟩, hrest⟩
          exact ⟨hi, by simpa using hid, hrest⟩
        · rintro ⟨hi, hid, hrest⟩
          exact ⟨⟨hi, by simpa using hid⟩, hrest⟩

theorem run_deleteScaledPhotosBySourcePhotoId (h : Consistent library [] unlinked db)
    (sourcePhotoId : Nat) :
    exists db', (ScaledPhotos.deleteScaledPhotosBySourcePhotoId sourcePhotoId).run env db =
        (.ok (), db') ∧
      Consistent library [] unlinked db' ∧
        db'.scaledPhotos = db.scaledPhotos.delete (fun c => c.sourcePhotoId == sourcePhotoId) ∧
          db'.sourcePhotos = db.sourcePhotos ∧ db'.tableItemPhotos = db.tableItemPhotos ∧
            forall i, i ∈ db'.photoInstances.rows <-> i ∈ db.photoInstances.rows ∧
              forall c, c ∈ db.scaledPhotos.rows -> c.sourcePhotoId = sourcePhotoId ->
                c.photoInstanceId ≠ i.id := by
  have hdelete := h.deleteScaled (fun c => c.sourcePhotoId == sourcePhotoId)
  rcases run_deleteInstanceRows env hdelete with
    ⟨db', hrun, hconsistent, hframe, hinstances⟩
  refine ⟨db', ?_, hconsistent, by rw [hframe], by rw [hframe], by rw [hframe], ?_⟩
  · unfold ScaledPhotos.deleteScaledPhotosBySourcePhotoId
      ScaledPhotos.getScaledPhotosBySourcePhotoId ScaledPhotos.deleteRows
    rw [Prog.bind_eq, Prog.run_bind, Prog.run_ask]
    dsimp only
    rw [Prog.bind_eq, Prog.run_bind, Prog.run_exec]
    exact hrun
  · intro i
    rw [hinstances i]
    apply and_congr_right
    intro _
    simp only [List.mem_map, List.mem_filter, beq_iff_eq, not_exists, not_and]
    constructor
    · exact fun hnone c hc hsource => hnone c ⟨hc, hsource⟩
    · exact fun hnone c hc => hnone c hc.1 hc.2

theorem run_deleteSourcePhoto {s : SourcePhoto} (h : Consistent library [] [s.id] db)
    (hs : s ∈ db.sourcePhotos.rows)
    (hscaled : forall c, c ∈ db.scaledPhotos.rows -> c.sourcePhotoId ≠ s.id) :
    exists db', (SourcePhotos.deleteSourcePhoto s.id).run env db = (.ok (), db') ∧
      db'.sourcePhotos = db.sourcePhotos.delete (fun s' => s'.id == s.id) ∧
        db'.scaledPhotos = db.scaledPhotos ∧ db'.tableItemPhotos = db.tableItemPhotos ∧
          forall i, i ∈ db'.photoInstances.rows <->
            i ∈ db.photoInstances.rows ∧ i.id ≠ s.photoInstanceId := by
  have hfind : db.sourceById s.id = some s := by
    cases hfound : db.sourceById s.id with
    | none =>
        have hnone := Table.find?_none hfound hs
        simp at hnone
    | some found =>
        rcases Table.find?_some hfound with ⟨hmem, hid⟩
        exact congrArg some
          (Table.eq_of_clash (fun hc => Eq.symm hc) hmem hs (by simpa using hid))
  have hdelete := h.deleteSource hs hscaled
  refine ⟨{ db with
      sourcePhotos := db.sourcePhotos.delete (fun s' => s'.id == s.id)
      photoInstances := db.photoInstances.delete (fun i => i.id == s.photoInstanceId) },
    ?_, rfl, rfl, rfl, ?_⟩
  · unfold SourcePhotos.deleteSourcePhoto SourcePhotos.getSourcePhoto
    rw [Prog.bind_eq, Prog.run_bind, Prog.run_ask]
    dsimp only
    rw [hfind]
    dsimp only
    rw [Prog.bind_eq, Prog.run_bind, Prog.run_exec]
    dsimp only
    rw [run_deleteInstanceRow env hdelete, Consistent.deleteSources_eq h hs hscaled]
  · intro i
    rw [Table.mem_delete]
    simp

theorem TableItemPhoto.Clash.symm {t t' : TableItemPhoto} (h : t.Clash t') : t'.Clash t :=
  h.imp Eq.symm (fun hkey => ⟨hkey.1.symm, hkey.2.symm⟩)

theorem removed_link {db' : PhotoDb} {tipRow : TableItemPhoto} {s : SourcePhoto}
    (htip : tipRow ∈ db.tableItemPhotos.rows) (hs : s ∈ db.sourcePhotos.rows)
    (hsource : s.id = tipRow.sourcePhotoId)
    (hlinks : db'.tableItemPhotos = db.tableItemPhotos.delete
      (fun t => t.tableName == tipRow.tableName && t.tableItemId == tipRow.tableItemId))
    (hsources : db'.sourcePhotos = db.sourcePhotos.delete (fun s' => s'.id == s.id))
    (hscaled : db'.scaledPhotos = db.scaledPhotos.delete (fun c => c.sourcePhotoId == s.id))
    (hinstances : forall i, i ∈ db'.photoInstances.rows <->
      (i ∈ db.photoInstances.rows ∧ forall c, c ∈ db.scaledPhotos.rows ->
        c.sourcePhotoId = s.id -> c.photoInstanceId ≠ i.id) ∧ i.id ≠ s.photoInstanceId) :
    Removed (fun t => t.tableName = tipRow.tableName ∧ t.tableItemId = tipRow.tableItemId)
      db db' := by
  -- The key of a link is unique, so a statement about the links is one about this link.
  have hall : forall p : Nat -> Prop,
      (forall t, t ∈ db.tableItemPhotos.rows ->
        (t.tableName = tipRow.tableName ∧ t.tableItemId = tipRow.tableItemId) ->
          p t.sourcePhotoId) <-> p s.id := by
    intro p
    constructor
    · intro hp
      rw [hsource]
      exact hp tipRow htip ⟨rfl, rfl⟩
    · intro hp t ht hgone
      rw [Table.eq_of_clash TableItemPhoto.Clash.symm ht htip (Or.inr hgone),
        ← hsource]
      exact hp
  constructor
  · intro t
    rw [hlinks, Table.mem_delete]
    simp
  · intro s'
    rw [hsources, Table.mem_delete, hall (fun n => s'.id ≠ n)]
    simp
  · intro c
    rw [hscaled, Table.mem_delete, hall (fun n => c.sourcePhotoId ≠ n)]
    simp
  · intro i
    unfold PhotoDb.HoldsInstance
    rw [hinstances i, and_assoc, hall (fun n => Not (
      (exists s, s ∈ db.sourcePhotos.rows ∧ s.id = n ∧ s.photoInstanceId = i.id) ∨
        exists c, c ∈ db.scaledPhotos.rows ∧ c.sourcePhotoId = n ∧
          c.photoInstanceId = i.id))]
    apply and_congr_right
    intro _
    rw [not_or]
    constructor
    · rintro ⟨hcopies, hheld⟩
      refine ⟨?_, ?_⟩
      · rintro ⟨s', hs', hid, hinstance⟩
        have heq : s' = s := Table.eq_of_clash (fun hc => Eq.symm hc) hs' hs hid
        rw [heq] at hinstance
        exact hheld hinstance.symm
      · rintro ⟨c, hc, hid, hinstance⟩
        exact hcopies c hc hid hinstance
    · rintro ⟨hsourceNone, hscaledNone⟩
      refine ⟨?_, ?_⟩
      · intro c hc hid hinstance
        exact hscaledNone ⟨c, hc, hid, hinstance⟩
      · intro heq
        exact hsourceNone ⟨s, hs, rfl, heq.symm⟩

theorem run_deletePhotoForItem (h : Consistent library [] [] db) (tableName : String)
    (tableItemId : Int) :
    exists found db', (deletePhotoForItem tableName tableItemId).run env db = (.ok found, db') ∧
      Removed (fun t => t.tableName = tableName ∧ t.tableItemId = tableItemId) db db' := by
  unfold deletePhotoForItem TableItemPhotos.getTableItemPhoto
  rw [Prog.bind_eq, Prog.run_bind, Prog.run_ask]
  dsimp only
  cases hfind : db.itemPhoto tableName tableItemId with
  | none =>
      refine ⟨false, db, rfl, Removed.none ?_⟩
      rintro t ht ⟨hname, hid⟩
      have hnot := Table.find?_none hfind ht
      simp [hname, hid] at hnot
  | some tipRow =>
      rcases Table.find?_some hfind with ⟨htip, hkey⟩
      simp only [Bool.and_eq_true, beq_iff_eq] at hkey
      have hdelete := h.deleteLinks
        (fun t => t.tableName == tableName && t.tableItemId == tableItemId)
      rw [Table.filter_eq_singleton linked_clash hfind, List.map_singleton,
        List.append_nil] at hdelete
      rcases List.mem_map.mp (h.sources.held_mem htip) with ⟨s, hs, hsource⟩
      dsimp only
      rw [← hsource] at hdelete ⊢
      rcases run_deleteScaledPhotosBySourcePhotoId env hdelete s.id with
        ⟨db₁, hrun₁, hconsistent₁, hscaled₁, hsources₁, hlinks₁, hinstances₁⟩
      have hs₁ : s ∈ db₁.sourcePhotos.rows := by
        rw [hsources₁]
        exact hs
      have hcopies : forall c, c ∈ db₁.scaledPhotos.rows -> c.sourcePhotoId ≠ s.id := by
        intro c hc
        rw [hscaled₁] at hc
        have hkept := ((Table.mem_delete _ _ _).mp hc).2
        simpa using hkept
      rcases run_deleteSourcePhoto env hconsistent₁ hs₁ hcopies with
        ⟨db₂, hrun₂, hsources₂, hscaled₂, hlinks₂, hinstances₂⟩
      refine ⟨true, db₂, ?_, ?_⟩
      · unfold TableItemPhotos.deleteTableItemPhoto cascadeDeleteSourcePhoto
        rw [Prog.bind_eq, Prog.run_bind, Prog.run_exec]
        dsimp only
        rw [Prog.bind_eq, Prog.bind_eq, Prog.run_bind, Prog.run_bind, hrun₁]
        dsimp only
        rw [hrun₂]
        rfl
      · rw [← hkey.1, ← hkey.2]
        apply removed_link htip hs hsource
        · rw [hlinks₂, hlinks₁, hkey.1, hkey.2]
        · rw [hsources₂, hsources₁]
        · rw [hscaled₂, hscaled₁]
        · intro i
          rw [hinstances₂ i, hinstances₁ i]

end Runs

end Images
end ServerComponents
