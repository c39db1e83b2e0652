import ServerComponents.Images.PhotoConsistency
import ServerComponents.Statements.Ensures
import ServerComponents.Statements.Run

/-!
# Photo storage over whole runs

Each operation ends with no loose instance and no unlinked source photo, and what it serves
comes from the photo that the item has then.
-/

namespace ServerComponents
namespace Images

open Relational Statements SqlUtil
open Auth (orUniqueViolation orUniqueViolation_ok)

section Operations

variable {library : ImageLibrary} {env : Env} {loose unlinked : List Nat} {db : PhotoDb}

/-!
# Instances
-/

theorem ensures_deleteInstanceRow {id : Nat}
    (h : Consistent library (id :: loose) unlinked db) :
    Prog.Ensures env (deleteInstanceRow id) (fun _ db' =>
      Consistent library loose unlinked db' ∧
        db' = { db with photoInstances := db'.photoInstances }) db := by
  apply Prog.ensures_exec
  intro _ db' hwrite
  cases hwrite
  refine ⟨h.deleteInstance, ?_⟩
  rw [h.deleteInstance_eq]

theorem ensures_deleteInstanceRows {ids : List Nat}
    (h : Consistent library (ids ++ loose) unlinked db) :
    Prog.Ensures env (deleteInstanceRows ids) (fun _ db' =>
      Consistent library loose unlinked db' ∧
        db' = { db with photoInstances := db'.photoInstances }) db := by
  induction ids generalizing db with
  | nil => exact Prog.ensures_done ⟨h, rfl⟩
  | cons id rest ih =>
      refine Prog.Ensures.bind (ensures_deleteInstanceRow h) ?_
      rintro _ db' ⟨h', hframe⟩
      refine (ih h').mono ?_
      rintro _ db'' ⟨h'', hframe'⟩
      refine ⟨h'', ?_⟩
      rw [hframe', hframe]

theorem ensures_addPhotoInstance (h : Consistent library loose unlinked db)
    (photoBytes : List Char) (type : String) (width height : Int) :
    Prog.Ensures env (PhotoInstances.addPhotoInstance photoBytes type width height)
      (fun id db' => Consistent library (id :: loose) unlinked db' ∧
        db' = { db with photoInstances := db'.photoInstances } ∧
        db'.photoInstances.rows = db.photoInstances.rows ++
          [{ id := id, photo := photoBytes, type := type, width := width
             height := height }]) db := by
  apply Prog.ensures_exec
  intro id db' hwrite
  rcases exceptBind_ok hwrite with ⟨⟨row, table⟩, hinsert, hpure⟩
  cases hpure
  rcases Table.insert?_some (orUniqueViolation_ok hinsert) with ⟨hrow, hrows, _⟩
  refine ⟨h.addInstance hrows, rfl, ?_⟩
  rw [hrow] at hrows ⊢
  exact hrows

/-!
# Deletions
-/

theorem ensures_deleteScaledPhotosBySourcePhotoId
    (h : Consistent library [] unlinked db) (sourcePhotoId : Nat) :
    Prog.Ensures env (ScaledPhotos.deleteScaledPhotosBySourcePhotoId sourcePhotoId)
      (fun _ db' => Consistent library [] unlinked db' ∧
        (forall c, c ∈ db'.scaledPhotos.rows -> c.sourcePhotoId ≠ sourcePhotoId) ∧
        db'.sourcePhotos = db.sourcePhotos ∧
        db'.photoSupportTables = db.photoSupportTables) db := by
  have hdelete := h.deleteScaled (fun c => c.sourcePhotoId == sourcePhotoId)
  apply Prog.ensures_bind_ask
  intro scaledPhotos hread
  cases hread
  apply Prog.ensures_bind_exec
  intro _ db₁ hwrite
  cases hwrite
  refine (ensures_deleteInstanceRows hdelete).mono ?_
  rintro _ db' ⟨h', hframe⟩
  refine ⟨h', ?_, by rw [hframe], by rw [hframe]⟩
  intro c hc
  rw [hframe] at hc
  have hkept := ((Table.mem_delete _ _ _).mp hc).2
  simpa using hkept

theorem ensures_deleteSourcePhoto {sourcePhotoId : Nat}
    (h : Consistent library [] [sourcePhotoId] db)
    (hscaled : forall c, c ∈ db.scaledPhotos.rows -> c.sourcePhotoId ≠ sourcePhotoId) :
    Prog.Ensures env (SourcePhotos.deleteSourcePhoto sourcePhotoId) (fun _ db' =>
      Consistent library [] [] db' ∧
        db'.photoSupportTables = db.photoSupportTables) db := by
  apply Prog.ensures_bind_ask
  intro row hread
  cases hread
  rcases List.mem_map.mp (h.sources.loose_mem List.mem_cons_self) with ⟨s, hs, rfl⟩
  cases hfind : db.sourceById s.id with
  | none =>
      have hnone := Table.find?_none hfind hs
      simp at hnone
  | some found =>
      rcases Table.find?_some hfind with ⟨hmem, hid⟩
      have heq : found = s := Table.eq_of_clash (fun hc => Eq.symm hc) hmem hs (by simpa using hid)
      rw [heq]
      apply Prog.ensures_bind_exec
      intro _ db₁ hwrite
      cases hwrite
      refine (ensures_deleteInstanceRow (h.deleteSource hs hscaled)).mono ?_
      rintro _ db' ⟨h', hframe⟩
      exact ⟨h', by rw [hframe]; rfl⟩

theorem ensures_cascadeDeleteSourcePhoto {sourcePhotoId : Nat}
    (h : Consistent library [] [sourcePhotoId] db) :
    Prog.Ensures env (cascadeDeleteSourcePhoto sourcePhotoId) (fun _ db' =>
      Consistent library [] [] db' ∧
        db'.photoSupportTables = db.photoSupportTables) db := by
  refine Prog.Ensures.bind (ensures_deleteScaledPhotosBySourcePhotoId h sourcePhotoId) ?_
  rintro _ db' ⟨h', hscaled, _, hsupport⟩
  refine (ensures_deleteSourcePhoto h' hscaled).mono ?_
  rintro _ db'' ⟨h'', hsupport'⟩
  exact ⟨h'', hsupport'.trans hsupport⟩

theorem linked_clash {tableName : String} {tableItemId : Int} (t t' : TableItemPhoto)
    (ht : (t.tableName == tableName && t.tableItemId == tableItemId) = true)
    (ht' : (t'.tableName == tableName && t'.tableItemId == tableItemId) = true) :
    TableItemPhoto.Clash t t' := by
  simp only [Bool.and_eq_true, beq_iff_eq] at ht ht'
  exact Or.inr ⟨ht.1.trans ht'.1.symm, ht.2.trans ht'.2.symm⟩

theorem ensures_deletePhotoForItem (h : Consistent library [] [] db) (tableName : String)
    (tableItemId : Int) :
    Prog.Ensures env (deletePhotoForItem tableName tableItemId) (fun _ db' =>
      Consistent library [] [] db' ∧
        db'.photoSupportTables = db.photoSupportTables) db := by
  apply Prog.ensures_bind_ask
  intro row hread
  cases hread
  cases hfind : db.itemPhoto tableName tableItemId with
  | none => exact Prog.ensures_done ⟨h, rfl⟩
  | some tipRow =>
      -- The key of the link is unique, so its deletion unlinks one source photo.
      have hdelete := h.deleteLinks
        (fun t => t.tableName == tableName && t.tableItemId == tableItemId)
      rw [Table.filter_eq_singleton linked_clash hfind] at hdelete
      apply Prog.ensures_bind_exec
      intro _ db₁ hwrite
      cases hwrite
      refine Prog.Ensures.bind (ensures_cascadeDeleteSourcePhoto hdelete) ?_
      rintro _ db' hdone
      exact Prog.ensures_done hdone

theorem ensures_deletePhotoIfPresent (h : Consistent library [] [] db) (tableName : String)
    (tableItemId : Int) :
    Prog.Ensures env (deletePhotoIfPresent tableName tableItemId) (fun _ db' =>
      Consistent library [] [] db' ∧
        db'.photoSupportTables = db.photoSupportTables) db := by
  have hpresent : Prog.Ensures env (TableItemPhotos.hasPhoto tableName tableItemId)
      (fun _ db' => db' = db) db :=
    Prog.ensures_bind_ask (fun _ _ => Prog.ensures_done rfl)
  refine hpresent.bind ?_
  intro present db₁ hdb
  rw [hdb]
  cases present with
  | false => exact Prog.ensures_done ⟨h, rfl⟩
  | true =>
      refine Prog.Ensures.bind (ensures_deletePhotoForItem h tableName tableItemId) ?_
      rintro _ db' hdone
      exact Prog.ensures_done hdone

/-!
# Uploads
-/

theorem ensures_addSourcePhoto {photoInstanceId : Nat}
    (h : Consistent library (photoInstanceId :: loose) unlinked db) :
    Prog.Ensures env (SourcePhotos.addSourcePhoto photoInstanceId) (fun id db' =>
      Consistent library loose (id :: unlinked) db' ∧
        db'.photoSupportTables = db.photoSupportTables) db := by
  apply Prog.ensures_exec
  intro id db' hwrite
  rcases exceptBind_ok hwrite with ⟨⟨row, table⟩, hinsert, hpure⟩
  cases hpure
  rcases Table.insert?_some (orUniqueViolation_ok hinsert) with ⟨hrow, hrows, _⟩
  have hheld : row.photoInstanceId = photoInstanceId := by rw [hrow]
  refine ⟨?_, rfl⟩
  apply Consistent.addSource _ hrows
  rw [hheld]
  exact h

theorem ensures_addTableItemPhoto {sourcePhotoId : Nat}
    (h : Consistent library loose (sourcePhotoId :: unlinked) db) {tableName : String}
    (hsupported : tableName ∈ db.photoSupportTables) (tableItemId : Int) :
    Prog.Ensures env (TableItemPhotos.addTableItemPhoto tableName tableItemId sourcePhotoId)
      (fun _ db' => Consistent library loose unlinked db') db := by
  apply Prog.ensures_exec
  intro id db' hwrite
  rcases exceptBind_ok hwrite with ⟨⟨row, table⟩, hinsert, hpure⟩
  cases hpure
  rcases Table.insert?_some (orUniqueViolation_ok hinsert) with ⟨hrow, hrows, _⟩
  have hheld : row.sourcePhotoId = sourcePhotoId := by rw [hrow]
  have hname : row.tableName = tableName := by rw [hrow]
  apply Consistent.addLink _ hrows
  · rw [hname]
    exact hsupported
  · rw [hheld]
    exact h

theorem ensures_storePhoto (h : Consistent library [] [] db) {tableName : String}
    (hsupported : tableName ∈ db.photoSupportTables) (tableItemId : Int) (imageType : String)
    (photo : PhotoData) :
    Prog.Ensures env (storePhoto tableName tableItemId imageType photo)
      (fun _ db' => Consistent library [] [] db') db := by
  refine Prog.Ensures.bind (ensures_addPhotoInstance h _ _ _ _) ?_
  rintro photoInstanceId db₁ ⟨h₁, hframe₁, _⟩
  refine Prog.Ensures.bind (ensures_addSourcePhoto h₁) ?_
  rintro sourcePhotoId db₂ ⟨h₂, hsupport₂⟩
  have hmem : tableName ∈ db₂.photoSupportTables := by
    rw [hsupport₂, hframe₁]
    exact hsupported
  refine Prog.Ensures.bind (ensures_addTableItemPhoto h₂ hmem tableItemId) ?_
  intro _ db₃ h₃
  exact Prog.ensures_bind_ask (fun _ _ => Prog.ensures_done h₃)

theorem ensures_replacePhoto (h : Consistent library [] [] db) {tableName : String}
    (hsupported : tableName ∈ db.photoSupportTables) (tableItemId : Int) (imageType : String)
    (photo : PhotoData) :
    Prog.Ensures env ((deletePhotoIfPresent tableName tableItemId).bind (fun _ =>
      storePhoto tableName tableItemId imageType photo))
      (fun _ db' => Consistent library [] [] db') db := by
  refine Prog.Ensures.bind (ensures_deletePhotoIfPresent h tableName tableItemId) ?_
  rintro _ db' ⟨h', hsupport⟩
  exact ensures_storePhoto h' (hsupport ▸ hsupported) tableItemId imageType photo

theorem ensures_maxSourceDimensions (secretsHelper : SecretsHelperPtr) :
    Prog.Ensures env (maxSourceDimensions secretsHelper) (fun _ db' => db' = db) db := by
  cases secretsHelper with
  | none => exact Prog.ensures_done rfl
  | some lookupSecret =>
      apply Prog.ensures_bind_ofExcept
      intro maxWidthStr _
      apply Prog.ensures_bind_ofExcept
      intro maxHeightStr _
      apply Prog.ensures_bind_ofExcept
      intro maxWidth _
      apply Prog.ensures_bind_ofExcept
      intro maxHeight _
      exact Prog.ensures_done rfl

theorem ensures_uploadAndAssociatePhoto (h : Consistent library [] [] db)
    (secretsHelper : SecretsHelperPtr) (tableName : String) (tableItemId : Int)
    (imageBytes : List UInt8) (imageType : String) :
    Prog.Ensures env (uploadAndAssociatePhoto library secretsHelper tableName tableItemId
      imageBytes imageType) (fun _ db' => Consistent library [] [] db') db := by
  apply Prog.ensures_bind_ask
  intro supported hread
  cases hread
  split
  · exact Prog.ensures_done h
  · rename_i hnot
    have hmem : tableName ∈ db.photoSupportTables := by simpa using hnot
    split
    · split
      · exact Prog.ensures_done h
      · refine Prog.Ensures.bind (ensures_maxSourceDimensions secretsHelper) ?_
        intro _ db₁ hdb
        rw [hdb]
        exact ensures_replacePhoto h hmem tableItemId imageType _
    · split
      · exact Prog.ensures_done h
      · refine Prog.Ensures.bind (ensures_maxSourceDimensions secretsHelper) ?_
        intro limits db₁ hdb
        rw [hdb]
        apply Prog.ensures_bind_ofExcept
        intro photo _
        exact ensures_replacePhoto h hmem tableItemId imageType photo

/-!
# Scaled photos
-/

/-- The photo is what the instance of a source photo is to look like in a box. -/
def ServedFrom (library : ImageLibrary) (db : PhotoDb) (sourcePhotoId : Nat)
    (width height : Int) (photo : PhotoData) : Prop :=
  exists s i, s ∈ db.sourcePhotos.rows ∧ s.id = sourcePhotoId ∧
    i ∈ db.photoInstances.rows ∧ i.id = s.photoInstanceId ∧
      ScaledFrom library i width height photo

theorem ensures_updateLastUsedAtUs (h : Consistent library loose unlinked db) (id : Nat) :
    Prog.Ensures env (ScaledPhotos.updateLastUsedAtUs id) (fun _ db' =>
      Consistent library loose unlinked db' ∧
        db' = { db with scaledPhotos := db'.scaledPhotos }) db := by
  apply Prog.ensures_exec
  intro _ db' hwrite
  rcases exceptBind_ok hwrite with ⟨⟨changed, table⟩, hupdate, hpure⟩
  cases hpure
  rcases Table.update?_some (orUniqueViolation_ok hupdate) with ⟨_, hrows, _⟩
  refine ⟨h.touched hrows ?_, rfl⟩
  intro c
  split <;> exact ⟨rfl, rfl, rfl, rfl⟩

theorem ensures_cachedScaledPhoto (h : Consistent library [] [] db) (sourcePhotoId : Nat)
    (width height : Int) :
    Prog.Ensures env (cachedScaledPhoto sourcePhotoId width height) (fun found db' =>
      Consistent library [] [] db' ∧ db' = { db with scaledPhotos := db'.scaledPhotos } ∧
        forall photo, found = some photo ->
          ServedFrom library db sourcePhotoId width height photo) db := by
  apply Prog.ensures_bind_ask
  intro row hread
  cases hread
  cases hfind : db.scaledPhotos.find? (fun c =>
      c.sourcePhotoId == sourcePhotoId && c.width == width && c.height == height) with
  | none => exact Prog.ensures_done ⟨h, rfl, fun _ hnone => nomatch hnone⟩
  | some c =>
      rcases Table.find?_some hfind with ⟨hc, hbox⟩
      simp only [Bool.and_eq_true, beq_iff_eq] at hbox
      rcases hbox with ⟨⟨hsource, hwidth⟩, hheight⟩
      refine Prog.Ensures.bind (ensures_updateLastUsedAtUs h c.id) ?_
      rintro _ db₁ ⟨h₁, hframe⟩
      apply Prog.ensures_bind_ask
      intro instanceRow hread
      cases hread
      refine Prog.ensures_done ⟨h₁, hframe, ?_⟩
      intro photo hphoto
      rcases Option.map_eq_some_iff.mp hphoto with ⟨j, hj, hdata⟩
      rw [hframe] at hj
      rcases Table.find?_some hj with ⟨hjmem, hjid⟩
      rcases h.scaled c hc with ⟨s, hs, hsid⟩
      rcases h.instance_of_reference (Consistent.source_mem_references hs) with ⟨i, hi, hiid⟩
      refine ⟨s, i, hs, hsid.trans hsource, hi, hiid, ?_⟩
      rw [← hdata, ← hwidth, ← hheight]
      exact h.derived c s i j hc hs hi hjmem hsid hiid (by simpa using hjid)

theorem ensures_addScaledPhoto {s : SourcePhoto} {i j : PhotoInstance} {width height : Int}
    (h : Consistent library (j.id :: loose) unlinked db) (hs : s ∈ db.sourcePhotos.rows)
    (hi : i ∈ db.photoInstances.rows) (hj : j ∈ db.photoInstances.rows)
    (hinstance : i.id = s.photoInstanceId)
    (hderived : ScaledFrom library i width height j.data) :
    Prog.Ensures env (ScaledPhotos.addScaledPhoto s.id j.id width height)
      (fun _ db' => Consistent library loose unlinked db') db := by
  apply Prog.ensures_exec
  intro _ db' hwrite
  rcases exceptBind_ok hwrite with ⟨⟨row, table⟩, hinsert, hpure⟩
  cases hpure
  rcases Table.insert?_some (orUniqueViolation_ok hinsert) with ⟨hrow, htable, _⟩
  have hheld : row.photoInstanceId = j.id := by rw [hrow]
  have hof : row.sourcePhotoId = s.id := by rw [hrow]
  apply Consistent.addScaled _ htable
  · exact ⟨s, hs, hof.symm⟩
  · intro s' i' j' hs' hi' hj' hsource hinstance' hscaled
    have hsame : s' = s := Table.eq_of_clash (fun hc => Eq.symm hc) hs' hs (hsource.trans hof)
    rw [hsame, ← hinstance] at hinstance'
    have hsame' : i' = i := Table.eq_of_clash (fun hc => Eq.symm hc) hi' hi hinstance'
    have hcopy : j' = j :=
      Table.eq_of_clash (fun hc => Eq.symm hc) hj' hj (hscaled.trans hheld)
    have hwidth : row.width = width := by rw [hrow]
    have hheight : row.height = height := by rw [hrow]
    rw [hsame', hcopy, hwidth, hheight]
    exact hderived
  · rw [hheld]
    exact h

theorem data_resized {i : PhotoInstance} {imageTypeEnum : ImageType} {width height : Int}
    {scaled : PhotoData} (id : Nat)
    (hresized : resized library i imageTypeEnum width height = .ok scaled) :
    PhotoInstance.data { id := id, photo := byteaHexEncode scaled.bytes, type := i.type
                         width := scaled.width, height := scaled.height } = scaled := by
  rcases exceptBind_ok hresized with ⟨bytes, _, hdata⟩
  cases hdata
  simp only [PhotoInstance.data, byteaHexDecode_encode]

theorem ensures_createScaledPhoto (h : Consistent library [] [] db) (sourcePhotoId : Nat)
    (width height : Int) :
    Prog.Ensures env (createScaledPhoto library sourcePhotoId width height)
      (fun result db' => Consistent library [] [] db' ∧ (result.success = true ->
        ServedFrom library db sourcePhotoId width height result.photo)) db := by
  apply Prog.ensures_bind_ask
  intro row hread
  cases hread
  cases hsource : db.sourceById sourcePhotoId with
  | none => exact Prog.ensures_done ⟨h, fun hfailed => nomatch hfailed⟩
  | some s =>
      rcases Table.find?_some hsource with ⟨hs, hsid⟩
      have hsid : s.id = sourcePhotoId := by simpa using hsid
      cases hinstance : db.instanceById s.photoInstanceId with
      | none =>
          simp only [Option.bind_some, hinstance, Option.map_none]
          exact Prog.ensures_done ⟨h, fun hfailed => nomatch hfailed⟩
      | some i =>
          rcases Table.find?_some hinstance with ⟨hi, hiid⟩
          have hiid : i.id = s.photoInstanceId := by simpa using hiid
          simp only [Option.bind_some, hinstance, Option.map_some]
          apply Prog.ensures_bind_ask
          intro instanceRow hread
          cases hread
          simp only [hinstance]
          split
          · rename_i hvector
            refine Prog.ensures_done ⟨h, fun _ => ⟨s, i, hs, hsid, hi, hiid, ?_⟩⟩
            unfold ScaledFrom
            rw [if_pos hvector]
          · rename_i hvector
            cases htype : imageTypeFromString i.type with
            | none => exact Prog.ensures_done ⟨h, fun hfailed => nomatch hfailed⟩
            | some imageTypeEnum =>
                apply Prog.ensures_bind_ofExcept
                intro scaled hresized
                have hscaled : ScaledFrom library i width height scaled := by
                  unfold ScaledFrom
                  rw [if_neg hvector]
                  exact ⟨imageTypeEnum, htype, hresized⟩
                refine Prog.Ensures.bind (ensures_addPhotoInstance h _ _ _ _) ?_
                rintro id db₁ ⟨h₁, hframe, hrows⟩
                have hs₁ : s ∈ db₁.sourcePhotos.rows := by
                  rw [hframe]
                  exact hs
                have hi₁ : i ∈ db₁.photoInstances.rows := by
                  rw [hrows]
                  exact List.mem_append_left _ hi
                have hcopy : _ ∈ db₁.photoInstances.rows :=
                  hrows ▸ List.mem_append_right _ (List.mem_singleton_self _)
                rw [← hsid]
                refine Prog.Ensures.bind (ensures_addScaledPhoto h₁ hs₁ hi₁ hcopy hiid
                  ((data_resized id hresized).symm ▸ hscaled)) ?_
                intro _ db₂ h₂
                exact Prog.ensures_done
                  ⟨h₂, fun _ => ⟨s, i, hs, rfl, hi, hiid, hscaled⟩⟩

end Operations

end Images
end ServerComponents
