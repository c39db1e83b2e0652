import ServerComponents.Images.PhotoStorage

/-!
# Runs of the photo operations

Each operation runs in a transaction; one that throws leaves no more than the ids that it
has used up.
-/

namespace ServerComponents
namespace Images

open Relational Statements SqlUtil

section Operations

variable {library : ImageLibrary} {env : Env} {db : PhotoDb}

/-!
# Serving
-/

variable (h : Consistent library [] [] db)

include h in
theorem ensures_getOrCreateScaledPhoto (sourcePhotoId : Nat) (width height : Int) :
    Prog.Ensures env (getOrCreateScaledPhoto library sourcePhotoId width height)
      (fun result db' => Consistent library [] [] db' ∧ (result.success = true ->
        ServedFrom library db sourcePhotoId width height result.photo)) db := by
  refine Prog.Ensures.bind (ensures_cachedScaledPhoto h sourcePhotoId width height) ?_
  rintro found db₁ ⟨h₁, hframe, hcached⟩
  cases found with
  | some photo => exact Prog.ensures_done ⟨h₁, fun _ => hcached photo rfl⟩
  | none =>
      refine (ensures_createScaledPhoto h₁ sourcePhotoId width height).mono ?_
      rintro result db₂ ⟨h₂, hcreated⟩
      refine ⟨h₂, ?_⟩
      intro hsuccess
      have hserved := hcreated hsuccess
      rw [hframe] at hserved
      exact hserved

/-- The photo is made from the one that the item has. -/
def ServedForItem (library : ImageLibrary) (db : PhotoDb) (tableName : String)
    (tableItemId width height : Int) (photo : PhotoData) : Prop :=
  exists t, t ∈ db.tableItemPhotos.rows ∧ t.tableName = tableName ∧
    t.tableItemId = tableItemId ∧ ServedFrom library db t.sourcePhotoId width height photo

theorem ensures_getSourcePhotoForItem (tableName : String) (tableItemId : Int) :
    Prog.Ensures env (getSourcePhotoForItem tableName tableItemId) (fun found db' => db' = db ∧
      forall sourceInfo, found = some sourceInfo ->
        exists t, t ∈ db.tableItemPhotos.rows ∧ t.tableName = tableName ∧
          t.tableItemId = tableItemId ∧ t.sourcePhotoId = sourceInfo.id) db := by
  apply Prog.ensures_bind_ask
  intro row hread
  cases hread
  cases hfind : db.itemPhoto tableName tableItemId with
  | none => exact Prog.ensures_done ⟨rfl, fun _ hnone => nomatch hnone⟩
  | some t =>
      rcases Table.find?_some hfind with ⟨ht, hkey⟩
      simp only [Bool.and_eq_true, beq_iff_eq] at hkey
      apply Prog.ensures_bind_ask
      intro pair _
      cases pair with
      | none => exact Prog.ensures_done ⟨rfl, fun _ hnone => nomatch hnone⟩
      | some pair =>
          refine Prog.ensures_done ⟨rfl, ?_⟩
          intro sourceInfo hinfo
          refine ⟨t, ht, hkey.1, hkey.2, ?_⟩
          rw [← Option.some.inj hinfo]

include h

theorem ensures_getScaledPhotoForItem (tableName : String) (tableItemId width height : Int) :
    Prog.Ensures env (getScaledPhotoForItem library tableName tableItemId width height)
      (fun result db' => Consistent library [] [] db' ∧ (result.success = true ->
        ServedForItem library db tableName tableItemId width height result.photo)) db := by
  refine Prog.Ensures.bind (ensures_getSourcePhotoForItem tableName tableItemId) ?_
  rintro found db₁ ⟨hdb, hitem⟩
  rw [hdb]
  cases found with
  | none => exact Prog.ensures_done ⟨h, fun hfailed => nomatch hfailed⟩
  | some sourceInfo =>
      rcases hitem sourceInfo rfl with ⟨t, ht, hname, hid, hsource⟩
      refine Prog.Ensures.bind
        (ensures_getOrCreateScaledPhoto h sourceInfo.id width height) ?_
      rintro result db₂ ⟨h₂, hserved⟩
      refine Prog.ensures_done ⟨h₂, fun hsuccess => ⟨t, ht, hname, hid, ?_⟩⟩
      rw [hsource]
      exact hserved hsuccess

/-!
# Eviction
-/

theorem ensures_deleteScaledPhoto (id : Nat) :
    Prog.Ensures env (ScaledPhotos.deleteScaledPhoto id) (fun _ db' =>
      Consistent library [] [] db' ∧
        db'.scaledPhotos = db.scaledPhotos.delete (fun c => c.id == id)) db := by
  apply Prog.ensures_bind_ask
  intro row hread
  cases hread
  cases hfind : db.scaledPhotos.find? (fun c => c.id == id) with
  | none =>
      refine Prog.ensures_done ⟨h, ?_⟩
      rw [Table.delete_of_none (fun c hc => Table.find?_none hfind hc)]
  | some c =>
      have hclash : forall c c' : ScaledPhoto, (c.id == id) = true -> (c'.id == id) = true ->
          ScaledPhoto.Clash c c' := by
        intro c c' hc hc'
        have hc : c.id = id := by simpa using hc
        have hc' : c'.id = id := by simpa using hc'
        exact hc.trans hc'.symm
      have hdelete := h.deleteScaled (fun c => c.id == id)
      rw [Table.filter_eq_singleton hclash hfind] at hdelete
      apply Prog.ensures_bind_exec
      intro deleted db₁ hwrite
      cases hwrite
      refine (ensures_deleteInstanceRow hdelete).mono ?_
      rintro _ db₂ ⟨h₂, hframe⟩
      exact ⟨h₂, by rw [hframe]⟩

theorem ensures_deleteEachScaledPhoto (rows : List ScaledPhoto) :
    Prog.Ensures env (deleteEachScaledPhoto rows)
      (fun _ db' => Consistent library [] [] db') db := by
  induction rows generalizing db with
  | nil => exact Prog.ensures_done h
  | cons row rest ih =>
      refine Prog.Ensures.bind (ensures_deleteScaledPhoto h row.id) ?_
      rintro _ db₁ ⟨h₁, _⟩
      exact ih h₁

theorem ensures_deleteScaledPhotosOlderThan (maxAgeUs : Int) :
    Prog.Ensures env (deleteScaledPhotosOlderThan maxAgeUs)
      (fun _ db' => Consistent library [] [] db') db := by
  apply Prog.ensures_bind_ask
  intro nowUs _
  apply Prog.ensures_bind_ask
  intro oldPhotos _
  refine Prog.Ensures.bind (ensures_deleteEachScaledPhoto h oldPhotos) ?_
  intro _ db₁ h₁
  exact Prog.ensures_done h₁

theorem ensures_deleteOlderThan (cutoffUs : Int) :
    Prog.Ensures env (ScaledPhotos.deleteOlderThan cutoffUs)
      (fun _ db' => Consistent library [] [] db') db := by
  have hdelete := h.deleteScaled (fun c => decide (c.lastUsedAtUs < cutoffUs))
  apply Prog.ensures_bind_exec
  intro deletedRows db₁ hwrite
  cases hwrite
  refine Prog.Ensures.bind (ensures_deleteInstanceRows hdelete) ?_
  rintro _ db₂ ⟨h₂, _⟩
  exact Prog.ensures_done h₂

theorem ensures_deleteOldestScaledPhotosUntilSize (targetBytes : Int) (rounds : Nat) :
    Prog.Ensures env (deleteOldestScaledPhotosUntilSize targetBytes rounds) (fun _ db' =>
      Consistent library [] [] db' ∧ (db.scaledPhotos.rows.length < rounds ->
        ScaledPhotos.storageBytes db' ≤ targetBytes ∨ db'.scaledPhotos.rows = [])) db := by
  induction rounds generalizing db with
  | zero => exact Prog.ensures_done ⟨h, fun hlt => absurd hlt (Nat.not_lt_zero _)⟩
  | succ rounds ih =>
      apply Prog.ensures_bind_ask
      intro currentBytes hread
      cases hread
      split
      · rename_i hsmall
        exact Prog.ensures_done ⟨h, fun _ => Or.inl hsmall⟩
      · apply Prog.ensures_bind_ask
        intro oldest hread
        have holdest : oldest =
            (db.scaledPhotos.rows.insertionSort ScaledPhotos.LeastRecentlyUsed).take 1 :=
          (Except.ok.inj hread).symm
        cases oldest with
        | nil =>
            refine Prog.ensures_done ⟨h, fun _ => Or.inr ?_⟩
            have hlength := congrArg List.length holdest
            rw [List.length_take, List.length_insertionSort, List.length_nil] at hlength
            exact List.length_eq_zero_iff.mp (by omega)
        | cons c rest =>
            have hmem : c ∈ db.scaledPhotos.rows := by
              have hc : c ∈ c :: rest := List.mem_cons_self
              rw [holdest] at hc
              exact (List.mem_insertionSort _).mp (List.mem_of_mem_take hc)
            refine Prog.Ensures.bind (ensures_deleteScaledPhoto h c.id) ?_
            rintro _ db₁ ⟨h₁, hrows⟩
            refine Prog.Ensures.bind (ih h₁) ?_
            rintro deletedCount db₂ ⟨h₂, hsettled⟩
            refine Prog.ensures_done ⟨h₂, fun hlt => hsettled ?_⟩
            have hshorter : db₁.scaledPhotos.rows.length < db.scaledPhotos.rows.length := by
              rw [hrows]
              exact List.length_filter_lt_length_iff_exists.mpr ⟨c, hmem, by simp⟩
            omega

end Operations

/-!
# Runs
-/

inductive PhotoEvent where
  | uploadAndAssociatePhoto (env : Env) (secretsHelper : SecretsHelperPtr)
      (tableName : String) (tableItemId : Int) (imageBytes : List UInt8) (imageType : String)
  | deletePhotoForItem (env : Env) (tableName : String) (tableItemId : Int)
  | getScaledPhotoForItem (env : Env) (tableName : String) (tableItemId width height : Int)
  | getOrCreateScaledPhoto (env : Env) (sourcePhotoId : Nat) (width height : Int)
  | deleteScaledPhotosOlderThan (env : Env) (maxAgeUs : Int)
  | deleteOldestScaledPhotosUntilSize (env : Env) (targetBytes : Int)
  | deleteOlderThan (env : Env) (cutoffUs : Int)
  | idsUsedUp (instances sources scaled links : Nat)

/-- Ids that a transaction has drawn are not drawn again when it is rolled back. -/
def PhotoDb.useUpIds (db : PhotoDb) (instances sources scaled links : Nat) : PhotoDb :=
  { db with
    photoInstances := { db.photoInstances with
      nextId := db.photoInstances.nextId + instances }
    sourcePhotos := { db.sourcePhotos with nextId := db.sourcePhotos.nextId + sources }
    scaledPhotos := { db.scaledPhotos with nextId := db.scaledPhotos.nextId + scaled }
    tableItemPhotos := { db.tableItemPhotos with
      nextId := db.tableItemPhotos.nextId + links } }

section Runs

variable (library : ImageLibrary)

def photoStep (db : PhotoDb) : PhotoEvent -> PhotoDb
  | .uploadAndAssociatePhoto env secretsHelper tableName tableItemId imageBytes imageType =>
      (Prog.transact env (uploadAndAssociatePhoto library secretsHelper tableName tableItemId
        imageBytes imageType) db).2
  | .deletePhotoForItem env tableName tableItemId =>
      (Prog.transact env (deletePhotoForItem tableName tableItemId) db).2
  | .getScaledPhotoForItem env tableName tableItemId width height =>
      (Prog.transact env (getScaledPhotoForItem library tableName tableItemId width height)
        db).2
  | .getOrCreateScaledPhoto env sourcePhotoId width height =>
      (Prog.transact env (getOrCreateScaledPhoto library sourcePhotoId width height) db).2
  | .deleteScaledPhotosOlderThan env maxAgeUs =>
      (Prog.transact env (deleteScaledPhotosOlderThan maxAgeUs) db).2
  | .deleteOldestScaledPhotosUntilSize env targetBytes =>
      (Prog.transact env (deleteOldestScaledPhotosUntilSize targetBytes
        (db.scaledPhotos.rows.length + 1)) db).2
  | .deleteOlderThan env cutoffUs =>
      (Prog.transact env (ScaledPhotos.deleteOlderThan cutoffUs) db).2
  | .idsUsedUp instances sources scaled links =>
      db.useUpIds instances sources scaled links

/-- A photo that an operation serves is made from the source that it is asked for. -/
def ServesCurrent (db : PhotoDb) : PhotoEvent -> Prop
  | .getScaledPhotoForItem env tableName tableItemId width height =>
      forall result, (Prog.transact env (getScaledPhotoForItem library tableName tableItemId
        width height) db).1 = .ok result -> result.success = true ->
          ServedForItem library db tableName tableItemId width height result.photo
  | .getOrCreateScaledPhoto env sourcePhotoId width height =>
      forall result, (Prog.transact env (getOrCreateScaledPhoto library sourcePhotoId width
        height) db).1 = .ok result -> result.success = true ->
          ServedFrom library db sourcePhotoId width height result.photo
  | _ => True

variable {library} {db : PhotoDb}

variable (h : Consistent library [] [] db)

include h in
theorem consistent_photoStep (event : PhotoEvent) :
    Consistent library [] [] (photoStep library db event) := by
  cases event with
  | uploadAndAssociatePhoto env secretsHelper tableName tableItemId imageBytes imageType =>
      exact Prog.Ensures.keeps h (ensures_uploadAndAssociatePhoto h _ _ _ _ _)
  | deletePhotoForItem env tableName tableItemId =>
      exact Prog.Ensures.keeps h
        ((ensures_deletePhotoForItem h _ _).mono (fun _ _ hpost => hpost.1))
  | getScaledPhotoForItem env tableName tableItemId width height =>
      exact Prog.Ensures.keeps h
        ((ensures_getScaledPhotoForItem h _ _ _ _).mono (fun _ _ hpost => hpost.1))
  | getOrCreateScaledPhoto env sourcePhotoId width height =>
      exact Prog.Ensures.keeps h
        ((ensures_getOrCreateScaledPhoto h _ _ _).mono (fun _ _ hpost => hpost.1))
  | deleteScaledPhotosOlderThan env maxAgeUs =>
      exact Prog.Ensures.keeps h (ensures_deleteScaledPhotosOlderThan h _)
  | deleteOldestScaledPhotosUntilSize env targetBytes =>
      exact Prog.Ensures.keeps h
        ((ensures_deleteOldestScaledPhotosUntilSize h _ _).mono (fun _ _ hpost => hpost.1))
  | deleteOlderThan env cutoffUs =>
      exact Prog.Ensures.keeps h (ensures_deleteOlderThan h _)
  | idsUsedUp instances sources scaled links =>
      exact
        { instances := h.instances
          sources := h.sources
          scaled := h.scaled
          supported := h.supported
          derived := h.derived }

include h in
theorem servesCurrent_of_consistent (event : PhotoEvent) :
    ServesCurrent library db event := by
  cases event with
  | getScaledPhotoForItem env tableName tableItemId width height =>
      intro result hresult
      exact ((ensures_getScaledPhotoForItem h _ _ _ _).transact hresult).2
  | getOrCreateScaledPhoto env sourcePhotoId width height =>
      intro result hresult
      exact ((ensures_getOrCreateScaledPhoto h _ _ _).transact hresult).2
  | _ => exact trivial

/-- Each instance is referred to once, each source photo belongs to one item, and no row
refers to a missing one. -/
structure StorageInvariant (db : PhotoDb) : Prop where
  instanceReferredOnce : forall i, i ∈ db.photoInstances.rows ->
    db.sourcePhotos.rows.countP (fun s => s.photoInstanceId == i.id) +
      db.scaledPhotos.rows.countP (fun c => c.photoInstanceId == i.id) = 1
  sourceOfOneItem : forall s, s ∈ db.sourcePhotos.rows ->
    db.tableItemPhotos.rows.countP (fun t => t.sourcePhotoId == s.id) = 1
  sourceHasInstance : forall s, s ∈ db.sourcePhotos.rows ->
    exists i, i ∈ db.photoInstances.rows ∧ i.id = s.photoInstanceId
  scaledHasInstance : forall c, c ∈ db.scaledPhotos.rows ->
    exists i, i ∈ db.photoInstances.rows ∧ i.id = c.photoInstanceId
  scaledHasSource : forall c, c ∈ db.scaledPhotos.rows ->
    exists s, s ∈ db.sourcePhotos.rows ∧ s.id = c.sourcePhotoId
  itemHasSource : forall t, t ∈ db.tableItemPhotos.rows ->
    exists s, s ∈ db.sourcePhotos.rows ∧ s.id = t.sourcePhotoId
  itemHasTable : forall t, t ∈ db.tableItemPhotos.rows ->
    t.tableName ∈ db.photoSupportTables

include h in
theorem Consistent.storageInvariant :
    StorageInvariant db where
  instanceReferredOnce := by
    intro i hi
    have hcount := h.instances.countP_eq_one (List.mem_map_of_mem hi)
    unfold PhotoDb.references at hcount
    rw [List.countP_append, List.countP_map, List.countP_map] at hcount
    exact hcount
  sourceOfOneItem := fun s hs => h.sources.countP_eq_one (List.mem_map_of_mem hs)
  sourceHasInstance := fun s hs => h.instance_of_reference (source_mem_references hs)
  scaledHasInstance := fun c hc => h.instance_of_reference (scaled_mem_references hc)
  scaledHasSource := h.scaled
  itemHasSource := fun t ht => List.mem_map.mp (h.sources.held_mem ht)
  itemHasTable := h.supported

end Runs

theorem consistent_run (library : ImageLibrary) (photoSupportTables : List String)
    (events : List PhotoEvent) : Consistent library [] []
      (after (photoStep library) (PhotoDb.fresh photoSupportTables) events) :=
  invariant_run (consistent_fresh library photoSupportTables)
    (fun _ event h => consistent_photoStep h event)

/-- Whatever is uploaded, deleted, scaled and evicted in whatever order, the tables stay
together, and what is served comes from the current photo. -/
theorem photoStorage_run (library : ImageLibrary) (photoSupportTables : List String)
    (events : List PhotoEvent) :
    StorageInvariant
        (after (photoStep library) (PhotoDb.fresh photoSupportTables) events) ∧
      Along (photoStep library) (ServesCurrent library) (PhotoDb.fresh photoSupportTables)
        events := by
  constructor
  · exact (consistent_run library photoSupportTables events).storageInvariant
  · intro pre event post _
    exact servesCurrent_of_consistent (consistent_run library photoSupportTables pre) event

end Images
end ServerComponents
