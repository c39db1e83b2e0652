import ServerComponents.Images.PhotoEndpoints
import ServerComponents.Statements.Maintains

/-!
# The times of stored photos

A transaction stores at most one photo, and it bears the time of the transaction.  The clock
goes on, so this time tells a photo from all that were stored before and after.
-/

namespace ServerComponents
namespace Images

open Relational Statements SqlUtil
open Auth (orUniqueViolation orUniqueViolation_ok)

/-!
# What a transaction stores
-/

/-- The source photos are old ones, but for one that may have been stored; an instance is an
old one or has a new id. -/
structure Within (stored : Option SourcePhoto) (db db' : PhotoDb) : Prop where
  sources : forall s, s ∈ db'.sourcePhotos.rows -> s ∈ db.sourcePhotos.rows ∨ stored = some s
  instances : forall i, i ∈ db'.photoInstances.rows ->
    i ∈ db.photoInstances.rows ∨ db.photoInstances.nextId ≤ i.id
  below : forall i, i ∈ db'.photoInstances.rows -> i.id < db'.photoInstances.nextId
  nextId : db.photoInstances.nextId ≤ db'.photoInstances.nextId

def InstancesBelow (db : PhotoDb) : Prop :=
  forall i, i ∈ db.photoInstances.rows -> i.id < db.photoInstances.nextId

theorem InstancesBelow.within {db : PhotoDb} (h : InstancesBelow db) : Within none db db where
  sources := fun _ hs => Or.inl hs
  instances := fun _ hi => Or.inl hi
  below := h
  nextId := Nat.le_refl _

section Transactions

variable {stored : Option SourcePhoto} {db db₁ db₂ : PhotoDb}

theorem Within.sub (h : Within stored db db₁)
    (hsources : forall s, s ∈ db₂.sourcePhotos.rows -> s ∈ db₁.sourcePhotos.rows)
    (hinstances : forall i, i ∈ db₂.photoInstances.rows -> i ∈ db₁.photoInstances.rows)
    (hnextId : db₂.photoInstances.nextId = db₁.photoInstances.nextId) :
    Within stored db db₂ where
  sources := fun s hs => h.sources s (hsources s hs)
  instances := fun i hi => h.instances i (hinstances i hi)
  below := fun i hi => hnextId ▸ h.below i (hinstances i hi)
  nextId := hnextId ▸ h.nextId

theorem Within.same (h : Within stored db db₁) (hsources : db₂.sourcePhotos = db₁.sourcePhotos)
    (hinstances : db₂.photoInstances = db₁.photoInstances) : Within stored db db₂ := by
  apply h.sub
  · exact fun s hs => hsources ▸ hs
  · exact fun i hi => hinstances ▸ hi
  · rw [hinstances]

/-- A program that stores no photo, beyond one that may have been stored before. -/
def StoresNoMore {result : Type} (p : PhotoSql result) : Prop :=
  forall stored db, Prog.Maintains (Within stored db) (fun _ => True) p

namespace StoresNoMore

variable {result : Type}

theorem done (value : result) : StoresNoMore (Prog.done value) :=
  fun _ _ => trivial

theorem ofExcept (outcome : Except Exn result) :
    StoresNoMore (Prog.ofExcept outcome) :=
  fun _ _ => Prog.maintains_ofExcept (fun _ _ => trivial)

theorem ask (read : Env -> PhotoDb -> Except Exn result) :
    StoresNoMore (Prog.ask read) :=
  fun _ _ => Prog.maintains_ask (fun _ _ _ _ _ => trivial)

theorem exec {write : Env -> PhotoDb -> Except Exn (result × PhotoDb)}
    (h : forall env db₁ reply db₂, write env db₁ = .ok (reply, db₂) ->
      forall stored db, Within stored db db₁ -> Within stored db db₂) :
    StoresNoMore (Prog.exec write) :=
  fun stored db => Prog.maintains_exec (fun env db₁ reply db₂ hwithin hwrite =>
    ⟨h env db₁ reply db₂ hwrite stored db hwithin, trivial⟩)

theorem bind {a b : Type} {p : PhotoSql a} {f : a -> PhotoSql b} (hp : StoresNoMore p)
    (hf : forall value, StoresNoMore (f value)) : StoresNoMore (p.bind f) :=
  fun stored db => (hp stored db).bind_any (fun value => hf value stored db)

theorem transact {p : PhotoSql result} (hp : StoresNoMore p) (env : Env)
    (h : InstancesBelow db) : Within none db (Prog.transact env p db).2 :=
  (hp none db).transact env h.within

end StoresNoMore

/-!
# Deletions
-/

theorem storesNoMore_deleteInstanceRow (id : Nat) : StoresNoMore (deleteInstanceRow id) := by
  apply StoresNoMore.exec
  intro env db₁ reply db₂ hwrite stored db h
  cases hwrite
  apply h.sub
  · exact fun s hs => ((Table.mem_delete _ _ _).mp hs).1
  · exact fun i hi => ((Table.mem_delete _ _ _).mp hi).1
  · rfl

theorem storesNoMore_deleteInstanceRows (ids : List Nat) :
    StoresNoMore (deleteInstanceRows ids) := by
  induction ids with
  | nil => exact StoresNoMore.done ()
  | cons id rest ih => exact (storesNoMore_deleteInstanceRow id).bind (fun _ => ih)

theorem storesNoMore_deleteRows (sel : ScaledPhoto -> Bool) :
    StoresNoMore (ScaledPhotos.deleteRows sel) := by
  apply StoresNoMore.exec
  intro env db₁ reply db₂ hwrite stored db h
  cases hwrite
  exact h.same rfl rfl

theorem storesNoMore_deleteScaledPhoto (id : Nat) :
    StoresNoMore (ScaledPhotos.deleteScaledPhoto id) := by
  apply (StoresNoMore.ask _).bind
  intro row
  cases row with
  | none => exact StoresNoMore.done ()
  | some c =>
      exact (storesNoMore_deleteRows _).bind
        (fun _ => storesNoMore_deleteInstanceRow c.photoInstanceId)

theorem storesNoMore_deleteScaledPhotosBySourcePhotoId (sourcePhotoId : Nat) :
    StoresNoMore (ScaledPhotos.deleteScaledPhotosBySourcePhotoId sourcePhotoId) := by
  apply (StoresNoMore.ask _).bind
  intro scaledPhotos
  exact (storesNoMore_deleteRows _).bind (fun _ => storesNoMore_deleteInstanceRows _)

theorem storesNoMore_deleteSourcePhoto (id : Nat) :
    StoresNoMore (SourcePhotos.deleteSourcePhoto id) := by
  apply (StoresNoMore.ask _).bind
  intro row
  cases row with
  | none => exact StoresNoMore.done ()
  | some s =>
      have hdelete : StoresNoMore (Prog.exec (fun (_ : Env) (db : PhotoDb) =>
          (.ok ((), db.deleteSources (fun s' => s'.id == id)) : Except Exn (Unit × PhotoDb)))) := by
        apply StoresNoMore.exec
        intro env db₁ reply db₂ hwrite stored db h
        cases hwrite
        apply h.sub
        · exact fun s' hs' => ((Table.mem_delete _ _ _).mp hs').1
        · exact fun i hi => hi
        · rfl
      exact hdelete.bind (fun _ => storesNoMore_deleteInstanceRow s.photoInstanceId)

theorem storesNoMore_deletePhotoForItem (tableName : String) (tableItemId : Int) :
    StoresNoMore (deletePhotoForItem tableName tableItemId) := by
  apply (StoresNoMore.ask _).bind
  intro row
  cases row with
  | none => exact StoresNoMore.done false
  | some tipRow =>
      have hdelete :
          StoresNoMore (TableItemPhotos.deleteTableItemPhoto tableName tableItemId) := by
        apply StoresNoMore.exec
        intro env db₁ reply db₂ hwrite stored db h
        cases hwrite
        exact h.same rfl rfl
      refine hdelete.bind (fun _ => StoresNoMore.bind ?_ (fun _ => StoresNoMore.done true))
      exact (storesNoMore_deleteScaledPhotosBySourcePhotoId _).bind
        (fun _ => storesNoMore_deleteSourcePhoto _)

theorem storesNoMore_deletePhotoIfPresent (tableName : String) (tableItemId : Int) :
    StoresNoMore (deletePhotoIfPresent tableName tableItemId) := by
  have hpresent : StoresNoMore (TableItemPhotos.hasPhoto tableName tableItemId) :=
    (StoresNoMore.ask _).bind (fun _ => StoresNoMore.done _)
  apply hpresent.bind
  intro present
  cases present with
  | false => exact StoresNoMore.done ()
  | true =>
      exact (storesNoMore_deletePhotoForItem tableName tableItemId).bind
        (fun _ => StoresNoMore.done ())

/-!
# Scaled photos
-/

theorem storesNoMore_addPhotoInstance (photoBytes : List Char) (type : String)
    (width height : Int) :
    StoresNoMore (PhotoInstances.addPhotoInstance photoBytes type width height) := by
  apply StoresNoMore.exec
  intro env db₁ reply db₂ hwrite stored db h
  rcases exceptBind_ok hwrite with ⟨⟨row, table⟩, hinsert, hpure⟩
  cases hpure
  rcases Table.insert?_some (orUniqueViolation_ok hinsert) with ⟨hrow, hrows, hnext⟩
  have hid : row.id = db₁.photoInstances.nextId := by rw [hrow]
  have hcases : forall i, i ∈ table.rows -> i ∈ db₁.photoInstances.rows ∨ i = row := by
    intro i hi
    rw [hrows] at hi
    exact (List.mem_append.mp hi).imp id List.mem_singleton.mp
  constructor
  · exact h.sources
  · intro i hi
    rcases hcases i hi with hold | rfl
    · exact h.instances i hold
    · exact Or.inr (hid ▸ h.nextId)
  · intro i hi
    change i.id < table.nextId
    rw [hnext]
    rcases hcases i hi with hold | rfl
    · exact Nat.lt_succ_of_lt (h.below i hold)
    · exact hid ▸ Nat.lt_succ_self _
  · change db.photoInstances.nextId ≤ table.nextId
    rw [hnext]
    exact Nat.le_succ_of_le h.nextId

theorem storesNoMore_updateLastUsedAtUs (id : Nat) :
    StoresNoMore (ScaledPhotos.updateLastUsedAtUs id) := by
  apply StoresNoMore.exec
  intro env db₁ reply db₂ hwrite stored db h
  rcases exceptBind_ok hwrite with ⟨⟨changed, table⟩, _, hpure⟩
  cases hpure
  exact h.same rfl rfl

theorem storesNoMore_addScaledPhoto (sourcePhotoId photoInstanceId : Nat)
    (width height : Int) :
    StoresNoMore (ScaledPhotos.addScaledPhoto sourcePhotoId photoInstanceId width height) := by
  apply StoresNoMore.exec
  intro env db₁ reply db₂ hwrite stored db h
  rcases exceptBind_ok hwrite with ⟨⟨row, table⟩, _, hpure⟩
  cases hpure
  exact h.same rfl rfl

theorem storesNoMore_cachedScaledPhoto (sourcePhotoId : Nat) (width height : Int) :
    StoresNoMore (cachedScaledPhoto sourcePhotoId width height) := by
  apply (StoresNoMore.ask _).bind
  intro row
  cases row with
  | none => exact StoresNoMore.done none
  | some c =>
      exact (storesNoMore_updateLastUsedAtUs c.id).bind
        (fun _ => (StoresNoMore.ask _).bind (fun _ => StoresNoMore.done _))

theorem storesNoMore_createScaledPhoto (library : ImageLibrary) (sourcePhotoId : Nat)
    (width height : Int) :
    StoresNoMore (createScaledPhoto library sourcePhotoId width height) := by
  apply (StoresNoMore.ask _).bind
  intro row
  cases row with
  | none => exact StoresNoMore.done _
  | some pair =>
      apply (StoresNoMore.ask _).bind
      intro instanceRow
      cases instanceRow with
      | none => exact StoresNoMore.done _
      | some i =>
          dsimp only
          split
          · exact StoresNoMore.done _
          · split
            · exact StoresNoMore.done _
            · apply (StoresNoMore.ofExcept _).bind
              intro scaled
              apply (storesNoMore_addPhotoInstance _ _ _ _).bind
              intro id
              exact (storesNoMore_addScaledPhoto _ _ _ _).bind
                (fun _ => StoresNoMore.done _)

theorem storesNoMore_getOrCreateScaledPhoto (library : ImageLibrary) (sourcePhotoId : Nat)
    (width height : Int) :
    StoresNoMore (getOrCreateScaledPhoto library sourcePhotoId width height) := by
  apply (storesNoMore_cachedScaledPhoto sourcePhotoId width height).bind
  intro found
  cases found with
  | some photo => exact StoresNoMore.done _
  | none => exact storesNoMore_createScaledPhoto library sourcePhotoId width height

theorem storesNoMore_getSourcePhotoForItem (tableName : String) (tableItemId : Int) :
    StoresNoMore (getSourcePhotoForItem tableName tableItemId) := by
  apply (StoresNoMore.ask _).bind
  intro row
  cases row with
  | none => exact StoresNoMore.done none
  | some tipRow =>
      apply (StoresNoMore.ask _).bind
      intro pair
      cases pair with
      | none => exact StoresNoMore.done none
      | some pair => exact StoresNoMore.done _

theorem storesNoMore_getScaledPhotoForItem (library : ImageLibrary) (tableName : String)
    (tableItemId width height : Int) :
    StoresNoMore (getScaledPhotoForItem library tableName tableItemId width height) := by
  apply (storesNoMore_getSourcePhotoForItem tableName tableItemId).bind
  intro found
  cases found with
  | none => exact StoresNoMore.done _
  | some sourceInfo =>
      exact (storesNoMore_getOrCreateScaledPhoto library sourceInfo.id width height).bind
        (fun _ => StoresNoMore.done _)

theorem storesNoMore_transaction (library : ImageLibrary) (secretsHelper : SecretsHelperPtr)
    (visit : PhotoVisit) (url : PhotoUrl) :
    StoresNoMore (url.transaction library secretsHelper visit) := by
  cases url with
  | photo tableName tableItemId =>
      apply (StoresNoMore.ofExcept _).bind
      intro allowed
      split
      · exact StoresNoMore.done _
      · have hdata : StoresNoMore (getSourcePhotoData tableName tableItemId) := by
          apply (storesNoMore_getSourcePhotoForItem tableName tableItemId).bind
          intro found
          cases found with
          | none => exact StoresNoMore.done none
          | some sourceInfo => exact (StoresNoMore.ask _).bind (fun _ => StoresNoMore.done _)
        apply hdata.bind
        intro found
        cases found with
        | none => exact StoresNoMore.done _
        | some photo => exact StoresNoMore.done _
  | scaledPhoto tableName tableItemId width height =>
      apply (StoresNoMore.ofExcept _).bind
      intro allowed
      split
      · exact StoresNoMore.done _
      · apply (StoresNoMore.ofExcept _).bind
        intro box
        apply (storesNoMore_getScaledPhotoForItem library _ _ _ _).bind
        intro result
        split
        · exact StoresNoMore.done _
        · exact StoresNoMore.done _

/-!
# Eviction
-/

theorem storesNoMore_deleteEachScaledPhoto (rows : List ScaledPhoto) :
    StoresNoMore (deleteEachScaledPhoto rows) := by
  induction rows with
  | nil => exact StoresNoMore.done ()
  | cons row rest ih => exact (storesNoMore_deleteScaledPhoto row.id).bind (fun _ => ih)

theorem storesNoMore_deleteScaledPhotosOlderThan (maxAgeUs : Int) :
    StoresNoMore (deleteScaledPhotosOlderThan maxAgeUs) := by
  apply (StoresNoMore.ask _).bind
  intro nowUs
  apply (StoresNoMore.ask _).bind
  intro oldPhotos
  exact (storesNoMore_deleteEachScaledPhoto oldPhotos).bind (fun _ => StoresNoMore.done _)

theorem storesNoMore_deleteOlderThan (cutoffUs : Int) :
    StoresNoMore (ScaledPhotos.deleteOlderThan cutoffUs) := by
  apply (storesNoMore_deleteRows _).bind
  intro deletedRows
  exact (storesNoMore_deleteInstanceRows deletedRows).bind (fun _ => StoresNoMore.done _)

theorem storesNoMore_deleteOldestScaledPhotosUntilSize (targetBytes : Int) (rounds : Nat) :
    StoresNoMore (deleteOldestScaledPhotosUntilSize targetBytes rounds) := by
  induction rounds with
  | zero => exact StoresNoMore.done 0
  | succ rounds ih =>
      apply (StoresNoMore.ask _).bind
      intro currentBytes
      split
      · exact StoresNoMore.done 0
      · apply (StoresNoMore.ask _).bind
        intro oldest
        cases oldest with
        | nil => exact StoresNoMore.done 0
        | cons c rest =>
            apply (storesNoMore_deleteScaledPhoto c.id).bind
            intro _
            exact ih.bind (fun _ => StoresNoMore.done _)

/-!
# Uploads
-/

/-- At most one photo is stored, and it bears the time of the transaction. -/
def StoresOne (clock : Option Nat) (db db' : PhotoDb) : Prop :=
  exists stored, Within stored db db' ∧ forall s, stored = some s ->
    exists now, clock = some now ∧ s.lastUpdatedAtUs = (now : Int)

theorem Within.storesOne {clock : Option Nat} (h : Within none db db₁) :
    StoresOne clock db db₁ := ⟨none, h, fun _ hnone => nomatch hnone⟩

theorem StoresNoMore.ensures {result : Type} {p : PhotoSql result} (hp : StoresNoMore p)
    (env : Env) (h : Within stored db db₁) :
    Prog.Ensures env p (fun _ db₂ => Within stored db db₂) db₁ :=
  fun _ _ => (hp stored db).run env h

theorem ensures_storesOne_addSourcePhoto {env : Env} (photoInstanceId : Nat)
    (h : Within none db db₁) :
    Prog.Ensures env (SourcePhotos.addSourcePhoto photoInstanceId) (fun _ db₂ =>
      exists s, Within (some s) db db₂ ∧ s.lastUpdatedAtUs = (env.now : Int)) db₁ := by
  apply Prog.ensures_exec
  intro id db₂ hwrite
  rcases exceptBind_ok hwrite with ⟨⟨row, table⟩, hinsert, hpure⟩
  cases hpure
  rcases Table.insert?_some (orUniqueViolation_ok hinsert) with ⟨hrow, hrows, _⟩
  refine ⟨row, ?_, by rw [hrow]⟩
  constructor
  · intro s hs
    have hmem : s ∈ table.rows := hs
    rw [hrows] at hmem
    rcases List.mem_append.mp hmem with hold | hnew
    · rcases h.sources s hold with hold | hnone
      · exact Or.inl hold
      · cases hnone
    · exact Or.inr (congrArg some (List.mem_singleton.mp hnew).symm)
  · exact h.instances
  · exact h.below
  · exact h.nextId

theorem storesNoMore_addTableItemPhoto (tableName : String) (tableItemId : Int)
    (sourcePhotoId : Nat) :
    StoresNoMore (TableItemPhotos.addTableItemPhoto tableName tableItemId sourcePhotoId) := by
  apply StoresNoMore.exec
  intro env db₁ reply db₂ hwrite stored db h
  rcases exceptBind_ok hwrite with ⟨⟨row, table⟩, _, hpure⟩
  cases hpure
  exact h.same rfl rfl

theorem ensures_storesOne_replacePhoto {env : Env} (h : InstancesBelow db) (tableName : String)
    (tableItemId : Int) (imageType : String) (photo : PhotoData) :
    Prog.Ensures env ((deletePhotoIfPresent tableName tableItemId).bind (fun _ =>
      storePhoto tableName tableItemId imageType photo))
      (fun _ db' => StoresOne (some env.now) db db') db := by
  refine Prog.Ensures.bind
    ((storesNoMore_deletePhotoIfPresent tableName tableItemId).ensures env h.within) ?_
  intro _ db₁ h₁
  refine Prog.Ensures.bind ((storesNoMore_addPhotoInstance _ _ _ _).ensures env h₁) ?_
  intro photoInstanceId db₂ h₂
  refine Prog.Ensures.bind (ensures_storesOne_addSourcePhoto photoInstanceId h₂) ?_
  rintro sourcePhotoId db₃ ⟨s, h₃, htime⟩
  refine Prog.Ensures.bind ((storesNoMore_addTableItemPhoto _ _ _).ensures env h₃) ?_
  intro _ db₄ h₄
  refine Prog.ensures_bind_ask (fun _ _ => Prog.ensures_done ?_)
  refine ⟨some s, h₄, ?_⟩
  intro s' hs'
  rw [← Option.some.inj hs']
  exact ⟨env.now, rfl, htime⟩

theorem ensures_storesOne_uploadAndAssociatePhoto (library : ImageLibrary) {env : Env}
    (h : InstancesBelow db) (secretsHelper : SecretsHelperPtr) (tableName : String)
    (tableItemId : Int) (imageBytes : List UInt8) (imageType : String) :
    Prog.Ensures env (uploadAndAssociatePhoto library secretsHelper tableName tableItemId
      imageBytes imageType) (fun _ db' => StoresOne (some env.now) db db') db := by
  apply Prog.ensures_bind_ask
  intro supported _
  split
  · exact Prog.ensures_done h.within.storesOne
  · split
    · split
      · exact Prog.ensures_done h.within.storesOne
      · refine Prog.Ensures.bind (ensures_maxSourceDimensions secretsHelper) ?_
        intro _ db₁ hdb
        rw [hdb]
        exact ensures_storesOne_replacePhoto h tableName tableItemId imageType _
    · split
      · exact Prog.ensures_done h.within.storesOne
      · refine Prog.Ensures.bind (ensures_maxSourceDimensions secretsHelper) ?_
        intro limits db₁ hdb
        rw [hdb]
        apply Prog.ensures_bind_ofExcept
        intro photo _
        exact ensures_storesOne_replacePhoto h tableName tableItemId imageType photo

def PhotoEvent.clock : PhotoEvent -> Option Nat
  | .uploadAndAssociatePhoto env _ _ _ _ _ => some env.now
  | .deletePhotoForItem env _ _ => some env.now
  | .getScaledPhotoForItem env _ _ _ _ => some env.now
  | .getOrCreateScaledPhoto env _ _ _ => some env.now
  | .deleteScaledPhotosOlderThan env _ => some env.now
  | .deleteOldestScaledPhotosUntilSize env _ => some env.now
  | .deleteOlderThan env _ => some env.now
  | .idsUsedUp _ _ _ _ => none

theorem photoStep_storesOne (library : ImageLibrary) (h : InstancesBelow db)
    (event : PhotoEvent) : StoresOne event.clock db (photoStep library db event) := by
  cases event with
  | uploadAndAssociatePhoto env secretsHelper tableName tableItemId imageBytes imageType =>
      exact Prog.Ensures.keeps h.within.storesOne
        (ensures_storesOne_uploadAndAssociatePhoto library h _ _ _ _ _)
  | deletePhotoForItem env tableName tableItemId =>
      exact ((storesNoMore_deletePhotoForItem _ _).transact env h).storesOne
  | getScaledPhotoForItem env tableName tableItemId width height =>
      exact ((storesNoMore_getScaledPhotoForItem _ _ _ _ _).transact env h).storesOne
  | getOrCreateScaledPhoto env sourcePhotoId width height =>
      exact ((storesNoMore_getOrCreateScaledPhoto _ _ _ _).transact env h).storesOne
  | deleteScaledPhotosOlderThan env maxAgeUs =>
      exact ((storesNoMore_deleteScaledPhotosOlderThan _).transact env h).storesOne
  | deleteOldestScaledPhotosUntilSize env targetBytes =>
      exact ((storesNoMore_deleteOldestScaledPhotosUntilSize _ _).transact env h).storesOne
  | deleteOlderThan env cutoffUs =>
      exact ((storesNoMore_deleteOlderThan _).transact env h).storesOne
  | idsUsedUp instances sources scaled links =>
      refine Within.storesOne ?_
      constructor
      · exact fun s hs => Or.inl hs
      · exact fun i hi => Or.inl hi
      · exact fun i hi => Nat.lt_add_right instances (h i hi)
      · exact Nat.le_add_right _ instances

end Transactions

/-!
# Runs of the site
-/

structure PhotoSite where
  db : PhotoDb
  secretsHelper : SecretsHelperPtr

def PhotoSite.fresh (photoSupportTables : List String) : PhotoSite where
  db := PhotoDb.fresh photoSupportTables
  secretsHelper := none

inductive SiteEvent where
  | photo (event : PhotoEvent)
  | configure (secretsHelper : SecretsHelperPtr)
  | get (env : Env) (visit : PhotoVisit) (url : PhotoUrl)

def SiteEvent.clock : SiteEvent -> Option Nat
  | .photo event => event.clock
  | .configure _ => none
  | .get env _ _ => some env.now

section Runs

variable (library : ImageLibrary)

def PhotoSite.get (site : PhotoSite) (env : Env) (visit : PhotoVisit) (url : PhotoUrl) :
    PhotoResponse :=
  (url.handleGet library site.secretsHelper env visit site.db).1

def siteStep (site : PhotoSite) : SiteEvent -> PhotoSite
  | .photo event => { site with db := photoStep library site.db event }
  | .configure secretsHelper => { site with secretsHelper := secretsHelper }
  | .get env visit url =>
      { site with db := (url.handleGet library site.secretsHelper env visit site.db).2 }

def clocks (events : List SiteEvent) : List Nat := events.filterMap SiteEvent.clock

def ClockGoesOn (events : List SiteEvent) : Prop := (clocks events).Pairwise (fun t t' => t < t')

instance (events : List SiteEvent) : Decidable (ClockGoesOn events) :=
  inferInstanceAs (Decidable (List.Pairwise _ _))

/-- Each photo was stored at one of these times, and no two at one. -/
structure Stamped (times : List Nat) (db : PhotoDb) : Prop where
  consistent : Consistent library [] [] db
  below : InstancesBelow db
  stamped : forall s, s ∈ db.sourcePhotos.rows ->
    exists now, now ∈ times ∧ s.lastUpdatedAtUs = (now : Int)
  unique : forall s s', s ∈ db.sourcePhotos.rows -> s' ∈ db.sourcePhotos.rows ->
    s.lastUpdatedAtUs = s'.lastUpdatedAtUs -> s = s'

variable {library} {times : List Nat} {site : PhotoSite} {db db' : PhotoDb}

theorem handleGet_storesOne (secretsHelper : SecretsHelperPtr) (env : Env)
    (visit : PhotoVisit) (url : PhotoUrl) (h : InstancesBelow db) :
    StoresOne (some env.now) db (url.handleGet library secretsHelper env visit db).2 := by
  have hrun := (storesNoMore_transaction library secretsHelper visit url).transact env h
  unfold PhotoUrl.handleGet
  split
  · exact h.within.storesOne
  · exact h.within.storesOne
  · split
    · rename_i response db' heq
      rw [heq] at hrun
      exact hrun.storesOne
    · rename_i err db' heq
      rw [heq] at hrun
      exact hrun.storesOne

theorem handleGet_consistent (secretsHelper : SecretsHelperPtr) (env : Env)
    (visit : PhotoVisit) (url : PhotoUrl) (h : Consistent library [] [] db) :
    Consistent library [] [] (url.handleGet library secretsHelper env visit db).2 := by
  have hrun : Consistent library [] []
      (Prog.transact env (url.transaction library secretsHelper visit) db).2 :=
    Prog.Ensures.keeps h ((ensures_transaction h).mono (fun _ _ hpost => hpost.1))
  unfold PhotoUrl.handleGet
  split
  · exact h
  · exact h
  · split
    · rename_i response db' heq
      rw [heq] at hrun
      exact hrun
    · rename_i err db' heq
      rw [heq] at hrun
      exact hrun

theorem siteStep_storesOne (h : InstancesBelow site.db) (event : SiteEvent) :
    StoresOne event.clock site.db (siteStep library site event).db := by
  cases event with
  | photo event => exact photoStep_storesOne library h event
  | configure secretsHelper => exact h.within.storesOne
  | get env visit url => exact handleGet_storesOne site.secretsHelper env visit url h

theorem siteStep_consistent (h : Consistent library [] [] site.db) (event : SiteEvent) :
    Consistent library [] [] (siteStep library site event).db := by
  cases event with
  | photo event => exact consistent_photoStep h event
  | configure secretsHelper => exact h
  | get env visit url => exact handleGet_consistent site.secretsHelper env visit url h

theorem clocks_append (events : List SiteEvent) (event : SiteEvent) :
    clocks (events ++ [event]) = clocks events ++ event.clock.toList := by
  unfold clocks
  rw [List.filterMap_append]
  cases hclock : event.clock <;> simp [hclock]

theorem ClockGoesOn.last {events : List SiteEvent} {event : SiteEvent} {now : Nat}
    (h : ClockGoesOn (events ++ [event])) (hclock : event.clock = some now) :
    forall time, time ∈ clocks events -> time < now := by
  unfold ClockGoesOn at h
  rw [clocks_append, hclock] at h
  intro time htime
  exact (List.pairwise_append.mp h).2.2 time htime now (List.mem_singleton_self now)

theorem ClockGoesOn.before {events events' : List SiteEvent}
    (h : ClockGoesOn (events ++ events')) : ClockGoesOn events := by
  unfold ClockGoesOn clocks at h
  rw [List.filterMap_append] at h
  exact (List.pairwise_append.mp h).1

theorem Stamped.step (h : Stamped library times site.db) {event : SiteEvent}
    (hlater : forall now, event.clock = some now -> forall time, time ∈ times -> time < now) :
    Stamped library (times ++ event.clock.toList) (siteStep library site event).db := by
  have hstores : StoresOne event.clock site.db (siteStep library site event).db :=
    siteStep_storesOne h.below event
  rcases hstores with ⟨stored, hwithin, htime⟩
  have hnew : forall s, stored = some s -> exists now, event.clock = some now ∧
      s.lastUpdatedAtUs = (now : Int) ∧ forall s', s' ∈ site.db.sourcePhotos.rows ->
        s'.lastUpdatedAtUs ≠ s.lastUpdatedAtUs := by
    intro s hs
    rcases htime s hs with ⟨now, hclock, hnow⟩
    refine ⟨now, hclock, hnow, ?_⟩
    intro s' hs' heq
    rcases h.stamped s' hs' with ⟨time, hmem, htime'⟩
    have hlt := hlater now hclock time hmem
    rw [htime', hnow] at heq
    omega
  constructor
  · exact siteStep_consistent h.consistent event
  · exact hwithin.below
  · intro s hs
    rcases hwithin.sources s hs with hold | hstored
    · rcases h.stamped s hold with ⟨time, hmem, htime⟩
      exact ⟨time, List.mem_append_left _ hmem, htime⟩
    · rcases hnew s hstored with ⟨now, hclock, hnow, _⟩
      refine ⟨now, List.mem_append_right _ ?_, hnow⟩
      rw [hclock]
      exact List.mem_singleton_self now
  · intro s s' hs hs' heq
    rcases hwithin.sources s hs with hold | hstored
    · rcases hwithin.sources s' hs' with hold' | hstored'
      · exact h.unique s s' hold hold' heq
      · rcases hnew s' hstored' with ⟨_, _, _, hother⟩
        exact absurd heq (hother s hold)
    · rcases hwithin.sources s' hs' with hold' | hstored'
      · rcases hnew s hstored with ⟨_, _, _, hother⟩
        exact absurd heq.symm (hother s' hold')
      · exact Option.some.inj (hstored.symm.trans hstored')

theorem stamped_run (photoSupportTables : List String) {events : List SiteEvent}
    (hclock : ClockGoesOn events) :
    Stamped library (clocks events)
      (after (siteStep library) (PhotoSite.fresh photoSupportTables) events).db := by
  induction events using List.reverseRecOn with
  | nil =>
      exact
        { consistent := consistent_fresh library photoSupportTables
          below := fun _ hi => nomatch hi
          stamped := fun _ hs => nomatch hs
          unique := fun _ _ hs => nomatch hs }
  | append_singleton events event ih =>
      rw [clocks_append, after_append, after_cons, after_nil]
      exact (ih hclock.before).step (fun now hnow => hclock.last hnow)

theorem stored_before (photoSupportTables : List String) {pre mid : List SiteEvent}
    (hclock : ClockGoesOn (pre ++ mid)) {s : SourcePhoto} {i : PhotoInstance}
    (hs : s ∈ (after (siteStep library) (PhotoSite.fresh photoSupportTables)
      (pre ++ mid)).db.sourcePhotos.rows)
    (hi : i ∈ (after (siteStep library) (PhotoSite.fresh photoSupportTables)
      (pre ++ mid)).db.photoInstances.rows)
    (hid : i.id = s.photoInstanceId)
    (htime : exists now, now ∈ clocks pre ∧ s.lastUpdatedAtUs = (now : Int)) :
    s ∈ (after (siteStep library) (PhotoSite.fresh photoSupportTables)
        pre).db.sourcePhotos.rows ∧
      i ∈ (after (siteStep library) (PhotoSite.fresh photoSupportTables)
        pre).db.photoInstances.rows := by
  induction mid using List.reverseRecOn with
  | nil =>
      rw [List.append_nil] at hs hi
      exact ⟨hs, hi⟩
  | append_singleton mid event ih =>
      rw [← List.append_assoc] at hclock hs hi
      rw [after_append, after_cons, after_nil] at hs hi
      have hstamped : Stamped library (clocks (pre ++ mid)) (after (siteStep library)
          (PhotoSite.fresh photoSupportTables) (pre ++ mid)).db :=
        stamped_run photoSupportTables hclock.before
      have hstores : StoresOne event.clock _ (siteStep library _ event).db :=
        siteStep_storesOne hstamped.below event
      rcases hstores with ⟨stored, hwithin, hstored⟩
      have hold : s ∈ (after (siteStep library) (PhotoSite.fresh photoSupportTables)
          (pre ++ mid)).db.sourcePhotos.rows := by
        rcases hwithin.sources s hs with hold | hnew
        · exact hold
        · -- A photo of this event bears a later time.
          rcases hstored s hnew with ⟨now, hnow, hlast⟩
          rcases htime with ⟨time, hmem, htime⟩
          have hbefore : time ∈ clocks (pre ++ mid) := by
            unfold clocks
            rw [List.filterMap_append]
            exact List.mem_append_left _ hmem
          have hlt := hclock.last hnow time hbefore
          omega
      have holdInstance : i ∈ (after (siteStep library) (PhotoSite.fresh photoSupportTables)
          (pre ++ mid)).db.photoInstances.rows := by
        rcases hwithin.instances i hi with hold' | hnew
        · exact hold'
        · -- The instance of an old photo is an old one.
          rcases hstamped.consistent.instance_of_reference
            (Consistent.source_mem_references hold) with ⟨j, hj, hjid⟩
          have hlt := hstamped.below j hj
          have hsame : j.id = i.id := hjid.trans hid.symm
          omega
      exact ih hclock.before hold holdInstance

end Runs

end Images
end ServerComponents
