import ServerComponents.Images.PhotoRuns
import ServerComponents.Relational.ShortestPrefix

/-!
# Eviction by size

Scaled photos are deleted until what is left of them is small enough.  Every round asks the
database for the size and for the least recently used photo anew.  Of several photos that
were last used at the same time the database answers whichever it likes.
-/

namespace ServerComponents
namespace Images

open Relational Statements SqlUtil
open ScaledPhotos (LeastRecentlyUsed storageBytes)

/-- What a database may answer to `ORDER BY last_used_at_us ASC LIMIT 1`. -/
def AnswersOldest (answer : PhotoDb -> List ScaledPhoto) : Prop :=
  forall db : PhotoDb, (db.scaledPhotos.rows = [] -> answer db = []) ∧
    (db.scaledPhotos.rows ≠ [] -> exists c, answer db = [c] ∧ c ∈ db.scaledPhotos.rows ∧
      forall c', c' ∈ db.scaledPhotos.rows -> LeastRecentlyUsed c c')

/-- The loop of `deleteOldestScaledPhotosUntilSize` over such a database. -/
def deleteOldestUntilSize (answer : PhotoDb -> List ScaledPhoto) (targetBytes : Int) :
    Nat -> PhotoSql Int
  | 0 => pure 0
  | rounds + 1 => do
      let currentBytes ← ScaledPhotos.getTotalScaledPhotoStorageBytes
      if currentBytes ≤ targetBytes then pure 0
      else
        match ← Prog.ask (fun _ db => .ok (answer db)) with
        | [] => pure 0
        | oldest :: _ => do
            ScaledPhotos.deleteScaledPhoto oldest.id
            let deletedCount ← deleteOldestUntilSize answer targetBytes rounds
            pure (deletedCount + 1)

/-- The stable sort is one of these answers. -/
def firstSorted (db : PhotoDb) : List ScaledPhoto :=
  (db.scaledPhotos.rows.insertionSort LeastRecentlyUsed).take 1

theorem deleteOldestUntilSize_firstSorted (targetBytes : Int) (rounds : Nat) :
    deleteOldestUntilSize firstSorted targetBytes rounds =
      deleteOldestScaledPhotosUntilSize targetBytes rounds := by
  induction rounds with
  | zero => rfl
  | succ rounds ih =>
      unfold deleteOldestUntilSize deleteOldestScaledPhotosUntilSize
      rw [ih]
      rfl

instance : Std.Total LeastRecentlyUsed :=
  ⟨fun c c' => Int.le_total c.lastUsedAtUs c'.lastUsedAtUs⟩

instance : IsTrans ScaledPhoto LeastRecentlyUsed := ⟨fun _ _ _ h h' => Int.le_trans h h'⟩

theorem answersOldest_firstSorted : AnswersOldest firstSorted := by
  intro db
  constructor
  · intro hnone
    unfold firstSorted
    rw [hnone]
    rfl
  · intro hsome
    have hperm := List.perm_insertionSort LeastRecentlyUsed db.scaledPhotos.rows
    have hsorted := List.pairwise_insertionSort LeastRecentlyUsed db.scaledPhotos.rows
    unfold firstSorted
    cases hrows : db.scaledPhotos.rows.insertionSort LeastRecentlyUsed with
    | nil =>
        rw [hrows] at hperm
        exact absurd hperm.symm.eq_nil hsome
    | cons c rest =>
        rw [hrows] at hperm hsorted
        refine ⟨c, rfl, hperm.mem_iff.mp List.mem_cons_self, ?_⟩
        intro c' hc'
        rcases List.mem_cons.mp (hperm.mem_iff.mpr hc') with heq | hrest
        · rw [heq]
          exact Int.le_refl _
        · exact (List.pairwise_cons.mp hsorted).1 c' hrest

/-!
# One round
-/

/-- The instance of a scaled photo is the instance of no other photo. -/
structure EachOwnsInstance (db : PhotoDb) : Prop where
  scaled : (db.scaledPhotos.rows.map (fun c => c.photoInstanceId)).Nodup
  sources : forall c s, c ∈ db.scaledPhotos.rows -> s ∈ db.sourcePhotos.rows ->
    s.photoInstanceId ≠ c.photoInstanceId

theorem Consistent.eachOwnsInstance {library : ImageLibrary} {loose unlinked : List Nat}
    {db : PhotoDb} (h : Consistent library loose unlinked db) : EachOwnsInstance db := by
  have hnodup := (List.nodup_append.mp h.instances.nodup_held).1
  unfold PhotoDb.references at hnodup
  rw [List.map_append, List.map_map, List.map_map, List.nodup_append] at hnodup
  constructor
  · exact hnodup.2.1
  · intro c s hc hs
    exact hnodup.2.2 _ (List.mem_map_of_mem hs) _ (List.mem_map_of_mem hc)

def bytesOf (db : PhotoDb) (rows : List ScaledPhoto) : Int :=
  let lengths := rows.flatMap (fun c =>
    (db.photoInstances.rows.filter (fun i => i.id == c.photoInstanceId)).map
      (fun i => (byteaHexDecode i.photo).length))
  (lengths.sum : Nat)

theorem bytesOf_perm {db : PhotoDb} {rows rows' : List ScaledPhoto} (h : rows.Perm rows') :
    bytesOf db rows = bytesOf db rows' := by
  simp only [bytesOf, (h.flatMap_right _).sum_nat]

namespace PhotoDb

/-- The scaled photo is gone with its instance. -/
def withoutScaled (db : PhotoDb) (c : ScaledPhoto) : PhotoDb :=
  { db with
    scaledPhotos := db.scaledPhotos.delete (fun c' => c'.id == c.id)
    photoInstances := db.photoInstances.delete (fun i => i.id == c.photoInstanceId) }

end PhotoDb

section Round

variable {db : PhotoDb} {c : ScaledPhoto} (h : EachOwnsInstance db)
  (hc : c ∈ db.scaledPhotos.rows)

include h hc

theorem EachOwnsInstance.other {c' : ScaledPhoto} (hc' : c' ∈ db.scaledPhotos.rows)
    (hne : c' ≠ c) : c'.photoInstanceId ≠ c.photoInstanceId :=
  fun heq => hne (List.inj_on_of_nodup_map h.scaled hc' hc heq)

omit h in
theorem ne_of_id_ne {c' : ScaledPhoto} (hc' : c' ∈ db.scaledPhotos.rows) (hne : c' ≠ c) :
    c'.id ≠ c.id :=
  fun heq => hne (Table.eq_of_clash (fun hclash => Eq.symm hclash) hc' hc heq)

omit hc in
theorem EachOwnsInstance.withoutScaled : EachOwnsInstance (db.withoutScaled c) where
  scaled := h.scaled.sublist (List.filter_sublist.map _)
  sources := fun c' s hc' hs => h.sources c' s (List.mem_of_mem_filter hc') hs

omit h in
theorem scaledRows_perm :
    (c :: (db.withoutScaled c).scaledPhotos.rows).Perm db.scaledPhotos.rows := by
  have hnodup : db.scaledPhotos.rows.Nodup :=
    db.scaledPhotos.noClash.imp (fun hclash heq => hclash (congrArg ScaledPhoto.id heq))
  have hsame : (db.withoutScaled c).scaledPhotos.rows = db.scaledPhotos.rows.erase c := by
    rw [hnodup.erase_eq_filter]
    apply List.filter_congr
    intro c' hc'
    by_cases heq : c' = c
    · simp [heq]
    · have hid : (c'.id == c.id) = false := beq_eq_false_iff_ne.mpr (ne_of_id_ne hc hc' heq)
      have hrow : (c' != c) = true := bne_iff_ne.mpr heq
      dsimp only
      rw [hid, hrow]
      rfl
  rw [hsame]
  exact (List.perm_cons_erase hc).symm

theorem EachOwnsInstance.other_left {c' : ScaledPhoto}
    (hc' : c' ∈ (db.withoutScaled c).scaledPhotos.rows) :
    c'.photoInstanceId ≠ c.photoInstanceId := by
  rcases (Table.mem_delete _ _ _).mp hc' with ⟨hmem, hid⟩
  apply h.other hc hmem
  intro heq
  rw [heq] at hid
  simp at hid

theorem bytesOf_withoutScaled {rows : List ScaledPhoto}
    (hrows : forall c', c' ∈ rows -> c' ∈ (db.withoutScaled c).scaledPhotos.rows) :
    bytesOf (db.withoutScaled c) rows = bytesOf db rows := by
  have hsame : forall c', c' ∈ rows ->
      (db.withoutScaled c).photoInstances.rows.filter (fun i => i.id == c'.photoInstanceId) =
        db.photoInstances.rows.filter (fun i => i.id == c'.photoInstanceId) := by
    intro c' hc'
    have hother := h.other_left hc (hrows c' hc')
    unfold PhotoDb.withoutScaled Table.delete
    rw [List.filter_filter]
    apply List.filter_congr
    intro i _
    by_cases hid : i.id = c'.photoInstanceId
    · simp [hid, hother]
    · simp [hid]
  have hlengths := List.flatMap_congr (fun c' hc' => congrArg
    (List.map (fun i => (byteaHexDecode i.photo).length)) (hsame c' hc'))
  simp only [bytesOf, hlengths]

/-- No photo refers to the instance any more, so that nothing else goes with it. -/
theorem run_deleteScaledPhoto (env : Env) :
    (ScaledPhotos.deleteScaledPhoto c.id).run env db = (.ok (), db.withoutScaled c) := by
  have hclash : forall r r' : ScaledPhoto, (r.id == c.id) = true -> (r'.id == c.id) = true ->
      ScaledPhoto.Clash r r' := by
    intro r r' hr hr'
    exact (beq_iff_eq.mp hr).trans (beq_iff_eq.mp hr').symm
  have hfind : db.scaledPhotos.find? (fun c' => c'.id == c.id) = some c := by
    cases hfound : db.scaledPhotos.find? (fun c' => c'.id == c.id) with
    | none =>
        have hnone := Table.find?_none hfound hc
        simp at hnone
    | some found =>
        rcases Table.find?_some hfound with ⟨hmem, hid⟩
        rw [Table.eq_of_clash (fun hclash => Eq.symm hclash) hmem hc (beq_iff_eq.mp hid)]
  have hinstance := PhotoDb.deleteInstance_of_unreferred
    { db with scaledPhotos := db.scaledPhotos.delete (fun c' => c'.id == c.id) }
    (fun s hs => h.sources c s hc hs) (fun c' hc' => h.other_left hc hc')
  unfold ScaledPhotos.deleteScaledPhoto ScaledPhotos.getScaledPhoto ScaledPhotos.deleteRows
    deleteInstanceRow
  simp only [Prog.bind_eq, Prog.run_bind, Prog.run_ask, hfind, Prog.run_exec, hinstance]
  rfl

end Round

/-!
# The loop
-/

section Loop

variable {answer : PhotoDb -> List ScaledPhoto} {db : PhotoDb}

theorem run_stop (hanswer : AnswersOldest answer) (env : Env) {targetBytes : Int}
    (hstop : storageBytes db ≤ targetBytes ∨ db.scaledPhotos.rows = []) (rounds : Nat) :
    (deleteOldestUntilSize answer targetBytes (rounds + 1)).run env db = (.ok 0, db) := by
  unfold deleteOldestUntilSize ScaledPhotos.getTotalScaledPhotoStorageBytes
  simp only [Prog.bind_eq, Prog.run_bind, Prog.run_ask]
  split
  · rfl
  · rename_i hmore
    have hnone := (hanswer db).1 (hstop.resolve_left hmore)
    rw [Prog.run_bind, Prog.run_ask, hnone]
    rfl

theorem run_round (h : EachOwnsInstance db) {c : ScaledPhoto} (hc : c ∈ db.scaledPhotos.rows)
    (hanswered : answer db = [c]) (env : Env) {targetBytes : Int}
    (hmore : Not (storageBytes db ≤ targetBytes)) {rounds : Nat} {deletedCount : Int}
    {db' : PhotoDb} (hrest : (deleteOldestUntilSize answer targetBytes rounds).run env
      (db.withoutScaled c) = (.ok deletedCount, db')) :
    (deleteOldestUntilSize answer targetBytes (rounds + 1)).run env db =
      (.ok (deletedCount + 1), db') := by
  unfold deleteOldestUntilSize ScaledPhotos.getTotalScaledPhotoStorageBytes
  simp only [Prog.bind_eq, Prog.run_bind, Prog.run_ask, if_neg hmore, hanswered,
    run_deleteScaledPhoto h hc env, hrest]
  rfl

theorem run_deleteOldestUntilSize (hanswer : AnswersOldest answer) (h : EachOwnsInstance db)
    (env : Env) (targetBytes : Int) :
    exists deleted kept,
      ShortestPrefix LeastRecentlyUsed (fun rows => bytesOf db rows ≤ targetBytes)
        db.scaledPhotos.rows deleted kept ∧
      (deleted.foldl PhotoDb.withoutScaled db).scaledPhotos.rows.Perm kept ∧
      storageBytes (deleted.foldl PhotoDb.withoutScaled db) = bytesOf db kept ∧
      forall rounds, db.scaledPhotos.rows.length < rounds ->
        (deleteOldestUntilSize answer targetBytes rounds).run env db =
          (.ok deleted.length, deleted.foldl PhotoDb.withoutScaled db) := by
  have henough : forall (db : PhotoDb) (rows rows' : List ScaledPhoto), rows.Perm rows' ->
      bytesOf db rows ≤ targetBytes -> bytesOf db rows' ≤ targetBytes := by
    intro db rows rows' hperm hsmall
    rwa [← bytesOf_perm hperm]
  -- each round leaves one photo less
  induction hcount : db.scaledPhotos.rows.length generalizing db with
  | zero =>
      have hnone := List.length_eq_zero_iff.mp hcount
      refine ⟨[], _, ShortestPrefix.stop (henough db) (Or.inr hnone),
        (List.perm_insertionSort _ _).symm, bytesOf_perm (List.perm_insertionSort _ _).symm, ?_⟩
      intro rounds hrounds
      rcases Nat.exists_eq_add_of_lt hrounds with ⟨more, rfl⟩
      exact run_stop hanswer env (Or.inr hnone) _
  | succ count ih =>
      by_cases hmore : storageBytes db ≤ targetBytes
      · refine ⟨[], _, ShortestPrefix.stop (henough db) (Or.inl hmore),
          (List.perm_insertionSort _ _).symm, bytesOf_perm (List.perm_insertionSort _ _).symm, ?_⟩
        intro rounds hrounds
        rcases Nat.exists_eq_add_of_lt hrounds with ⟨more, rfl⟩
        exact run_stop hanswer env (Or.inl hmore) _
      · have hsome : db.scaledPhotos.rows ≠ [] := by
          intro hnone
          rw [hnone] at hcount
          cases hcount
        rcases (hanswer db).2 hsome with ⟨c, hanswered, hc, hleast⟩
        have hperm := scaledRows_perm hc
        have hleft : (db.withoutScaled c).scaledPhotos.rows.length = count := by
          have hlength := hperm.length_eq
          rw [List.length_cons] at hlength
          omega
        rcases ih h.withoutScaled hleft with ⟨deleted, kept, hprefix, hrows, hbytes, hrun⟩
        have hsame : forall rows : List ScaledPhoto,
            (forall c', c' ∈ rows -> c' ∈ (db.withoutScaled c).scaledPhotos.rows) ->
              bytesOf (db.withoutScaled c) rows = bytesOf db rows :=
          fun rows hrows => bytesOf_withoutScaled h hc hrows
        have hrest : ShortestPrefix LeastRecentlyUsed (fun rows => bytesOf db rows ≤ targetBytes)
            (db.withoutScaled c).scaledPhotos.rows deleted kept :=
          hprefix.congr (fun rows hrows => by rw [hsame rows hrows])
        refine ⟨c :: deleted, kept, hrest.cons (henough db) hperm ?_ hmore, hrows, ?_, ?_⟩
        · intro c' hc'
          exact hleast c' (List.mem_of_mem_filter hc')
        · rw [List.foldl_cons, hbytes]
          exact hsame kept (fun _ hr => hprefix.mem_of_kept hr)
        · intro rounds hrounds
          rcases Nat.exists_eq_add_of_lt hrounds with ⟨more, rfl⟩
          exact run_round h hc hanswered env hmore (hrun _ (by omega))

end Loop

/-- For every set of scaled photos that the operations can leave, and in whatever order the
database lists photos of one last use, the loop ends.  The photos that it has deleted are the
shortest prefix of an order of last use that leaves no more than the target, or all of them. -/
theorem evictsShortestPrefix (library : ImageLibrary) (photoSupportTables : List String) :
    (forall events : List PhotoEvent, EachOwnsInstance
      (after (photoStep library) (PhotoDb.fresh photoSupportTables) events)) ∧
    (AnswersOldest firstSorted ∧ forall (targetBytes : Int) (rounds : Nat),
      deleteOldestUntilSize firstSorted targetBytes rounds =
        deleteOldestScaledPhotosUntilSize targetBytes rounds) ∧
    forall (db : PhotoDb) (answer : PhotoDb -> List ScaledPhoto) (env : Env)
        (targetBytes : Int), EachOwnsInstance db -> AnswersOldest answer ->
      exists deleted kept db',
        ShortestPrefix LeastRecentlyUsed (fun rows => bytesOf db rows ≤ targetBytes)
          db.scaledPhotos.rows deleted kept ∧
        (forall rounds, db.scaledPhotos.rows.length < rounds ->
          Prog.transact env (deleteOldestUntilSize answer targetBytes rounds) db =
            (.ok deleted.length, db')) ∧
        db' = deleted.foldl PhotoDb.withoutScaled db ∧ db'.scaledPhotos.rows.Perm kept ∧
        (storageBytes db' ≤ targetBytes ∨ db'.scaledPhotos.rows = []) := by
  refine ⟨?_, ⟨answersOldest_firstSorted, deleteOldestUntilSize_firstSorted⟩, ?_⟩
  · intro events
    exact (consistent_run library photoSupportTables events).eachOwnsInstance
  · intro db answer env targetBytes h hanswer
    rcases run_deleteOldestUntilSize hanswer h env targetBytes with
      ⟨deleted, kept, hprefix, hrows, hbytes, hrun⟩
    refine ⟨deleted, kept, _, hprefix, ?_, rfl, hrows, ?_⟩
    · intro rounds hrounds
      unfold Prog.transact
      rw [hrun rounds hrounds]
    · rw [hbytes]
      exact hprefix.settled.imp id (fun hnone => (hnone ▸ hrows).eq_nil)

/-- Two copies of one byte and one of none, of which the last was used first. -/
def threeCopies : PhotoDb :=
  { PhotoDb.fresh ["classes"] with
    photoInstances :=
      { rows := [⟨1, byteaHexEncode [7, 7], "png", 2, 2⟩, ⟨2, byteaHexEncode [7], "png", 1, 1⟩,
          ⟨3, byteaHexEncode [8], "png", 1, 1⟩, ⟨4, byteaHexEncode [], "png", 1, 1⟩]
        nextId := 5
        noClash := by decide }
    sourcePhotos := { rows := [⟨1, 1, 10, 10⟩], nextId := 2, noClash := by decide }
    scaledPhotos :=
      { rows := [⟨1, 1, 2, 1, 1, 30⟩, ⟨2, 1, 3, 1, 2, 20⟩, ⟨3, 1, 4, 2, 1, 20⟩]
        nextId := 4
        noClash := by decide } }

theorem evictsShortestPrefix_threeCopies :
    EachOwnsInstance threeCopies ∧ exists deleted kept db',
      ShortestPrefix LeastRecentlyUsed (fun rows => bytesOf threeCopies rows ≤ 1)
        threeCopies.scaledPhotos.rows deleted kept ∧
      (forall rounds, 3 < rounds ->
        Prog.transact (Env.ofClock 40 "") (deleteOldestUntilSize firstSorted 1 rounds) threeCopies =
          (.ok deleted.length, db')) ∧
      db' = deleted.foldl PhotoDb.withoutScaled threeCopies ∧
      db'.scaledPhotos.rows.Perm kept ∧
      (storageBytes db' ≤ 1 ∨ db'.scaledPhotos.rows = []) :=
  have hown : EachOwnsInstance threeCopies :=
    { scaled := by decide
      sources := by
        intro c s hc hs
        simp only [threeCopies, List.mem_cons, List.not_mem_nil, or_false] at hc hs
        rcases hc with rfl | rfl | rfl <;> subst hs <;> decide }
  let library : ImageLibrary :=
    ⟨fun _ _ => .ok ⟨0, 0⟩, fun bytes _ _ _ => .ok bytes, fun side _ _ => side⟩
  ⟨hown, (evictsShortestPrefix library []).2.2 threeCopies firstSorted (Env.ofClock 40 "") 1
    hown answersOldest_firstSorted⟩

end Images
end ServerComponents
