import ServerComponents.Auth.EmailVerifications
import ServerComponents.Auth.PersonDeviceTokens
import ServerComponents.Relational.Thinned
import ServerComponents.Statements.Alike

/-!
# Token clean-up

`CleanupExpired` deletes what has expired.  Two runs of the same token operations, with
clean-ups at different points, keep two databases that differ in expired rows only, and
no operation accepts an expired row.
-/

namespace ServerComponents
namespace Auth

open Relational Statements

namespace TokenCleanupHelper

variable [Citext]

structure TokenCleanupResult where
  deviceTokensDeleted : Nat
  emailVerificationsDeleted : Nat
  deriving Repr, DecidableEq

/-- The clock stands for an `asOfUs` of zero. -/
def cleanupExpired (asOfUs : Int) : Sql TokenCleanupResult := do
  let asOfUs ← if asOfUs = 0 then nowUs else pure asOfUs
  let deviceTokensDeleted ← DeviceTokens.deleteExpired asOfUs
  let emailVerificationsDeleted ← EmailVerifications.deleteExpired asOfUs
  pure ⟨deviceTokensDeleted, emailVerificationsDeleted⟩

end TokenCleanupHelper

section Cleanup

variable [Citext]

/-- The second database lacks rows of the first that have expired by this time. -/
structure CleanedUp (now : Nat) (db db' : AuthDb) : Prop where
  deviceTokens : ThinnedTable DeviceToken.id (fun r => r.expiresAt < (now : Int))
    db.deviceTokens db'.deviceTokens
  emailVerifications : ThinnedTable EmailVerification.id (fun r => r.expiresAt < (now : Int))
    db.emailVerifications db'.emailVerifications
  rest : db' = { db with
    deviceTokens := db'.deviceTokens, emailVerifications := db'.emailVerifications }

/-- No expired row holds the uuid or the hash of a new token. -/
def Unused (db : AuthDb) (now : Nat) (uuid secretHash : String) : Prop :=
  forall r, r ∈ db.deviceTokens.rows -> r.expiresAt < (now : Int) ->
    r.uuid ≠ uuid ∧ r.secretHash ≠ secretHash

namespace CleanedUp

variable {now : Nat} {db db' : AuthDb}

theorem people_eq (h : CleanedUp now db db') : db'.people = db.people := by
  rw [h.rest]

theorem mono {now' : Nat} (h : CleanedUp now db db') (hnow : now ≤ now') :
    CleanedUp now' db db' := by
  refine ⟨h.deviceTokens.mono ?_, h.emailVerifications.mono ?_, h.rest⟩
  · intro r hr
    show r.expiresAt < (now' : Int)
    have hlt : r.expiresAt < (now : Int) := hr
    omega
  · intro r hr
    show r.expiresAt < (now' : Int)
    have hlt : r.expiresAt < (now : Int) := hr
    omega

theorem withDeviceTokens (h : CleanedUp now db db')
    {table table' : Table DeviceToken DeviceToken.Clash}
    (htable : ThinnedTable DeviceToken.id (fun r => r.expiresAt < (now : Int)) table table') :
    CleanedUp now { db with deviceTokens := table } { db' with deviceTokens := table' } := by
  refine ⟨htable, h.emailVerifications, ?_⟩
  rw [h.rest]

theorem withEmailVerifications (h : CleanedUp now db db')
    {table table' : Table EmailVerification EmailVerification.Clash}
    (htable : ThinnedTable EmailVerification.id (fun r => r.expiresAt < (now : Int))
      table table') :
    CleanedUp now { db with emailVerifications := table }
      { db' with emailVerifications := table' } := by
  refine ⟨h.deviceTokens, htable, ?_⟩
  rw [h.rest]

theorem withPeople (h : CleanedUp now db db') (table : Table Person Person.Clash) :
    CleanedUp now { db with people := table } { db' with people := table } := by
  refine ⟨h.deviceTokens, h.emailVerifications, ?_⟩
  rw [h.rest]

end CleanedUp

/-!
# Statements over the two databases
-/

section Statements

variable {env : Env} {db db' : AuthDb} {secrets : SecretsHelperPtr}

/-- A program that runs alike keeps the databases together. -/
abbrev AlikeCleaned {a : Type} (env : Env) (p : Sql a) (db db' : AuthDb) : Prop :=
  Prog.Alike env p (fun _ db db' => CleanedUp env.now db db') db db'

variable (h : CleanedUp env.now db db')

include h in
theorem alike_pure {a : Type} {value : a} :
    AlikeCleaned env (pure value : Sql a) db db' := Prog.alike_done h

theorem alike_bindCleaned {a b : Type} {p : Sql b} {f : b -> Sql a}
    (hp : AlikeCleaned env p db db')
    (hf : forall value db db', CleanedUp env.now db db' -> AlikeCleaned env (f value) db db') :
    AlikeCleaned env (p.bind f) db db' := by
  apply Prog.alike_bind
  apply hp.mono
  intro outcome t t' ht
  cases outcome with
  | ok value => exact hf value t t' ht
  | error err => exact ht

include h in
theorem alike_read {a : Type} {read : Env -> AuthDb -> Except Exn a}
    (hread : read env db = read env db') :
    AlikeCleaned env (Prog.ask read) db db' := Prog.alike_ask hread h

include h in
theorem alike_lookupSecret {helper : SecretsHelper} {name : String}
    (hsettings : SettingsElsewhere (some helper)) :
    AlikeCleaned env (lookupSecret helper name) db db' :=
  alike_read h (hsettings helper rfl db db' name)

include h in
theorem alike_lookupPersonByEmail {email : String} :
    AlikeCleaned env (People.lookupPersonByEmail email) db db' := by
  apply alike_read h
  simp only [People.personByEmail, h.people_eq]

theorem alike_nowUs_bind {a : Type} {f : Int -> Sql a}
    {post : Except Exn a -> AuthDb -> AuthDb -> Prop}
    (h : Prog.Alike env (f env.now) post db db') :
    Prog.Alike env (nowUs.bind f) post db db' := by
  apply Prog.alike_bind
  exact Prog.alike_ask (by rfl) h

include h in
theorem alike_writePeople {a b : Type}
    (write : Env -> Table Person Person.Clash -> Except Exn (b × Table Person Person.Clash))
    (reply : b -> a) :
    AlikeCleaned env (Prog.exec (fun env db => do
      let (value, table) ← write env db.people
      pure (reply value, { db with people := table }))) db db' := by
  apply Prog.alike_exec
  rw [h.people_eq]
  cases hwrite : write env db.people with
  | error err => exact Or.inr ⟨err, rfl, rfl, h⟩
  | ok pair => exact Or.inl ⟨reply pair.1, _, _, rfl, rfl, h.withPeople pair.2⟩

/-!
# Device tokens
-/

variable (hsettings : SettingsElsewhere secrets)

include hsettings in
theorem alike_deviceTokenHelper {sodium : Sodium} {secretBytes : Blob}
    {post : Except Exn (Option (String × Int)) -> AuthDb -> AuthDb -> Prop}
    (hnone : post (.ok none) db db')
    (herror : forall err, post (.error err) db db')
    (hsome : forall expiresUs, post (.ok (some (sodium.hashBinary secretBytes, expiresUs)))
      db db') :
    Prog.Alike env (deviceTokenHelper sodium secrets secretBytes) post db db' := by
  cases secrets with
  | none => exact Prog.alike_done hnone
  | some helper =>
      apply Prog.alike_ask_bind (hsettings helper rfl db db' _) herror
      intro val _
      split
      · exact Prog.alike_done hnone
      · apply Prog.alike_ofExcept_bind herror
        intro d _
        exact alike_nowUs_bind (Prog.alike_done (hsome _))

include h in
/-- The insertion succeeds in both databases or in neither, and the new row is the one
that its id finds. -/
theorem alike_addDeviceToken {personId : Nat} {secretHash : String} {micros : Int}
    (hunused : Unused db env.now env.uuid secretHash) :
    Prog.Alike env (DeviceTokens.addDeviceToken personId secretHash micros)
      (fun outcome db db' => CleanedUp env.now db db' ∧ forall id, outcome = .ok id ->
        db.deviceTokens.find? (fun r => r.id == id) =
          db'.deviceTokens.find? (fun r => r.id == id)) db db' := by
  apply Prog.alike_exec
  cases hexpiry : bigint (env.now + micros) with
  | error err => exact Or.inr ⟨err, rfl, rfl, h, fun _ hid => by cases hid⟩
  | ok expiresAt =>
      dsimp only [bind, Except.bind]
      have hinsert := @ThinnedTable.insert? _ _ _ _ _ _ _ h.deviceTokens (fun id =>
        { id := id, uuid := env.uuid, personId := personId
          secretHash := secretHash, createdAt := env.now, lastUsedAt := none
          expiresAt := expiresAt, revoked := false }) (fun _ => rfl) (by
          intro r hr hdead hclash
          rcases hclash with hid | huuid | hhash
          · exact Nat.ne_of_lt (h.deviceTokens.serial r hr) hid
          · exact (hunused r hr hdead).1 huuid
          · exact (hunused r hr hdead).2 hhash)
      rcases hinsert with ⟨hnone, hnone'⟩ | ⟨table, table', hsome, hsome', hthinned, hrows, hrows'⟩
      · rw [hnone, hnone']
        exact Or.inr ⟨.sql .uniqueViolation, rfl, rfl, h, fun _ hid => by cases hid⟩
      · rw [hsome, hsome']
        refine Or.inl ⟨_, _, _, rfl, rfl, h.withDeviceTokens hthinned, ?_⟩
        · intro id hid
          cases hid
          have hnew : forall rows : List DeviceToken,
              (forall r, r ∈ rows -> r ∈ db.deviceTokens.rows) ->
              rows.find? (fun r => r.id == db.deviceTokens.nextId) = none := by
            intro rows hsub
            apply List.find?_eq_none.mpr
            intro r hr
            have hlt := h.deviceTokens.serial r (hsub r hr)
            simpa using Nat.ne_of_lt hlt
          show table.rows.find? _ = table'.rows.find? _
          rw [hrows, hrows', List.find?_append, List.find?_append, hnew _ (fun _ hr => hr),
            hnew _ (fun r hr => h.deviceTokens.rows.sublist.subset hr)]

include hsettings h in
theorem alike_createDeviceToken {sodium : Sodium} {secretBytes : Blob} {email : String}
    (hunused : Unused db env.now env.uuid (sodium.hashBinary secretBytes)) :
    AlikeCleaned env (createDeviceToken sodium secrets secretBytes email) db db' := by
  have hperson : People.personByEmail db email = People.personByEmail db' email := by
    simp only [People.personByEmail, h.people_eq]
  apply Prog.alike_ask_bind (by rw [hperson]) (fun _ => h)
  intro person _
  cases person with
  | none => exact Prog.alike_done h
  | some p =>
      dsimp only
      split
      · apply Prog.alike_tryCatch
        apply Prog.alike_bind
        apply alike_deviceTokenHelper hsettings
        · exact Prog.alike_done h
        · exact fun _ => Prog.alike_done h
        · intro expiresUs
          apply Prog.alike_bind
          apply (alike_addDeviceToken h hunused).mono
          intro outcome t t' hadded
          cases outcome with
          | error err => exact Prog.alike_done hadded.1
          | ok id =>
              have hfind := hadded.2 id rfl
              apply Prog.alike_ask_bind
              · rw [hfind]
              · exact fun _ => Prog.alike_done hadded.1
              · exact fun row _ => Prog.alike_done hadded.1
      · exact Prog.alike_done h

include h in
theorem rotate_thinned {sel : DeviceToken -> Bool} {newSecretHash : String} {expiresAt : Int}
    (hunused : Unused db env.now env.uuid newSecretHash)
    (hlive : forall r, r ∈ db.deviceTokens.rows -> sel r = true ->
      Not (r.expiresAt < (env.now : Int))) :
    (db.deviceTokens.update? sel (DeviceTokens.rotate env newSecretHash expiresAt) = none ∧
      db'.deviceTokens.update? sel (DeviceTokens.rotate env newSecretHash expiresAt) = none) ∨
    exists changed table table',
      db.deviceTokens.update? sel (DeviceTokens.rotate env newSecretHash expiresAt) =
        some (changed, table) ∧
      db'.deviceTokens.update? sel (DeviceTokens.rotate env newSecretHash expiresAt) =
        some (changed, table') ∧
      CleanedUp env.now { db with deviceTokens := table }
        { db' with deviceTokens := table' } := by
  have hrotated : forall r r', r ∈ db.deviceTokens.rows -> r' ∈ db.deviceTokens.rows ->
      sel r = true -> r'.expiresAt < (env.now : Int) ->
      Not (DeviceToken.Clash (DeviceTokens.rotate env newSecretHash expiresAt r) r') := by
    intro r r' hr hr' hsel hdead hclash
    rcases hclash with hid | huuid | hhash
    · have hsame : r = r' := Table.eq_of_clash DeviceToken.Clash.symm hr hr' (Or.inl hid)
      exact hlive r hr hsel (hsame ▸ hdead)
    · exact (hunused r' hr' hdead).1 huuid.symm
    · exact (hunused r' hr' hdead).2 hhash.symm
  have hupdate := @ThinnedTable.update? _ sel _ _ _ _ _ _ h.deviceTokens
    (DeviceTokens.rotate env newSecretHash expiresAt) (fun _ => rfl) hlive
    (fun r r' hr hr' hsel hdead =>
      ⟨hrotated r r' hr hr' hsel hdead, fun hclash =>
        hrotated r r' hr hr' hsel hdead (DeviceToken.Clash.symm hclash)⟩)
  rcases hupdate with hnone | ⟨changed, table, table', hsome, hsome', hthinned⟩
  · exact Or.inl hnone
  · exact Or.inr ⟨changed, table, table', hsome, hsome', h.withDeviceTokens hthinned⟩

include h in
theorem alike_consumeAndRotate {oldSecretHash oldUuid newSecretHash : String} {micros : Int}
    (hunused : Unused db env.now env.uuid newSecretHash) :
    AlikeCleaned env
      (DeviceTokens.consumeAndRotate oldSecretHash oldUuid newSecretHash micros) db db' := by
  have hlive : forall r, r ∈ db.deviceTokens.rows ->
      DeviceTokens.Consumable oldSecretHash oldUuid env.now r = true ->
      Not (r.expiresAt < (env.now : Int)) := by
    intro r _ hr
    simp only [DeviceTokens.Consumable, Bool.and_eq_true, decide_eq_true_eq] at hr
    omega
  apply Prog.alike_exec
  unfold DeviceTokens.consumeAndRotateWrite
  rw [← h.deviceTokens.find?_eq hlive]
  cases hfind : db.deviceTokens.find?
      (DeviceTokens.Consumable oldSecretHash oldUuid env.now) with
  | none => exact Or.inl ⟨none, db, db', rfl, rfl, h⟩
  | some row =>
      cases hexpiry : bigint (env.now + micros) with
      | error err => exact Or.inr ⟨err, rfl, rfl, h⟩
      | ok expiresAt =>
          dsimp only [bind, Except.bind]
          rcases @rotate_thinned _ _ _ _ h _ _ expiresAt hunused hlive with
            ⟨hnone, hnone'⟩ | ⟨changed, table, table', hsome, hsome', hcleaned⟩
          · rw [hnone, hnone']
            exact Or.inr ⟨.sql .uniqueViolation, rfl, rfl, h⟩
          · rw [hsome, hsome']
            exact Or.inl ⟨_, _, _, rfl, rfl, hcleaned⟩

include hsettings h in
theorem alike_tryLoginWithDeviceToken {sodium : Sodium} {secretBytes : Blob}
    {tokenId base64EncodedSecret : String}
    (hunused : Unused db env.now env.uuid (sodium.hashBinary secretBytes)) :
    AlikeCleaned env (tryLoginWithDeviceToken sodium secrets secretBytes tokenId
      base64EncodedSecret) db db' := by
  apply Prog.alike_tryCatch
  apply Prog.alike_ofExcept_bind
  · exact fun _ => Prog.alike_done h
  intro presented _
  apply Prog.alike_bind
  apply alike_deviceTokenHelper hsettings
  · exact Prog.alike_done h
  · exact fun _ => Prog.alike_done h
  · intro expiresUs
    apply Prog.alike_bind
    apply (alike_consumeAndRotate h hunused).mono
    intro outcome t t' ht
    cases outcome with
    | error err => exact Prog.alike_done ht
    | ok rotated =>
        cases rotated with
        | none => exact Prog.alike_done ht
        | some pair => exact Prog.alike_done ht

include h in
theorem alike_removeDeviceTokens {sel : DeviceToken -> Bool} :
    AlikeCleaned env (Prog.exec (fun _ db =>
      .ok ((), { db with deviceTokens := db.deviceTokens.delete sel }))) db db' :=
  Prog.alike_exec (Or.inl ⟨(), _, _, rfl, rfl,
    h.withDeviceTokens (h.deviceTokens.delete sel)⟩)

theorem CleanedUp.find_left {now : Nat} (h : CleanedUp now db db') {id : Nat} {row : DeviceToken}
    (hfind : db'.deviceTokens.find? (fun r => r.id == id) = some row) :
    db.deviceTokens.find? (fun r => r.id == id) = some row := by
  rcases Table.find?_some hfind with ⟨hrow, hid⟩
  have hmem := h.deviceTokens.rows.sublist.subset hrow
  cases hfind' : db.deviceTokens.find? (fun r => r.id == id) with
  | none =>
      have hnot := Table.find?_none hfind' hmem
      rw [hid] at hnot
      cases hnot
  | some row' =>
      rcases Table.find?_some hfind' with ⟨hrow', hid'⟩
      simp only [beq_iff_eq] at hid hid'
      rw [Table.eq_of_clash DeviceToken.Clash.symm hrow' hmem (Or.inl (hid'.trans hid.symm))]

theorem CleanedUp.find_right {now : Nat} (h : CleanedUp now db db') {id : Nat}
    {row : DeviceToken} (hfind : db.deviceTokens.find? (fun r => r.id == id) = some row)
    (hlive : Not (row.expiresAt < (now : Int))) :
    db'.deviceTokens.find? (fun r => r.id == id) = some row := by
  rcases Table.find?_some hfind with ⟨hrow, hid⟩
  have hmem := (h.deviceTokens.rows.mem_or_dead hrow).resolve_right hlive
  cases hfind' : db'.deviceTokens.find? (fun r => r.id == id) with
  | none =>
      have hnot := Table.find?_none hfind' hmem
      rw [hid] at hnot
      cases hnot
  | some row' =>
      have hleft := h.find_left hfind'
      rw [hfind] at hleft
      rw [hleft]

def revokedById (id : Nat) (r : DeviceToken) : DeviceToken :=
  if r.id == id then { r with revoked := true } else r

omit [Citext] in
theorem revokedById_fields (id : Nat) (r : DeviceToken) :
    (revokedById id r).id = r.id ∧ (revokedById id r).uuid = r.uuid ∧
      (revokedById id r).secretHash = r.secretHash ∧
      (revokedById id r).expiresAt = r.expiresAt := by
  unfold revokedById
  split <;> exact ⟨rfl, rfl, rfl, rfl⟩

theorem revoke_rows (env : Env) (db : AuthDb) (id : Nat) :
    exists table,
      (Prog.transact env (DeviceTokens.revoke id) db).2 = { db with deviceTokens := table } ∧
        table.rows = db.deviceTokens.rows.map (revokedById id) ∧
        table.nextId = db.deviceTokens.nextId := by
  unfold Prog.transact
  simp only [DeviceTokens.revoke, DeviceTokens.lookupDeviceTokenById, Prog.bind_eq,
    Prog.run_bind, Prog.run_ask]
  cases hfind : db.deviceTokens.find? (fun r => r.id == id) with
  | none =>
      refine ⟨db.deviceTokens, rfl, ?_, rfl⟩
      have hsame : forall r, r ∈ db.deviceTokens.rows -> revokedById id r = r := by
        intro r hr
        unfold revokedById
        rw [Table.find?_none hfind hr]
        rfl
      exact (List.map_congr_left hsame |>.trans (List.map_id _)).symm
  | some row =>
      have hkeep : forall r r', r ∈ db.deviceTokens.rows -> r' ∈ db.deviceTokens.rows ->
          DeviceToken.Clash (revokedById id r) (revokedById id r') -> r.Clash r' := by
        intro r r' _ _ hclash
        have hr := revokedById_fields id r
        have hr' := revokedById_fields id r'
        unfold DeviceToken.Clash at hclash ⊢
        rw [hr.1, hr.2.1, hr.2.2.1, hr'.1, hr'.2.1, hr'.2.2.1] at hclash
        exact hclash
      rcases Table.update?_isSome (fun r => r.id == id)
        (fun r : DeviceToken => { r with revoked := true }) hkeep with ⟨changed, table, hupdate⟩
      refine ⟨table, ?_, (Table.update?_some hupdate).2.1, (Table.update?_some hupdate).2.2⟩
      simp [Prog.run_exec, hupdate, orUniqueViolation, bind, Except.bind, pure, Except.pure]

include h in
theorem cleanedUp_revoke {id : Nat} :
    CleanedUp env.now (Prog.transact env (DeviceTokens.revoke id) db).2
      (Prog.transact env (DeviceTokens.revoke id) db').2 := by
  rcases revoke_rows env db id with ⟨table, hdb, hrows, hnextId⟩
  rcases revoke_rows env db' id with ⟨table', hdb', hrows', hnextId'⟩
  rw [hdb, hdb']
  apply h.withDeviceTokens
  apply h.deviceTokens.map (fun r => (revokedById_fields id r).1) _ hrows hnextId hrows' hnextId'
  intro r _ hdead
  show (revokedById id r).expiresAt < (env.now : Int)
  rw [(revokedById_fields id r).2.2.2]
  exact hdead

include h in
theorem cleanedUp_updateDeviceToken {id : Nat} {secretHash : String} {micros : Int}
    (hunused : Unused db env.now env.uuid secretHash) :
    CleanedUp env.now
      (Prog.transact env (DeviceTokens.updateDeviceToken id secretHash micros) db).2
      (Prog.transact env (DeviceTokens.updateDeviceToken id secretHash micros) db').2 := by
  -- without a valid token a run changes nothing
  have hidle : forall base : AuthDb,
      (forall row, base.deviceTokens.find? (fun r => r.id == id) = some row ->
        row.revoked = true ∨ row.expiresAt < (env.now : Int)) ->
      (Prog.transact env (DeviceTokens.updateDeviceToken id secretHash micros) base).2 =
        base := by
    intro base hinvalid
    have hwp : Prog.wp env (DeviceTokens.updateDeviceToken id secretHash micros)
        (fun _ base' => base' = base) base := by
      simp only [DeviceTokens.updateDeviceToken, DeviceTokens.isValid,
        DeviceTokens.lookupDeviceTokenById, nowUs, Prog.bind_eq, Prog.wp_bind, Prog.wp_ask]
      cases hfind : base.deviceTokens.find? (fun r => r.id == id) with
      | none => exact trivial
      | some row =>
          dsimp only
          rcases hinvalid row hfind with hrevoked | hexpired
          · rw [if_pos hrevoked]
            rfl
          · split
            · rfl
            · have hnot : decide ((env.now : Int) ≤ row.expiresAt) = false := by
                simpa using hexpired
              simp only [Prog.wp_bind, Prog.wp_ask, Prog.pure_eq, Prog.wp_done]
              rw [if_pos hnot]
              rfl
    exact Prog.transact_of_wp hwp (fun _ _ _ => rfl)
  by_cases hvalid : exists row, db.deviceTokens.find? (fun r => r.id == id) = some row ∧
      row.revoked = false ∧ Not (row.expiresAt < (env.now : Int))
  · rcases hvalid with ⟨row, hfind, hrevoked, hlive⟩
    have hfind' := h.find_right hfind hlive
    have halike : AlikeCleaned env
        (DeviceTokens.updateDeviceToken id secretHash micros) db db' := by
      apply Prog.alike_ask_bind (by rw [hfind, hfind']) (fun _ => h)
      intro _ _
      apply Prog.alike_bind
      apply Prog.alike_ask_bind (by rw [hfind, hfind']) (fun _ => h)
      intro row' hrow'
      rw [hfind] at hrow'
      cases hrow'
      rw [if_neg (by simp [hrevoked])]
      have hlive' : forall r, r ∈ db.deviceTokens.rows -> (r.id == id) = true ->
          Not (r.expiresAt < (env.now : Int)) := by
        intro r hr hid
        rcases Table.find?_some hfind with ⟨hrow, hid'⟩
        simp only [beq_iff_eq] at hid hid'
        rw [Table.eq_of_clash DeviceToken.Clash.symm hr hrow (Or.inl (hid.trans hid'.symm))]
        exact hlive
      apply alike_nowUs_bind
      apply Prog.alike_done
      dsimp only
      split
      · exact Prog.alike_done h
      · apply Prog.alike_exec
        cases hexpiry : bigint (env.now + micros) with
        | error err => exact Or.inr ⟨err, rfl, rfl, h⟩
        | ok expiresAt =>
            dsimp only [bind, Except.bind]
            rcases @rotate_thinned _ _ _ _ h _ _ expiresAt hunused hlive' with
              ⟨hnone, hnone'⟩ | ⟨changed, table, table', hsome, hsome', hcleaned⟩
            · rw [hnone, hnone']
              exact Or.inr ⟨.sql .uniqueViolation, rfl, rfl, h⟩
            · rw [hsome, hsome']
              exact Or.inl ⟨_, _, _, rfl, rfl, hcleaned⟩
    exact (halike.transact (fun _ _ _ _ => h)).2
  · have hinvalid : forall row, db.deviceTokens.find? (fun r => r.id == id) = some row ->
        row.revoked = true ∨ row.expiresAt < (env.now : Int) := by
      intro row hfind
      by_cases hrevoked : row.revoked = true
      · exact Or.inl hrevoked
      · right
        by_contra hlive
        exact hvalid ⟨row, hfind, by simpa using hrevoked, hlive⟩
    rw [hidle db hinvalid, hidle db' (fun row hfind' => hinvalid row (h.find_left hfind'))]
    exact h

/-!
# Email verifications
-/

include h in
theorem alike_deleteVerifications {sel : EmailVerification -> Bool} :
    AlikeCleaned env (Prog.exec (fun _ db =>
      .ok ((), { db with emailVerifications := db.emailVerifications.delete sel }))) db db' :=
  Prog.alike_exec (Or.inl ⟨(), _, _, rfl, rfl,
    h.withEmailVerifications (h.emailVerifications.delete sel)⟩)

include hsettings in
theorem alike_lookupRequired {caller name : String} {read : String -> Except Exn Int}
    {post : Except Exn Int -> AuthDb -> AuthDb -> Prop}
    (hpost : forall outcome, post outcome db db') :
    Prog.Alike env (EmailVerifications.lookupRequired secrets caller name read)
      post db db' := by
  cases secrets with
  | none => exact Prog.alike_fail (hpost _)
  | some helper =>
      apply Prog.alike_ask_bind (hsettings helper rfl db db' _) (fun err => hpost _)
      intro val _
      split
      · exact Prog.alike_fail (hpost _)
      · exact Prog.alike_ofExcept (hpost _)

include h in
theorem alike_insertVerification {personId : Nat} {tokenHash : String} {expiresAt : Int}
    (hgone : forall r, r ∈ db.emailVerifications.rows -> r.personId ≠ personId) :
    AlikeCleaned env (EmailVerifications.insertVerification personId tokenHash expiresAt)
      db db' := by
  apply Prog.alike_exec
  have hinsert := @ThinnedTable.insert? _ _ _ _ _ _ _ h.emailVerifications (fun id =>
    { id := id, personId := personId, tokenHash := tokenHash
      expiresAt := expiresAt, attempts := 0 }) (fun _ => rfl) (by
      intro r hr _ hclash
      rcases hclash with hid | hperson
      · exact Nat.ne_of_lt (h.emailVerifications.serial r hr) hid
      · exact hgone r hr hperson)
  rcases hinsert with ⟨hnone, hnone'⟩ | ⟨table, table', hsome, hsome', hthinned, _⟩
  · rw [hnone, hnone']
    exact Or.inr ⟨.sql .uniqueViolation, rfl, rfl, h⟩
  · rw [hsome, hsome']
    exact Or.inl ⟨_, _, _, rfl, rfl, h.withEmailVerifications hthinned⟩

include hsettings h in
theorem alike_addEmailVerificationById {personId : Nat} {tokenHash : String} :
    AlikeCleaned env
      (EmailVerifications.addEmailVerificationById secrets personId tokenHash) db db' := by
  have hdeleted := h.withEmailVerifications
    (h.emailVerifications.delete (fun r => r.personId == personId))
  have hgone : forall r,
      r ∈ (db.emailVerifications.delete (fun r => r.personId == personId)).rows ->
      r.personId ≠ personId := by
    intro r hr
    simpa using ((Table.mem_delete _ _ r).mp hr).2
  apply Prog.alike_bind
  apply Prog.alike_exec
  refine Or.inl ⟨(), _, _, rfl, rfl, ?_⟩
  apply alike_nowUs_bind
  apply Prog.alike_bind
  apply alike_lookupRequired hsettings
  intro outcome
  cases outcome with
  | error err => exact hdeleted
  | ok windowMicros => exact alike_insertVerification hdeleted hgone

include hsettings h in
theorem alike_addEmailVerificationByEmail {email tokenHash : String} :
    AlikeCleaned env
      (EmailVerifications.addEmailVerificationByEmail secrets email tokenHash) db db' := by
  apply alike_bindCleaned (alike_lookupPersonByEmail h)
  intro person db db' h
  cases person with
  | none => exact Prog.alike_fail h
  | some p => exact alike_addEmailVerificationById h hsettings

include h in
theorem alike_claimAttempt {personId : Nat} {attemptLimit : Int} :
    AlikeCleaned env (EmailVerifications.claimAttempt personId attemptLimit) db db' := by
  have hlive : forall r, r ∈ db.emailVerifications.rows ->
      EmailVerifications.Claimable personId attemptLimit env.now r = true ->
      Not (r.expiresAt < (env.now : Int)) := by
    intro r _ hr
    simp only [EmailVerifications.Claimable, Bool.and_eq_true, decide_eq_true_eq] at hr
    omega
  have hclaimed : forall r r', r ∈ db.emailVerifications.rows ->
      r' ∈ db.emailVerifications.rows ->
      EmailVerifications.Claimable personId attemptLimit env.now r = true ->
      r'.expiresAt < (env.now : Int) ->
      Not (EmailVerification.Clash (EmailVerifications.claimed r) r') := by
    intro r r' hr hr' hsel hdead hclash
    have hsame : r = r' := Table.eq_of_clash EmailVerification.Clash.symm hr hr' hclash
    exact hlive r hr hsel (hsame ▸ hdead)
  have hupdate := @ThinnedTable.update? _
    (EmailVerifications.Claimable personId attemptLimit env.now) _ _ _ _ _ _ h.emailVerifications
    EmailVerifications.claimed (fun _ => rfl) hlive
    (fun r r' hr hr' hsel hdead =>
      ⟨hclaimed r r' hr hr' hsel hdead, fun hclash =>
        hclaimed r r' hr hr' hsel hdead (EmailVerification.Clash.symm hclash)⟩)
  apply Prog.alike_exec
  rcases hupdate with ⟨hnone, hnone'⟩ | ⟨changed, table, table', hsome, hsome', hthinned⟩
  · rw [hnone, hnone']
    exact Or.inr ⟨.sql .uniqueViolation, rfl, rfl, h⟩
  · rw [hsome, hsome']
    exact Or.inl ⟨_, _, _, rfl, rfl, h.withEmailVerifications hthinned⟩

include h in
theorem alike_addAdminAlert {description : String} :
    AlikeCleaned env (AdminAlerts.addAdminAlert description) db db' := by
  apply Prog.alike_exec
  refine Or.inl ⟨(), _, _, rfl, rfl, h.deviceTokens, h.emailVerifications, ?_⟩
  rw [h.rest]

include hsettings h

theorem alike_doEmailVerification {email tokenHash : String} :
    AlikeCleaned env (EmailVerifications.doEmailVerification secrets email tokenHash)
      db db' := by
  apply alike_bindCleaned (alike_lookupPersonByEmail h)
  intro person db db' h
  cases person with
  | none => exact Prog.alike_fail h
  | some p =>
      apply alike_bindCleaned (alike_lookupRequired hsettings (fun _ => h))
      intro attemptLimit db db' h
      apply alike_bindCleaned (alike_claimAttempt h)
      intro row db db' h
      cases row with
      | none => exact alike_pure h
      | some row =>
          dsimp only
          split
          · apply alike_bindCleaned (alike_deleteVerifications h)
            exact fun _ _ _ h => alike_pure h
          · split
            · apply alike_bindCleaned (alike_addAdminAlert h)
              exact fun _ _ _ h => alike_pure h
            · exact alike_pure h

theorem alike_verifyPersonEmail {urlDecode : UrlDecode} {sodium : Sodium}
    {emailEncoded encodedSecret : String} :
    AlikeCleaned env (verifyPersonEmail urlDecode sodium secrets emailEncoded encodedSecret)
      db db' := by
  apply Prog.alike_ofExcept_bind (fun _ => h)
  intro link _
  apply alike_bindCleaned (alike_doEmailVerification h hsettings)
  intro matched db db' h
  split
  · apply alike_bindCleaned (alike_lookupPersonByEmail h)
    intro person db db' h
    cases person with
    | none => exact Prog.alike_fail h
    | some p =>
        dsimp only
        split
        · exact Prog.alike_fail h
        · exact alike_writePeople h (fun env table => orUniqueViolation
            (table.update? (fun r => sameEmail r.email link.1) (People.markVerified env)))
            (fun _ => ())
  · exact Prog.alike_fail h

theorem alike_preliminaryRegisterPerson {sodium : Sodium} {salt tokenBytes : Blob}
    {personInfo : PersonInfo} {password : String} {sendEmail : Bool} :
    AlikeCleaned env (preliminaryRegisterPerson sodium secrets salt tokenBytes personInfo
      password sendEmail) db db' := by
  have hhash : AlikeCleaned env (hashPasswordWithSecrets sodium secrets salt password)
      db db' := by
    cases secrets with
    | none => exact Prog.alike_ofExcept h
    | some helper =>
        apply alike_bindCleaned (alike_lookupSecret h hsettings)
        intro opsStr db db' h
        apply alike_bindCleaned (alike_lookupSecret h hsettings)
        intro memStr db db' h
        exact Prog.alike_ofExcept h
  apply alike_bindCleaned hhash
  intro hash db db' h
  have hadded : AlikeCleaned env
      (People.addPerson personInfo.email personInfo.firstName personInfo.lastName hash)
      db db' :=
    alike_writePeople h (fun env table => orUniqueViolation (table.insert? (fun id =>
      { id := id, email := personInfo.email, firstName := personInfo.firstName
        lastName := personInfo.lastName, passwordHash := hash, emailVerifiedAt := none
        mustChangePassword := false, updatedAt := env.now
        failedLoginAttempts := 0, lockedUntil := none })))
      (fun row => row.id)
  apply alike_bindCleaned hadded
  intro id db db' h
  apply alike_bindCleaned (alike_addEmailVerificationById h hsettings)
  intro _ db db' h
  cases sendEmail with
  | false => exact alike_pure h
  | true =>
      cases secrets with
      | none => exact alike_pure h
      | some helper =>
          have hmail : AlikeCleaned env (composeVerifyMail helper personInfo
              (sodium.base64Encode tokenBytes)) db db' := by
            unfold composeVerifyMail
            iterate 6
              apply alike_bindCleaned (alike_lookupSecret (by assumption) hsettings)
              intro _ _ _ _
            exact alike_pure (by assumption)
          apply alike_bindCleaned hmail
          exact fun _ _ _ h => alike_pure h

end Statements

/-!
# Runs with clean-ups
-/

inductive TokenOperation where
  | createDeviceToken (secretBytes : Blob) (email : String)
  | tryLoginWithDeviceToken (secretBytes : Blob) (tokenId base64EncodedSecret : String)
  | addDeviceToken (personId : Nat) (secretHash : String) (microsUntilExpires : Int)
  | consumeAndRotate (oldSecretHash oldUuid newSecretHash : String) (microsUntilExpires : Int)
  | updateDeviceToken (id : Nat) (secretHash : String) (microsUntilExpires : Int)
  | revoke (id : Nat)
  | removeDeviceTokenById (id : Nat)
  | removeDeviceTokensForUser (personId : Nat)
  | preliminaryRegisterPerson (salt tokenBytes : Blob) (personInfo : PersonInfo)
      (password : String) (sendEmail : Bool)
  | addEmailVerificationById (personId : Nat) (tokenHash : String)
  | addEmailVerificationByEmail (email tokenHash : String)
  | doEmailVerification (email tokenHash : String)
  | verifyPersonEmail (emailEncoded encodedSecret : String)
  | deleteEmailVerification (id : Nat)

inductive TokenAnswer where
  | device (result : DeviceTokenResult)
  | consumed (rotated : Option (Nat × String))
  | issued (id : Nat)
  | registered (mail : Option VerifyMail)
  | answered (value : Bool)
  | finished

structure TokenEvent where
  env : Env
  secrets : SecretsHelperPtr
  action : TokenOperation ⊕ Int

namespace TokenEvent

variable (urlDecode : UrlDecode) (sodium : Sodium)

def program (e : TokenEvent) : Sql TokenAnswer :=
  match e.action with
  | .inl (.createDeviceToken secretBytes email) => do
      let result ← Auth.createDeviceToken sodium e.secrets secretBytes email
      pure (.device result)
  | .inl (.tryLoginWithDeviceToken secretBytes tokenId secret) => do
      let result ← Auth.tryLoginWithDeviceToken sodium e.secrets secretBytes tokenId secret
      pure (.device result)
  | .inl (.addDeviceToken personId secretHash micros) => do
      let id ← DeviceTokens.addDeviceToken personId secretHash micros
      pure (.issued id)
  | .inl (.consumeAndRotate oldSecretHash oldUuid newSecretHash micros) => do
      let rotated ← DeviceTokens.consumeAndRotate oldSecretHash oldUuid newSecretHash micros
      pure (.consumed rotated)
  | .inl (.updateDeviceToken id secretHash micros) => do
      let updated ← DeviceTokens.updateDeviceToken id secretHash micros
      pure (.answered updated)
  | .inl (.revoke id) => do
      DeviceTokens.revoke id
      pure .finished
  | .inl (.removeDeviceTokenById id) => do
      DeviceTokens.removeDeviceTokenById id
      pure .finished
  | .inl (.removeDeviceTokensForUser personId) => do
      DeviceTokens.removeDeviceTokensForUser personId
      pure .finished
  | .inl (.preliminaryRegisterPerson salt tokenBytes personInfo password sendEmail) => do
      let mail ← Auth.preliminaryRegisterPerson sodium e.secrets salt tokenBytes personInfo
        password sendEmail
      pure (.registered mail)
  | .inl (.addEmailVerificationById personId tokenHash) => do
      let id ← EmailVerifications.addEmailVerificationById e.secrets personId tokenHash
      pure (.issued id)
  | .inl (.addEmailVerificationByEmail email tokenHash) => do
      let id ← EmailVerifications.addEmailVerificationByEmail e.secrets email tokenHash
      pure (.issued id)
  | .inl (.doEmailVerification email tokenHash) => do
      let matched ← EmailVerifications.doEmailVerification e.secrets email tokenHash
      pure (.answered matched)
  | .inl (.verifyPersonEmail emailEncoded encodedSecret) => do
      Auth.verifyPersonEmail urlDecode sodium e.secrets emailEncoded encodedSecret
      pure .finished
  | .inl (.deleteEmailVerification id) => do
      EmailVerifications.deleteEmailVerification id
      pure .finished
  | .inr asOfUs => do
      let _ ← TokenCleanupHelper.cleanupExpired asOfUs
      pure .finished

def perform (db : AuthDb) (e : TokenEvent) : AuthDb :=
  (Prog.transact e.env (e.program urlDecode sodium) db).2

def outcome (db : AuthDb) (e : TokenEvent) : Except Exn TokenAnswer :=
  (Prog.transact e.env (e.program urlDecode sodium) db).1

def isOperation (e : TokenEvent) : Bool := e.action.isLeft

def observed (e : TokenEvent) : Bool :=
  match e.action with
  | .inl (.updateDeviceToken _ _ _) => false
  | .inl (.revoke _) => false
  | .inl _ => true
  | .inr _ => false

def newSecretHash (e : TokenEvent) : Option String :=
  match e.action with
  | .inl (.createDeviceToken secretBytes _) => some (sodium.hashBinary secretBytes)
  | .inl (.tryLoginWithDeviceToken secretBytes _ _) => some (sodium.hashBinary secretBytes)
  | .inl (.addDeviceToken _ secretHash _) => some secretHash
  | .inl (.consumeAndRotate _ _ newSecretHash _) => some newSecretHash
  | .inl (.updateDeviceToken _ secretHash _) => some secretHash
  | _ => none

/-- A new secret and its uuid are not those of an expired token. -/
def DrawsUnused (db : AuthDb) (e : TokenEvent) : Prop :=
  forall secretHash, e.newSecretHash sodium = some secretHash ->
    Unused db e.env.now e.env.uuid secretHash

/-- A clean-up is asked for up to the present. -/
def CleansThePast (e : TokenEvent) : Prop :=
  forall asOfUs, e.action = .inr asOfUs -> asOfUs ≤ (e.env.now : Int)

def outcomes : AuthDb -> List TokenEvent -> List (Except Exn TokenAnswer)
  | _, [] => []
  | db, e :: es =>
      if e.observed then
        e.outcome urlDecode sodium db :: outcomes (e.perform urlDecode sodium db) es
      else outcomes (e.perform urlDecode sodium db) es

variable {urlDecode sodium} {e : TokenEvent} {db db' : AuthDb}

theorem alike_answer {a : Type} {p : Sql a} {answer : a -> TokenAnswer}
    (hp : AlikeCleaned e.env p db db') :
    AlikeCleaned e.env (p.bind (fun value => .done (answer value))) db db' :=
  alike_bindCleaned hp (fun _ _ _ h => Prog.alike_done h)

theorem cleanedUp_discard {a : Type} {p : Sql a} {answer : a -> TokenAnswer} {env : Env}
    (h : CleanedUp env.now (Prog.transact env p db).2 (Prog.transact env p db').2) :
    CleanedUp env.now (Prog.transact env (p.bind (fun value => .done (answer value))) db).2
      (Prog.transact env (p.bind (fun value => .done (answer value))) db').2 := by
  have hsame : forall base : AuthDb,
      (Prog.transact env (p.bind (fun value => .done (answer value))) base).2 =
        (Prog.transact env p base).2 := by
    intro base
    unfold Prog.transact
    rw [Prog.run_bind]
    rcases p.run env base with ⟨outcome, base'⟩
    cases outcome <;> rfl
  rw [hsame, hsame]
  exact h

theorem cleanedUp_operation (hoperation : e.isOperation = true)
    (hsettings : SettingsElsewhere e.secrets) (hunused : e.DrawsUnused sodium db)
    (h : CleanedUp e.env.now db db') :
    CleanedUp e.env.now (e.perform urlDecode sodium db) (e.perform urlDecode sodium db') ∧
      (e.observed = true -> e.outcome urlDecode sodium db = e.outcome urlDecode sodium db') := by
  have hwhole : AlikeCleaned e.env (e.program urlDecode sodium) db db' ->
      CleanedUp e.env.now (e.perform urlDecode sodium db) (e.perform urlDecode sodium db') ∧
        (e.observed = true ->
          e.outcome urlDecode sodium db = e.outcome urlDecode sodium db') := by
    intro halike
    have htransact := halike.transact (fun _ _ _ _ => h)
    exact ⟨htransact.2, fun _ => htransact.1⟩
  rcases e with ⟨env, secrets, action⟩
  cases action with
  | inr asOfUs => cases hoperation
  | inl operation =>
      cases operation with
      | createDeviceToken secretBytes email =>
          exact hwhole (alike_answer (alike_createDeviceToken h hsettings (hunused _ rfl)))
      | tryLoginWithDeviceToken secretBytes tokenId secret =>
          exact hwhole (alike_answer
            (alike_tryLoginWithDeviceToken h hsettings (hunused _ rfl)))
      | addDeviceToken personId secretHash micros =>
          exact hwhole (alike_answer
            ((alike_addDeviceToken h (hunused _ rfl)).mono (fun _ _ _ hadded => hadded.1)))
      | consumeAndRotate oldSecretHash oldUuid newSecretHash micros =>
          exact hwhole (alike_answer (alike_consumeAndRotate h (hunused _ rfl)))
      | updateDeviceToken id secretHash micros =>
          exact ⟨cleanedUp_discard (cleanedUp_updateDeviceToken h (hunused _ rfl)),
            fun hobserved => by cases hobserved⟩
      | revoke id =>
          exact ⟨cleanedUp_discard (cleanedUp_revoke h), fun hobserved => by cases hobserved⟩
      | removeDeviceTokenById id => exact hwhole (alike_answer (alike_removeDeviceTokens h))
      | removeDeviceTokensForUser personId =>
          exact hwhole (alike_answer (alike_removeDeviceTokens h))
      | preliminaryRegisterPerson salt tokenBytes personInfo password sendEmail =>
          exact hwhole (alike_answer (alike_preliminaryRegisterPerson h hsettings))
      | addEmailVerificationById personId tokenHash =>
          exact hwhole (alike_answer (alike_addEmailVerificationById h hsettings))
      | addEmailVerificationByEmail email tokenHash =>
          exact hwhole (alike_answer (alike_addEmailVerificationByEmail h hsettings))
      | doEmailVerification email tokenHash =>
          exact hwhole (alike_answer (alike_doEmailVerification h hsettings))
      | verifyPersonEmail emailEncoded encodedSecret =>
          exact hwhole (alike_answer (alike_verifyPersonEmail h hsettings))
      | deleteEmailVerification id =>
          exact hwhole (alike_answer (alike_deleteVerifications h))

theorem transact_cleanupExpired (env : Env) (asOfUs : Int) (db : AuthDb) :
    exists time : Int, time = (if asOfUs = 0 then (env.now : Int) else asOfUs) ∧
      Prog.transact env (TokenCleanupHelper.cleanupExpired asOfUs) db =
        (.ok ⟨(db.deviceTokens.rows.filter (fun r => decide (r.expiresAt < time))).length,
          (db.emailVerifications.rows.filter (fun r => decide (r.expiresAt < time))).length⟩,
        { db with
          deviceTokens := db.deviceTokens.delete (fun r => decide (r.expiresAt < time))
          emailVerifications :=
            db.emailVerifications.delete (fun r => decide (r.expiresAt < time)) }) := by
  refine ⟨_, rfl, ?_⟩
  unfold Prog.transact TokenCleanupHelper.cleanupExpired
  by_cases hzero : asOfUs = 0 <;>
    simp [hzero, nowUs, Prog.run_bind, Prog.run_exec, DeviceTokens.deleteExpired,
      EmailVerifications.deleteExpired]

theorem cleanedUp_cleanUp {asOfUs : Int} (haction : e.action = .inr asOfUs)
    (hpast : e.CleansThePast) (h : CleanedUp e.env.now db db') :
    CleanedUp e.env.now db (e.perform urlDecode sodium db') := by
  rcases transact_cleanupExpired e.env asOfUs db' with ⟨time, htime, hclean⟩
  have hle : time ≤ (e.env.now : Int) := by
    rw [htime]
    split
    · exact Int.le_refl _
    · exact hpast asOfUs haction
  have hperform : e.perform urlDecode sodium db' =
      (Prog.transact e.env (TokenCleanupHelper.cleanupExpired asOfUs) db').2 := by
    unfold perform program Prog.transact
    rw [haction]
    simp only [Prog.bind_eq, Prog.run_bind]
    rcases (TokenCleanupHelper.cleanupExpired asOfUs).run e.env db' with ⟨outcome, base⟩
    cases outcome <;> rfl
  rw [hperform, hclean]
  refine ⟨h.deviceTokens.delete_right ?_, h.emailVerifications.delete_right ?_, ?_⟩
  · intro r hr
    have hlt : r.expiresAt < time := by simpa using hr
    show r.expiresAt < (e.env.now : Int)
    omega
  · intro r hr
    have hlt : r.expiresAt < time := by simpa using hr
    show r.expiresAt < (e.env.now : Int)
    omega
  · rw [h.rest]

theorem outcomes_filter {clock : Nat} {es : List TokenEvent} (h : CleanedUp clock db db')
    (hstart : forall e, e ∈ es -> clock ≤ e.env.now)
    (hclock : es.Pairwise (fun e e' => e.env.now ≤ e'.env.now))
    (hpast : forall e, e ∈ es -> e.CleansThePast)
    (hsettings : forall e, e ∈ es -> e.isOperation = true -> SettingsElsewhere e.secrets)
    (hunused : Along (perform urlDecode sodium) (fun db e => e.DrawsUnused sodium db) db
      (es.filter isOperation)) :
    outcomes urlDecode sodium db (es.filter isOperation) = outcomes urlDecode sodium db' es := by
  induction es generalizing clock db db' with
  | nil => rfl
  | cons e es ih =>
      have hnow := h.mono (hstart e List.mem_cons_self)
      rcases List.pairwise_cons.mp hclock with ⟨hlater, hclock'⟩
      have hpast' : forall e', e' ∈ es -> e'.CleansThePast :=
        fun e' he' => hpast e' (List.mem_cons_of_mem _ he')
      have hsettings' : forall e', e' ∈ es -> e'.isOperation = true ->
          SettingsElsewhere e'.secrets :=
        fun e' he' => hsettings e' (List.mem_cons_of_mem _ he')
      cases hoperation : e.isOperation with
      | true =>
          rw [List.filter_cons_of_pos hoperation] at hunused ⊢
          rcases along_cons.mp hunused with ⟨hdraws, hunused'⟩
          rcases cleanedUp_operation hoperation
            (hsettings e List.mem_cons_self hoperation) hdraws hnow with ⟨hkept, houtcome⟩
          have hrest := ih hkept hlater hclock' hpast' hsettings' hunused'
          unfold outcomes
          split
          · rename_i hobserved
            rw [houtcome hobserved, hrest]
          · exact hrest
      | false =>
          rw [List.filter_cons_of_neg (by simp [hoperation])] at hunused ⊢
          have haction : exists asOfUs, e.action = .inr asOfUs := by
            unfold isOperation at hoperation
            cases haction : e.action with
            | inl operation =>
                rw [haction] at hoperation
                cases hoperation
            | inr asOfUs => exact ⟨asOfUs, rfl⟩
          rcases haction with ⟨asOfUs, haction⟩
          have hcleaned : CleanedUp e.env.now db (e.perform urlDecode sodium db') :=
            cleanedUp_cleanUp haction (hpast e List.mem_cons_self) hnow
          have hobserved : e.observed = false := by
            unfold observed
            rw [haction]
          have hrest := ih hcleaned hlater hclock' hpast' hsettings' hunused
          rw [outcomes, hobserved]
          exact hrest

end TokenEvent

/-- The ids of the tokens are below the next ones. -/
structure SerialIds (db : AuthDb) : Prop where
  deviceTokens : forall r, r ∈ db.deviceTokens.rows -> r.id < db.deviceTokens.nextId
  emailVerifications : forall r, r ∈ db.emailVerifications.rows ->
    r.id < db.emailVerifications.nextId

/-- Runs with the same operations have the same outcomes, wherever they clean up, and a
second clean-up at the same time deletes nothing. -/
theorem tokenCleanup (urlDecode : UrlDecode) (sodium : Sodium) (db : AuthDb)
    (hserial : SerialIds db) (es es' : List TokenEvent)
    (hsame : es.filter TokenEvent.isOperation = es'.filter TokenEvent.isOperation)
    (hclock : es.Pairwise (fun e e' => e.env.now ≤ e'.env.now))
    (hclock' : es'.Pairwise (fun e e' => e.env.now ≤ e'.env.now))
    (hpast : forall e, e ∈ es ++ es' -> e.CleansThePast)
    (hsettings : forall e, e ∈ es -> e.isOperation = true -> SettingsElsewhere e.secrets)
    (hunused : Along (TokenEvent.perform urlDecode sodium)
      (fun db e => e.DrawsUnused sodium db) db (es.filter TokenEvent.isOperation)) :
    TokenEvent.outcomes urlDecode sodium db es = TokenEvent.outcomes urlDecode sodium db es' ∧
      forall (base : AuthDb) (env env' : Env) (asOfUs : Int), env'.now = env.now ->
        (Prog.transact env' (TokenCleanupHelper.cleanupExpired asOfUs)
          (Prog.transact env (TokenCleanupHelper.cleanupExpired asOfUs) base).2).1 =
            .ok ⟨0, 0⟩ := by
  have hrefl : CleanedUp 0 db db :=
    ⟨ThinnedTable.refl hserial.deviceTokens, ThinnedTable.refl hserial.emailVerifications, rfl⟩
  constructor
  · have hleft := TokenEvent.outcomes_filter hrefl (fun _ _ => Nat.zero_le _) hclock
      (fun e he => hpast e (List.mem_append_left _ he)) hsettings hunused
    have hsettings' : forall e, e ∈ es' -> e.isOperation = true ->
        SettingsElsewhere e.secrets := by
      intro e he hoperation
      have hmem : e ∈ es.filter TokenEvent.isOperation := by
        rw [hsame]
        exact List.mem_filter.mpr ⟨he, hoperation⟩
      exact hsettings e (List.mem_filter.mp hmem).1 hoperation
    rw [hsame] at hunused
    have hright := TokenEvent.outcomes_filter hrefl (fun _ _ => Nat.zero_le _) hclock'
      (fun e he => hpast e (List.mem_append_right _ he)) hsettings' hunused
    rw [← hleft, ← hright, hsame]
  · intro base env env' asOfUs hnow
    rcases TokenEvent.transact_cleanupExpired env asOfUs base with ⟨time, htime, hclean⟩
    rcases TokenEvent.transact_cleanupExpired env' asOfUs
      (Prog.transact env (TokenCleanupHelper.cleanupExpired asOfUs) base).2 with
      ⟨time', htime', hclean'⟩
    rw [hnow, ← htime] at htime'
    rw [hclean', hclean, htime']
    have hnone : forall {row : Type} (rows : List row) (expired : row -> Bool),
        ((rows.filter (fun r => ! expired r)).filter expired).length = 0 := by
      intro row rows expired
      rw [List.filter_filter]
      simp
    simp only [Table.delete, hnone]

end Cleanup

/-!
# A token that is used after a clean-up
-/

section SampleCleanup

attribute [local instance] Citext.plain

/-- Tokens expire at twice the clock and half a millisecond. -/
def tokenEvent (now : Nat) (uuid : String) (action : TokenOperation ⊕ Int) : TokenEvent where
  env := Env.ofClock now uuid
  secrets := some (SecretsHelper.ofSettings
    [(Secrets.kAuthDeviceTokenMaxDurationInMicros, "500")])
  action := action

def issueAndLogin (between : List TokenEvent) : List TokenEvent :=
  tokenEvent 1000 "a" (.inl (.createDeviceToken [65] "ann@example.com")) ::
    (between ++ [tokenEvent 2000 "b" (.inl (.tryLoginWithDeviceToken [66] "a" "A"))])

/-- A token expired at 520, before the run begins. -/
def expiredToken : AuthDb :=
  TokenEvent.perform .ok Sodium.plain onePerson
    (tokenEvent 10 "z" (.inl (.createDeviceToken [90] "ann@example.com")))

theorem tokenCleanup_sample :
    ((tokenEvent 1500 "c" (.inr 0)).perform .ok Sodium.plain expiredToken).deviceTokens.rows = [] ∧
    TokenEvent.outcomes .ok Sodium.plain expiredToken
        (issueAndLogin [tokenEvent 1500 "c" (.inr 0), tokenEvent 1800 "d" (.inr 1700)]) =
      TokenEvent.outcomes .ok Sodium.plain expiredToken (issueAndLogin []) := by
  refine ⟨by decide, (tokenCleanup .ok Sodium.plain expiredToken ⟨by decide, by decide⟩
    (issueAndLogin [tokenEvent 1500 "c" (.inr 0), tokenEvent 1800 "d" (.inr 1700)])
    (issueAndLogin []) rfl ?_ ?_ ?_ ?_ ?_).1⟩
  · simp [issueAndLogin, tokenEvent, Env.ofClock]
  · simp [issueAndLogin, tokenEvent, Env.ofClock]
  · intro e he asOfUs haction
    simp only [issueAndLogin, List.cons_append, List.nil_append, List.mem_cons,
      List.not_mem_nil, or_false] at he
    rcases he with he | he | he | he | he | he <;> rw [he] at haction ⊢ <;> cases haction
    · decide
    · decide
  · intro e he _ helper hhelper db db' name
    simp only [issueAndLogin, List.cons_append, List.nil_append, List.mem_cons,
      List.not_mem_nil, or_false] at he
    rcases he with he | he | he | he <;> rw [he] at hhelper <;> cases hhelper <;> rfl
  · refine along_cons.mpr ⟨?_, along_cons.mpr ⟨?_, along_nil⟩⟩
    · intro secretHash hnew
      cases hnew
      unfold Unused
      decide
    · intro secretHash hnew
      cases hnew
      unfold Unused
      decide

/-- The login in it succeeds. -/
example : (TokenEvent.outcomes .ok Sodium.plain expiredToken (issueAndLogin [])).map
    (fun outcome => match outcome with
      | .ok (.device result) => result.ok
      | _ => false) = [true, true] := by
  decide

end SampleCleanup

end Auth
end ServerComponents
