import ServerComponents.Auth.AuthHelper

/-!
# The device-token table helper

Each definition is one statement, or the sequence of statements, of the source
function of that name.
-/

namespace ServerComponents
namespace Auth

open Relational Statements

namespace DeviceTokens

variable [Citext]

/-- `expires_at` is the statement's clock plus the third argument. -/
def addDeviceToken (personId : Nat) (secretHash : String)
    (microsUntilExpires : Int) : Sql Nat :=
  Prog.exec (fun env db => do
    let expiresAt ← bigint (env.now + microsUntilExpires)
    let (row, table) ← orUniqueViolation (db.deviceTokens.insert? (fun id =>
      { id := id, uuid := env.uuid, personId := personId
        secretHash := secretHash, createdAt := env.now, lastUsedAt := none
        expiresAt := expiresAt, revoked := false }))
    pure (row.id, { db with deviceTokens := table }))

theorem wp_addDeviceToken {env : Env} {db : AuthDb} {personId : Nat}
    {secretHash : String} {microsUntilExpires : Int}
    {post : Except Exn Nat -> AuthDb -> Prop}
    (herror : forall err, post (.error err) db)
    (hok : forall row table,
      table.rows = db.deviceTokens.rows ++ [row] ->
      row.uuid = env.uuid -> row.secretHash = secretHash ->
      row.personId = personId -> row.revoked = false ->
      row.expiresAt = env.now + microsUntilExpires ->
      IsInt64 (env.now + microsUntilExpires) ->
      post (.ok row.id) { db with deviceTokens := table }) :
    Prog.wp env (addDeviceToken personId secretHash microsUntilExpires) post db := by
  simp only [addDeviceToken, Prog.wp_exec]
  cases hexpiry : bigint (env.now + microsUntilExpires) with
  | error err => exact herror err
  | ok expiresAt =>
      rcases bigint_ok hexpiry with ⟨hvalue, hint64⟩
      simp only [bind, Except.bind]
      split
      · rename_i reply db' hwrite
        split at hwrite
        · cases hwrite
        · rename_i pair hinsert
          rcases pair with ⟨row, table⟩
          have hinsert' := Table.insert?_some (orUniqueViolation_ok hinsert)
          rcases hinsert' with ⟨hrow, hrows, _⟩
          cases hwrite
          exact hok row table hrows (by rw [hrow]) (by rw [hrow]) (by rw [hrow])
            (by rw [hrow]) (by rw [hrow]; exact hvalue) hint64
      · exact herror _

def lookupDeviceTokenById (id : Nat) : Sql DeviceToken :=
  Prog.ask (fun _ db =>
    match db.deviceTokens.find? (fun r => r.id == id) with
    | some row => .ok row
    | none =>
        .error (.runtimeError "DeviceTokens::LookupDeviceTokenById - not found"))

def revoke (id : Nat) : Sql Unit := do
  let _ ← lookupDeviceTokenById id
  Prog.exec (fun _ db => do
    let (_, table) ← orUniqueViolation (db.deviceTokens.update?
      (fun r => r.id == id) (fun r => { r with revoked := true }))
    pure ((), { db with deviceTokens := table }))

def Consumable (oldSecretHash oldUuid : String) (now : Nat) (r : DeviceToken) : Bool :=
  r.secretHash == oldSecretHash && r.uuid == oldUuid && ! r.revoked &&
    decide ((now : Int) < r.expiresAt)

def rotate (env : Env) (newSecretHash : String) (expiresAt : Int)
    (r : DeviceToken) : DeviceToken :=
  { r with
    secretHash := newSecretHash, uuid := env.uuid
    lastUsedAt := some (env.now : Int), expiresAt := expiresAt }

def consumeAndRotateWrite (oldSecretHash oldUuid newSecretHash : String)
    (microsUntilExpires : Int) (env : Env) (db : AuthDb) :
    Except Exn (Option (Nat × String) × AuthDb) :=
  match db.deviceTokens.find? (Consumable oldSecretHash oldUuid env.now) with
  | none => .ok (none, db)
  | some row => do
      let expiresAt ← bigint (env.now + microsUntilExpires)
      let (_, table) ← orUniqueViolation (db.deviceTokens.update?
        (Consumable oldSecretHash oldUuid env.now)
        (rotate env newSecretHash expiresAt))
      pure (some (row.personId, env.uuid), { db with deviceTokens := table })

theorem consumeAndRotateWrite_cases (oldSecretHash oldUuid newSecretHash : String)
    (microsUntilExpires : Int) (env : Env) (db : AuthDb) :
    (consumeAndRotateWrite oldSecretHash oldUuid newSecretHash microsUntilExpires
        env db = .ok (none, db) ∧
      db.deviceTokens.find? (Consumable oldSecretHash oldUuid env.now) = none) ∨
    (exists err, consumeAndRotateWrite oldSecretHash oldUuid newSecretHash
        microsUntilExpires env db = .error err) ∨
    (exists row table,
      consumeAndRotateWrite oldSecretHash oldUuid newSecretHash microsUntilExpires
        env db = .ok (some (row.personId, env.uuid),
          { db with deviceTokens := table }) ∧
      db.deviceTokens.find? (Consumable oldSecretHash oldUuid env.now) = some row ∧
      IsInt64 (env.now + microsUntilExpires) ∧
      table.rows = db.deviceTokens.rows.map (fun r =>
        if Consumable oldSecretHash oldUuid env.now r then
          rotate env newSecretHash (env.now + microsUntilExpires) r
        else r)) := by
  unfold consumeAndRotateWrite
  cases hfind : db.deviceTokens.find? (Consumable oldSecretHash oldUuid env.now) with
  | none => exact Or.inl ⟨rfl, rfl⟩
  | some row =>
      right
      cases hexpiry : bigint (env.now + microsUntilExpires) with
      | error err => exact Or.inl ⟨err, rfl⟩
      | ok expiresAt =>
          rcases bigint_ok hexpiry with ⟨hvalue, hint64⟩
          cases hupdate : db.deviceTokens.update?
              (Consumable oldSecretHash oldUuid env.now)
              (rotate env newSecretHash expiresAt) with
          | none =>
              left
              exact ⟨.sql .uniqueViolation, by
                simp [bind, Except.bind, hupdate, orUniqueViolation]⟩
          | some pair =>
              right
              rcases pair with ⟨changed, table⟩
              have hrows := (Table.update?_some hupdate).2.1
              exact ⟨row, table, by
                simp [bind, Except.bind, hupdate, orUniqueViolation, pure,
                  Except.pure], rfl, hint64, by rw [hrows, hvalue]⟩

def consumeAndRotate (oldSecretHash oldUuid newSecretHash : String)
    (microsUntilExpires : Int) : Sql (Option (Nat × String)) :=
  Prog.exec (consumeAndRotateWrite oldSecretHash oldUuid newSecretHash
    microsUntilExpires)

def isValid (id : Nat) : Sql Bool := do
  let row ← lookupDeviceTokenById id
  if row.revoked then pure false
  else do
    let now ← nowUs
    pure (decide (now ≤ row.expiresAt))

def updateDeviceToken (id : Nat) (secretHash : String) (microsUntilExpires : Int) :
    Sql Bool := do
  let _ ← lookupDeviceTokenById id
  let valid ← isValid id
  if valid = false then pure false
  else
    Prog.exec (fun env db => do
      let expiresAt ← bigint (env.now + microsUntilExpires)
      let (_, table) ← orUniqueViolation (db.deviceTokens.update?
        (fun r => r.id == id) (rotate env secretHash expiresAt))
      pure (true, { db with deviceTokens := table }))

def removeDeviceTokenById (id : Nat) : Sql Unit :=
  Prog.exec (fun _ db =>
    .ok ((), { db with
      deviceTokens := db.deviceTokens.delete (fun r => r.id == id) }))

def removeDeviceTokensForUser (personId : Nat) : Sql Unit :=
  Prog.exec (fun _ db =>
    .ok ((), { db with
      deviceTokens := db.deviceTokens.delete (fun r => r.personId == personId) }))

def deleteExpired (asOfUs : Int) : Sql Nat :=
  Prog.exec (fun _ db =>
    .ok ((db.deviceTokens.rows.filter (fun r => decide (r.expiresAt < asOfUs))).length,
      { db with
        deviceTokens :=
          db.deviceTokens.delete (fun r => decide (r.expiresAt < asOfUs)) }))

end DeviceTokens

end Auth
end ServerComponents
