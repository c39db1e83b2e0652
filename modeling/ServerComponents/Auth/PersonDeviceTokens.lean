import ServerComponents.Auth.DeviceTokens
import ServerComponents.Auth.People

/-!
# Issuing and consuming device tokens

The device-token functions of the person helper.  Random bytes are an argument:
each call draws its own.
-/

namespace ServerComponents
namespace Auth

open Relational Statements

/-- The return value and the two out-parameters. -/
structure DeviceTokenResult where
  ok : Bool
  tokenId : String
  base64EncodedSecret : String
  deriving Repr, DecidableEq

section DeviceTokenFunctions

variable [Citext] (sodium : Sodium) (secrets : SecretsHelperPtr)
  (secretBytes : Blob)

/--
The hash of the new secret and its expiry, or `none` where the source answers
`false`.  The expiry is the clock plus the configured duration.
-/
def deviceTokenHelper : Sql (Option (String × Int)) :=
  match secrets with
  | none => pure none
  | some helper => do
      let val ← lookupSecret helper Secrets.kAuthDeviceTokenMaxDurationInMicros
      if val = "" then
        pure none
      else do
        let maxDurationMicros ← Prog.ofExcept (stoll val)
        let now ← nowUs
        pure (some (sodium.hashBinary secretBytes, addInt64 now maxDurationMicros))

def createDeviceToken (email : String) : Sql DeviceTokenResult := do
  let person ← People.lookupPersonByEmail email
  match person with
  | none => pure ⟨false, "", ""⟩
  | some p =>
      if isVerified person then
        Prog.tryCatch
          (do
            match ← deviceTokenHelper sodium secrets secretBytes with
            | none => pure ⟨false, "", sodium.base64Encode secretBytes⟩
            | some (hashHex, expiresUs) => do
                let id ← DeviceTokens.addDeviceToken p.id hashHex expiresUs
                let row ← DeviceTokens.lookupDeviceTokenById id
                pure ⟨true, row.uuid, sodium.base64Encode secretBytes⟩)
          (fun _ => pure ⟨false, "", sodium.base64Encode secretBytes⟩)
      else
        pure ⟨false, "", ""⟩

def tryLoginWithDeviceToken (tokenId base64EncodedSecret : String) :
    Sql DeviceTokenResult :=
  Prog.tryCatch
    (do
      let presented ← Prog.ofExcept (sodium.base64Decode base64EncodedSecret)
      match ← deviceTokenHelper sodium secrets secretBytes with
      | none => pure ⟨false, "", sodium.base64Encode secretBytes⟩
      | some (newSecretHash, newExpiresUs) => do
          match ← DeviceTokens.consumeAndRotate (sodium.hashBinary presented)
              tokenId newSecretHash newExpiresUs with
          | none => pure ⟨false, "", ""⟩
          | some (_, newUuid) =>
              pure ⟨true, newUuid, sodium.base64Encode secretBytes⟩)
    (fun _ => pure ⟨false, "", ""⟩)

/-!
# What the calls do to the table

The configured duration is the text of the setting read as an integer.  Without
one, no call stores a token.
-/

def maxDuration (secrets : SecretsHelperPtr) (db : AuthDb) : Option Int :=
  match secrets with
  | none => none
  | some helper =>
      match helper.lookupSecret db Secrets.kAuthDeviceTokenMaxDurationInMicros with
      | .error _ => none
      | .ok val => if val = "" then none else (stoll val).toOption

theorem maxDuration_isInt64 {secrets : SecretsHelperPtr} {db : AuthDb} {d : Int}
    (h : maxDuration secrets db = some d) : IsInt64 d := by
  unfold maxDuration at h
  split at h
  · cases h
  · split at h
    · cases h
    · split at h
      · cases h
      · rename_i val _ _
        cases hval : stoll val with
        | ok v =>
            rw [hval] at h
            cases h
            exact stoll_ok hval
        | error err =>
            rw [hval] at h
            cases h

theorem wp_deviceTokenHelper {env : Env} {db : AuthDb}
    {post : Except Exn (Option (String × Int)) -> AuthDb -> Prop}
    (hnone : post (.ok none) db) (herror : forall err, post (.error err) db)
    (hsome : forall d, maxDuration secrets db = some d ->
      post (.ok (some (sodium.hashBinary secretBytes, addInt64 env.now d))) db) :
    Prog.wp env (deviceTokenHelper sodium secrets secretBytes) post db := by
  cases secrets with
  | none => exact hnone
  | some helper =>
      simp only [deviceTokenHelper, lookupSecret, Prog.bind_eq, Prog.wp_bind,
        Prog.wp_ask]
      cases hval : helper.lookupSecret db
          Secrets.kAuthDeviceTokenMaxDurationInMicros with
      | error err => exact herror err
      | ok val =>
          by_cases hempty : val = ""
          · simpa [hempty] using hnone
          · cases hd : stoll val with
            | error err =>
                simpa [hempty, hd, Prog.wp_bind] using herror err
            | ok d =>
                have hmax : maxDuration (some helper) db = some d := by
                  simp [maxDuration, hval, hempty, hd, Except.toOption]
                simpa [hempty, hd, Prog.wp_bind, nowUs] using hsome d hmax

def storedExpiry (env : Env) (d : Int) : Int :=
  env.now + addInt64 env.now d

/--
A creating call leaves the store alone, or appends one row whose expiry comes
from the configured duration.
-/
theorem wp_createDeviceToken (env : Env) (db : AuthDb) (email : String) :
    Prog.wp env (createDeviceToken sodium secrets secretBytes email)
      (fun _ db' => db' = db ∨
        exists d row table, maxDuration secrets db = some d ∧
          db' = { db with deviceTokens := table } ∧
          table.rows = db.deviceTokens.rows ++ [row] ∧
          row.expiresAt = storedExpiry env d ∧ IsInt64 (storedExpiry env d)) db := by
  simp only [createDeviceToken, People.lookupPersonByEmail, Prog.bind_eq,
    Prog.wp_bind, Prog.wp_ask]
  cases People.personByEmail db email with
  | none => exact Or.inl rfl
  | some p =>
      dsimp only
      split
      · simp only [Prog.wp_tryCatch, Prog.wp_bind]
        apply wp_deviceTokenHelper
        · exact Or.inl rfl
        · intro err
          exact Or.inl rfl
        · intro d hd
          simp only [Prog.wp_bind]
          apply DeviceTokens.wp_addDeviceToken
          · intro err
            exact Or.inl rfl
          · intro row table hrows huuid hhash hperson hrevoked hexpiry hint64
            simp only [DeviceTokens.lookupDeviceTokenById, Prog.wp_ask]
            have hstored : exists d row' table',
                maxDuration secrets db = some d ∧
                { db with deviceTokens := table } =
                  { db with deviceTokens := table' } ∧
                table'.rows = db.deviceTokens.rows ++ [row'] ∧
                row'.expiresAt = storedExpiry env d ∧
                IsInt64 (storedExpiry env d) :=
              ⟨d, row, table, hd, rfl, hrows, hexpiry, hint64⟩
            cases table.find? (fun r => r.id == row.id) with
            | none => exact Or.inr hstored
            | some found => exact Or.inr hstored
      · exact Or.inl rfl

/--
A login leaves the store alone and fails, or consumes one live row: the row
takes a new secret, a new uuid and an expiry from the configured duration.
-/
theorem wp_tryLoginWithDeviceToken (env : Env) (db : AuthDb)
    (tokenId base64EncodedSecret : String) :
    Prog.wp env
      (tryLoginWithDeviceToken sodium secrets secretBytes tokenId
        base64EncodedSecret)
      (fun outcome db' =>
        (db' = db ∧ exists tokenId' secret', outcome = .ok ⟨false, tokenId', secret'⟩) ∨
        exists presented d row table,
          sodium.base64Decode base64EncodedSecret = .ok presented ∧
          maxDuration secrets db = some d ∧
          db.deviceTokens.find? (DeviceTokens.Consumable
            (sodium.hashBinary presented) tokenId env.now) = some row ∧
          IsInt64 (storedExpiry env d) ∧
          table.rows = db.deviceTokens.rows.map (fun r =>
            if DeviceTokens.Consumable (sodium.hashBinary presented) tokenId
                env.now r then
              DeviceTokens.rotate env (sodium.hashBinary secretBytes)
                (storedExpiry env d) r
            else r) ∧
          db' = { db with deviceTokens := table } ∧
          outcome = .ok ⟨true, env.uuid, sodium.base64Encode secretBytes⟩) db := by
  simp only [tryLoginWithDeviceToken, Prog.bind_eq, Prog.wp_tryCatch,
    Prog.wp_bind, Prog.wp_ofExcept]
  cases hdecode : sodium.base64Decode base64EncodedSecret with
  | error err => exact Or.inl ⟨rfl, _, _, rfl⟩
  | ok presented =>
      dsimp only
      apply wp_deviceTokenHelper
      · exact Or.inl ⟨rfl, _, _, rfl⟩
      · intro err
        exact Or.inl ⟨rfl, _, _, rfl⟩
      · intro d hd
        simp only [Prog.wp_bind, DeviceTokens.consumeAndRotate, Prog.wp_exec]
        rcases DeviceTokens.consumeAndRotateWrite_cases
            (sodium.hashBinary presented) tokenId (sodium.hashBinary secretBytes)
            (addInt64 env.now d) env db with
          ⟨hwrite, _⟩ | ⟨err, hwrite⟩ |
            ⟨row, table, hwrite, hfind, hint64, hrows⟩
        · rw [hwrite]
          exact Or.inl ⟨rfl, _, _, rfl⟩
        · rw [hwrite]
          exact Or.inl ⟨rfl, _, _, rfl⟩
        · rw [hwrite]
          exact Or.inr
            ⟨presented, d, row, table, rfl, hd, hfind, hint64, hrows, rfl, rfl⟩

end DeviceTokenFunctions

end Auth
end ServerComponents
