import ServerComponents.Auth.LoginGate
import ServerComponents.Auth.People

/-!
# Email verification

The table helper, the functions of the person helper that issue and present a
verification secret, and the transactions of the two endpoints that present one.
Percent-decoding is a parameter; it fails on a malformed escape.
-/

namespace ServerComponents
namespace Auth

open Relational Statements

abbrev UrlDecode := String -> Except Exn String

namespace EmailVerifications

variable [Citext]

def lookupRequired (secrets : SecretsHelperPtr) (caller name : String)
    (read : String -> Except Exn Int) : Sql Int :=
  match secrets with
  | none =>
      throw (.runtimeError ("EmailVerifications::" ++ caller ++ " - secretsHelper is null"))
  | some helper => do
      let val ← lookupSecret helper name
      if val = "" then
        throw (.runtimeError ("EmailVerifications::" ++ caller ++ " - secret empty"))
      else
        Prog.ofExcept (read val)

def lookupExpirationWindowMicros (secrets : SecretsHelperPtr) : Sql Int :=
  lookupRequired secrets "LookupExpirationWindowMicros"
    Secrets.kEmailVerificationExpirationWindowInMicros stoll

def lookupAttemptLimit (secrets : SecretsHelperPtr) : Sql Int :=
  lookupRequired secrets "LookupAttemptLimit" Secrets.kEmailVerificationAttemptLimit stoi

def deleteForPerson (personId : Nat) : Sql Unit :=
  Prog.exec (fun _ db =>
    .ok ((), { db with
      emailVerifications := db.emailVerifications.delete (fun r => r.personId == personId) }))

def deleteEmailVerification (id : Nat) : Sql Unit :=
  Prog.exec (fun _ db =>
    .ok ((), { db with
      emailVerifications := db.emailVerifications.delete (fun r => r.id == id) }))

def deleteExpired (asOfUs : Int) : Sql Nat :=
  Prog.exec (fun _ db =>
    .ok ((db.emailVerifications.rows.filter (fun r => decide (r.expiresAt < asOfUs))).length,
      { db with
        emailVerifications :=
          db.emailVerifications.delete (fun r => decide (r.expiresAt < asOfUs)) }))

def insertVerification (personId : Nat) (tokenHash : String) (expiresAt : Int) : Sql Nat :=
  Prog.exec (fun _ db => do
    let (row, table) ← orUniqueViolation (db.emailVerifications.insert? (fun id =>
      { id := id, personId := personId, tokenHash := tokenHash
        expiresAt := expiresAt, attempts := 0 }))
    pure (row.id, { db with emailVerifications := table }))

def addEmailVerificationById (secrets : SecretsHelperPtr) (personId : Nat)
    (tokenHash : String) : Sql Nat := do
  deleteForPerson personId
  let nowMicros ← nowUs
  let windowMicros ← lookupExpirationWindowMicros secrets
  insertVerification personId tokenHash (addInt64 nowMicros windowMicros)

def addEmailVerificationByEmail (secrets : SecretsHelperPtr) (email tokenHash : String) :
    Sql Nat := do
  match ← People.lookupPersonByEmail email with
  | none =>
      throw (.runtimeError
        "EmailVerifications::AddEmailVerificationByEmail - person not found")
  | some person => addEmailVerificationById secrets person.id tokenHash

def Claimable (personId : Nat) (attemptLimit : Int) (now : Nat) (r : EmailVerification) :
    Bool :=
  r.personId == personId && decide ((r.attempts : Int) < attemptLimit) &&
    decide ((now : Int) < r.expiresAt)

def claimed (r : EmailVerification) : EmailVerification :=
  { r with attempts := r.attempts + 1 }

def claimAttempt (personId : Nat) (attemptLimit : Int) : Sql (Option EmailVerification) :=
  Prog.exec (fun env db => do
    let (rows, table) ← orUniqueViolation (db.emailVerifications.update?
      (Claimable personId attemptLimit env.now) claimed)
    pure (rows.head?, { db with emailVerifications := table }))

/-- The attempt is claimed before the comparison, right or wrong. -/
def doEmailVerification (secrets : SecretsHelperPtr) (email tokenHash : String) :
    Sql Bool := do
  match ← People.lookupPersonByEmail email with
  | none =>
      throw (.runtimeError "EmailVerifications::DoEmailVerification - person not found")
  | some person => do
      let attemptLimit ← lookupAttemptLimit secrets
      match ← claimAttempt person.id attemptLimit with
      | none => pure false
      | some row =>
          if row.tokenHash = tokenHash then do
            deleteEmailVerification row.id
            pure true
          else do
            if attemptLimit ≤ row.attempts then
              AdminAlerts.addAdminAlert
                ("Email verification attempt limit reached for person_id=" ++
                  toString person.id ++ " email=" ++ email)
            pure false

end EmailVerifications

/-!
# Issuing a secret
-/

structure PersonInfo where
  email : String
  firstName : String
  lastName : String
  deriving Repr, DecidableEq

structure VerifyMail where
  personInfo : PersonInfo
  secret : String
  branding : TenantBranding
  apiLinkPrefix : String
  activationLink : String
  subject : String
  deriving Repr, DecidableEq

section Issue

variable [Citext] (sodium : Sodium) (secrets : SecretsHelperPtr)

def composeVerifyMail (helper : SecretsHelper) (personInfo : PersonInfo)
    (secret : String) : Sql VerifyMail := do
  let spaBaseUrl ← lookupSecret helper Secrets.kWebsiteAddressLogin
  let apiLinkPrefix ← lookupSecret helper Secrets.kWebsiteApiLinkPrefix
  let activationLink ← lookupSecret helper Secrets.kWebsiteActivationLink
  let studioName ← lookupSecret helper Secrets.kMailSenderName
  let senderAddress ← lookupSecret helper Secrets.kMailSenderAddress
  let subject ← lookupSecret helper Secrets.kMailActivationEmailSubject
  pure
    { personInfo := personInfo, secret := secret
      branding :=
        { studioName := studioName, senderName := studioName
          senderAddress := senderAddress, websiteUrl := spaBaseUrl }
      apiLinkPrefix := apiLinkPrefix, activationLink := activationLink
      subject := subject }

/-- `PreliminaryRegisterPerson` once the person has an id.  The random bytes are
those that this call draws. -/
def issueVerification (tokenBytes : Blob) (personId : Nat) (personInfo : PersonInfo)
    (sendEmail : Bool) : Sql (Option VerifyMail) := do
  let _ ← EmailVerifications.addEmailVerificationById secrets personId
    (sodium.hashBinary tokenBytes)
  match sendEmail, secrets with
  | true, some helper => do
      let mail ← composeVerifyMail helper personInfo (sodium.base64Encode tokenBytes)
      pure (some mail)
  | _, _ => pure none

def preliminaryRegisterPerson (salt tokenBytes : Blob) (personInfo : PersonInfo)
    (password : String) (sendEmail : Bool) : Sql (Option VerifyMail) := do
  let hash ← hashPasswordWithSecrets sodium secrets salt password
  let id ← People.addPerson personInfo.email personInfo.firstName personInfo.lastName hash
  issueVerification sodium secrets tokenBytes id personInfo sendEmail

end Issue

/-!
# Presenting a secret
-/

/-- What the verify endpoint answers, and the attempt that it queues. -/
inductive VerifyAnswer where
  | tooManyAttempts
  | verified
  | rejected
  deriving Repr, DecidableEq

structure VerifyReply where
  answer : VerifyAnswer
  recorded : Option Bool
  deriving Repr, DecidableEq

section Present

variable [Citext] (urlDecode : UrlDecode) (sodium : Sodium) (secrets : SecretsHelperPtr)

def decodeLink (emailEncoded encodedSecret : String) : Except Exn (String × String) := do
  let urlDecodedSecret ← urlDecode encodedSecret
  let secretBytes ← sodium.base64Decode urlDecodedSecret
  let email ← urlDecode emailEncoded
  pure (email, sodium.hashBinary secretBytes)

def verifyPersonEmail (emailEncoded encodedSecret : String) : Sql Unit := do
  let (email, secretHash) ← Prog.ofExcept
    (decodeLink urlDecode sodium emailEncoded encodedSecret)
  let matched ← EmailVerifications.doEmailVerification secrets email secretHash
  if matched then
    People.verifyPersonEmail email
  else
    throw (.runtimeError "PersonHelper::VerifyPersonEmail - Email verification failed.")

/-- The id that the audit event names; zero when the look-up fails. -/
def verifiedPersonId (email : String) : Sql Int :=
  Prog.tryCatch
    (do
      let person ← People.lookupPersonByEmail email
      pure ((person.map (fun p => (p.id : Int))).getD 0))
    (fun _ => pure 0)

/-- The transaction of `POST /api/verify`: a failed verification is answered inside
it, and the transaction commits. -/
def verify (email encodedSecret ip userAgent : String) : Sql VerifyReply := do
  let gate ← LoginGate.checkBeforeVerify secrets ip
  if gate ≠ .allow then
    pure { answer := .tooManyAttempts, recorded := none }
  else do
    let success ← Prog.tryCatch
      (do
        verifyPersonEmail urlDecode sodium secrets email encodedSecret
        pure true)
      (fun _ => pure false)
    if success then do
      let personId ← verifiedPersonId email
      AuthEvents.recordEvent .emailVerified personId ip userAgent
        ("\x7b\"email\":\"" ++ email ++ "\"\x7d")
      pure { answer := .verified, recorded := some true }
    else
      pure { answer := .rejected, recorded := some false }

/-- The transaction of the activation link, with the address that it redirects to.
A failed verification leaves the transaction as an exception. -/
def accountActivation (email base64EncodedActivationToken : String) : Sql String := do
  verifyPersonEmail urlDecode sodium secrets email base64EncodedActivationToken
  match secrets with
  -- not reached: without a helper the look-up of the attempt limit has failed
  | none => throw (.runtimeError "AccountActivation - secretsHelper is null")
  | some helper => do
      let url ← lookupSecret helper Secrets.kWebsiteAddressLogin
      let link ← lookupSecret helper Secrets.kWebsiteLoginLink
      pure (url ++ link)

end Present

end Auth
end ServerComponents
