import ServerComponents.Auth.UserInfo
import ServerComponents.Rest.Json

/-!
# The endpoints of an account

The transactions of `register`, `update_user_password`, `forgot_password` and
`reset_password`, with the responses that they set and the attempts that they queue.
Each endpoint checks its fields itself.
-/

namespace ServerComponents
namespace Auth

open Relational Statements Rest

/-- An attempt whose record is queued while the request is answered. -/
structure QueuedAttempt where
  emailLower : String
  ip : String
  kind : AttemptKind
  success : Bool
  deriving Repr, DecidableEq

structure EndpointReply where
  response : Response
  queued : Option QueuedAttempt
  deriving Repr, DecidableEq

def EndpointReply.ofResponse (response : Response) : EndpointReply := ⟨response, none⟩

def requiredText (message : Json) (key : String) : Option String :=
  (textMember message key).filter (fun value => value ≠ "")

theorem requiredText_some {message : Json} {key value : String}
    (h : requiredText message key = some value) : value ≠ "" := by
  rcases Option.filter_eq_some_iff.mp h with ⟨_, hvalue⟩
  simpa using hvalue

section Endpoints

variable [Citext] (sodium : Sodium) (secrets : SecretsHelperPtr)

def QueuedAttempt.record (q : QueuedAttempt) : Sql Unit :=
  LoginAttempts.recordAttempt q.emailLower q.ip q.kind q.success

/-!
# Registration
-/

/-- The application's step after a registration; its failure is swallowed. -/
abbrev PostRegisterHook := Option (Int -> String -> Sql Unit)

def runPostRegisterHook (hook : PostRegisterHook) (email : String) : Sql Unit :=
  match hook with
  | none => pure ()
  | some onRegistered =>
      Prog.tryCatch
        (do
          match ← People.lookupPersonByEmail email with
          | none => pure ()
          | some person => onRegistered person.id email)
        (fun _ => pure ())

/-- `Register`; the mail is sent inside the transaction. -/
def register (hook : PostRegisterHook) (sendMail : VerifyMail -> Except Exn Unit)
    (salt tokenBytes : Blob) (message : Json) : Sql Response :=
  if message.hasChildren = false then
    pure (ErrorResponse.validationError "Request body required")
  else
    match requiredText message "first_name" with
    | none => pure (ErrorResponse.validationError "first_name is required")
    | some firstName =>
    match requiredText message "last_name" with
    | none => pure (ErrorResponse.validationError "last_name is required")
    | some lastName =>
    match requiredText message "email" with
    | none => pure (ErrorResponse.validationError "email is required")
    | some email =>
    match requiredText message "password" with
    | none => pure (ErrorResponse.validationError "password is required")
    | some password => do
        let mail ← preliminaryRegisterPerson sodium secrets salt tokenBytes
          { email := email, firstName := firstName, lastName := lastName } password true
        Prog.ofExcept (mail.elim (.ok ()) sendMail)
        runPostRegisterHook hook email
        pure (Response.ofStatus 200)

/-!
# Changing a password
-/

def verifyPassword (email password : String) : Sql Bool := do
  match ← People.lookupPersonByEmail email with
  | none => pure false
  | some p =>
      if isVerified (some p) then pure (sodium.verifyPassword password p.passwordHash)
      else pure false

/-- `UpdateUserPassword`, for the `int` that the person id of the session is read into; a
session that is not logged in has -1.  The new password is not checked. -/
def updateUserPassword (salt : Blob) (sessionPersonId : Int) (message : Json)
    (ip userAgent : String) : Sql Response :=
  if message.hasChildren = false then
    pure (ErrorResponse.badRequest "Invalid JSON object.")
  else
    match textMember message "old_password", textMember message "new_password" with
    | some oldPassword, some newPassword =>
        if sessionPersonId ≤ 0 then pure ErrorResponse.notAuthenticated
        else do
          match ← lookupPerson sessionPersonId.toNat with
          | none => pure ErrorResponse.notAuthenticated
          | some info => do
              let verified ← verifyPassword sodium info.email oldPassword
              if verified = false then
                pure (ErrorResponse.invalidCredentials
                  "The current password you entered is incorrect")
              else do
                let _ ← updatePassword sodium secrets salt info.email newPassword
                People.setMustChangePassword sessionPersonId.toNat false
                AuthEvents.recordEvent .passwordChanged sessionPersonId ip userAgent ""
                pure (Response.ofStatus 200)
    | _, _ =>
        pure (ErrorResponse.validationError "old_password and new_password are required.")

/-!
# Resetting a password
-/

/-- `ForgotPassword`; the mail is queued and `mail` says whether a mail helper is there. -/
def forgotPassword (mail : Bool) (secretBytes : Blob) (message : Json)
    (ip userAgent : String) : Sql EndpointReply :=
  match requiredText message "email" with
  | none => pure (.ofResponse (ErrorResponse.validationError "email is required"))
  | some email => do
      let gate ← LoginGate.checkBeforeForgotPassword secrets email ip
      if gate ≠ .allow then pure (.ofResponse ErrorResponse.tooManyAttempts)
      else do
        let requested ← PasswordResetHelper.requestReset sodium secrets mail secretBytes email
        if 0 < requested.personId then
          AuthEvents.recordEvent .passwordResetRequested requested.personId ip userAgent ""
        pure
          { response := Response.ofStatus 200
            queued := some
              { emailLower := email, ip := ip, kind := .passwordResetRequest
                success := true } }

def kInvalidLink := "reset link is invalid or expired"

def resetPassword (salt : Blob) (message : Json) (ip userAgent : String) :
    Sql EndpointReply :=
  match requiredText message "email" with
  | none => pure (.ofResponse (ErrorResponse.validationError "email is required"))
  | some email =>
  match requiredText message "secret" with
  | none => pure (.ofResponse (ErrorResponse.validationError "secret is required"))
  | some secret =>
  match requiredText message "new_password" with
  | none => pure (.ofResponse (ErrorResponse.validationError "new_password is required"))
  | some newPassword => do
      let gate ← LoginGate.checkBeforeResetPassword secrets ip
      if gate ≠ .allow then pure (.ofResponse ErrorResponse.tooManyAttempts)
      else do
        let result ← PasswordResetHelper.completeReset sodium secrets salt email secret
          newPassword
        let queued : QueuedAttempt :=
          { emailLower := email, ip := ip, kind := .passwordReset
            success := decide (result.outcome = .success) }
        match result.outcome with
        | .success => do
            AuthEvents.recordEvent .passwordResetCompleted result.personId ip userAgent ""
            pure { response := Response.ofStatus 200, queued := some queued }
        | .passwordRejected =>
            pure
              { response := ErrorResponse.validationError "new_password is required"
                queued := some queued }
        | .invalidLink =>
            pure { response := ErrorResponse.validationError kInvalidLink
                   queued := some queued }

end Endpoints

end Auth
end ServerComponents
