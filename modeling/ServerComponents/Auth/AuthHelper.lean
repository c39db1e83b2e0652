import ServerComponents.Auth.Schema
import ServerComponents.Statements.Respects

/-!
# Cryptography and configuration

`AuthHelper` is a thin layer over libsodium, which is a parameter.  A
`SecretsHelper` is the source's interface for configured values: it answers from
the database of the transaction it is given, and a null pointer is `none`.
-/

namespace ServerComponents
namespace Auth

open Relational Statements

abbrev Blob := List UInt8

/-- The functions of libsodium that the source calls. -/
structure Sodium where
  hashBinary : Blob -> String
  base64Encode : Blob -> String
  /-- `none` for malformed input. -/
  base642bin : String -> Option Blob
  /-- `crypto_pwhash_str` with a salt; `none` when out of memory. -/
  pwhash : (opsLimit memLimitBytes : Nat) -> (salt : Blob) -> String -> Option String
  pwhashVerify : (hash password : String) -> Bool

namespace Sodium

def base64Decode (sodium : Sodium) (encoded : String) : Except Exn Blob :=
  match sodium.base642bin encoded with
  | some bytes => .ok bytes
  | none => .error (.invalidArgument "Base64Decode: invalid base64 input")

def verifyPassword (sodium : Sodium) (password hash : String) : Bool :=
  sodium.pwhashVerify hash password

def hashPassword (sodium : Sodium) (opsLimit memLimitBytes : Nat) (salt : Blob)
    (password : String) : Except Exn String :=
  match sodium.pwhash opsLimit memLimitBytes salt password with
  | some hash => .ok hash
  | none => .error (.runtimeError "HashPassword: out of memory")

/-- Transparent functions for concrete runs: every text stands for itself. -/
def plain : Sodium where
  hashBinary := textOf
  base64Encode := textOf
  base642bin := fun encoded =>
    some (encoded.toList.map (fun c => UInt8.ofNat c.toNat))
  pwhash := fun _ _ _ password => some password
  pwhashVerify := fun hash password => hash == password
where
  textOf (bytes : Blob) : String :=
    String.ofList (bytes.map (fun b => Char.ofNat b.toNat))

theorem plain_injective : Function.Injective plain.hashBinary := by
  intro bytes bytes' h
  have hbyte : forall n, n < 256 -> (Char.ofNat n).toNat = n := by
    intro n hn
    have hvalid : n.isValidChar := Or.inl (by omega)
    rw [Char.ofNat, dif_pos hvalid]
    rfl
  have hchar : forall b b' : UInt8, Char.ofNat b.toNat = Char.ofNat b'.toNat -> b = b' := by
    intro b b' hb
    apply UInt8.toNat_inj.mp
    rw [← hbyte b.toNat b.toNat_lt, ← hbyte b'.toNat b'.toNat_lt, hb]
  exact (List.map_inj_right hchar).mp (String.ofList_injective h)

end Sodium

/-!
# Configured values
-/

structure SecretsHelper [Citext] where
  lookupSecret : AuthDb -> String -> Except Exn String

abbrev SecretsHelperPtr [Citext] := Option SecretsHelper

def SettingsElsewhere [Citext] (secrets : SecretsHelperPtr) : Prop :=
  forall helper, secrets = some helper -> forall db db' name,
    helper.lookupSecret db name = helper.lookupSecret db' name

/-- A helper that answers from fixed settings, and the empty text for the rest. -/
def SecretsHelper.ofSettings [Citext] (settings : List (String × String)) :
    SecretsHelper where
  lookupSecret := fun _ name => .ok ((settings.lookup name).getD "")

namespace Secrets

def kAuthDeviceTokenMaxDurationInMicros := "auth_device_token_max_duration_in_micros"
def kAuthArgon2OpsLimit := "auth_argon2_ops_limit"
def kAuthArgon2MemLimitKb := "auth_argon2_mem_limit_kb"
def kAuthLoginMaxFailuresPerEmailPerWindow := "auth_login_max_failures_per_email"
def kAuthLoginMaxFailuresPerIpPerWindow := "auth_login_max_failures_per_ip"
def kAuthLoginFailureWindowInMicros := "auth_login_failure_window_in_micros"
def kAuthAccountLockoutAfterFailures := "auth_account_lockout_after_failures"
def kAuthAccountLockoutDurationInMicros := "auth_account_lockout_duration_in_micros"
def kAuthVerifyMaxFailuresPerIpPerWindow := "auth_verify_max_failures_per_ip"
def kAuthVerifyFailureWindowInMicros := "auth_verify_failure_window_in_micros"
def kAuthRememberMaxFailuresPerIpPerWindow := "auth_remember_max_failures_per_ip"
def kAuthRememberFailureWindowInMicros := "auth_remember_failure_window_in_micros"
def kAuthPasswordResetTtlMinutes := "auth_password_reset_ttl_minutes"
def kAuthPasswordResetMaxRequestsPerEmailPerWindow :=
  "auth_password_reset_max_requests_per_email"
def kAuthPasswordResetMaxRequestsPerIpPerWindow :=
  "auth_password_reset_max_requests_per_ip"
def kAuthPasswordResetRequestWindowInMicros :=
  "auth_password_reset_request_window_in_micros"
def kAuthPasswordResetMaxFailuresPerIpPerWindow :=
  "auth_password_reset_max_failures_per_ip"
def kAuthPasswordResetFailureWindowInMicros :=
  "auth_password_reset_failure_window_in_micros"
def kWebsitePasswordResetLink := "password_reset_link"
def kWebsiteAddress := "website_address"
def kWebsiteAddressLogin := "website_address_login"
def kMailSenderName := "mail_sender_name"
def kMailSenderAddress := "mail_sender_address"
def kMailActivationEmailSubject := "activation_email_subject"
def kWebsiteApiLinkPrefix := "api_link_prefix"
def kWebsiteActivationLink := "activation_link"
def kWebsiteLoginLink := "login_link"
def kEmailVerificationExpirationWindowInMicros :=
  "email_verification_expiration_window_in_micros"
def kEmailVerificationAttemptLimit := "email_verification_attempt_limit"

end Secrets

section Lookup

variable [Citext]

def lookupSecret (secrets : SecretsHelper) (name : String) : Sql String :=
  Prog.ask (fun _ db => secrets.lookupSecret db name)

/-- The text of an integer setting, with a default for an empty or bad one. -/
def int64OrFallback (val : String) (fallback : Int) : Int :=
  if val = "" then fallback
  else
    match stoll val with
    | .ok v => v
    | .error _ => fallback

/--
`LookupInt64Secret` of the login gate, which is also
`LookupInt64SecretWithFallback` of the person helper.
-/
def lookupInt64Secret (secrets : SecretsHelperPtr) (key : String)
    (fallback : Int) : Sql Int :=
  match secrets with
  | none => pure fallback
  | some helper => do
      let val ← lookupSecret helper key
      pure (int64OrFallback val fallback)

def nowUs : Sql Int :=
  Prog.ask (fun env _ => .ok env.now)

/-! The costs that libsodium defines. -/

def opsLimitMin : Nat := 1
def opsLimitMax : Nat := 4294967295
def opsLimitInteractive : Nat := 2
def opsLimitModerate : Nat := 3
def memLimitMin : Nat := 8192
def memLimitMax : Nat := 4398046510080
def memLimitInteractive : Nat := 67108864
def memLimitModerate : Nat := 268435456

def costOrFallback (text : String) (scale low high fallback : Nat) : Nat :=
  if text = "" then fallback
  else
    match stoull text with
    | .error _ => fallback
    | .ok v =>
        if low ≤ v * scale % 18446744073709551616 ∧
            v * scale % 18446744073709551616 ≤ high then
          v * scale % 18446744073709551616
        else fallback

def hashPasswordWithSecrets (sodium : Sodium) (secrets : SecretsHelperPtr) (salt : Blob)
    (password : String) : Sql String :=
  match secrets with
  | none => Prog.ofExcept (sodium.hashPassword opsLimitModerate memLimitModerate salt password)
  | some helper => do
      let opsStr ← lookupSecret helper Secrets.kAuthArgon2OpsLimit
      let memStr ← lookupSecret helper Secrets.kAuthArgon2MemLimitKb
      Prog.ofExcept (sodium.hashPassword
        (costOrFallback opsStr 1 opsLimitMin opsLimitMax opsLimitModerate)
        (costOrFallback memStr 1024 memLimitMin memLimitMax memLimitModerate)
        salt password)

def int64Secret (secrets : SecretsHelperPtr) (db : AuthDb) (key : String)
    (fallback : Int) : Except Exn Int :=
  match secrets with
  | none => .ok fallback
  | some helper =>
      (helper.lookupSecret db key).map (fun val => int64OrFallback val fallback)

theorem wp_lookupInt64Secret {env : Env} {db : AuthDb}
    {secrets : SecretsHelperPtr} {key : String} {fallback : Int}
    {post : Except Exn Int -> AuthDb -> Prop} :
    Prog.wp env (lookupInt64Secret secrets key fallback) post db <->
      post (int64Secret secrets db key fallback) db := by
  cases secrets with
  | none => exact Iff.rfl
  | some helper =>
      simp only [lookupInt64Secret, lookupSecret, int64Secret, Prog.bind_eq,
        Prog.wp_bind, Prog.wp_ask]
      cases helper.lookupSecret db key <;> exact Iff.rfl

end Lookup

/-!
# The sender and the branding of a mail
-/

structure MailAddress where
  name : String
  address : String
  deriving Repr, DecidableEq

structure TenantBranding where
  studioName : String
  senderName : String
  senderAddress : String
  websiteUrl : String
  deriving Repr, DecidableEq

section Lookup

variable [Citext] (secrets : SecretsHelper)

def loadSenderAddress : Sql MailAddress := do
  let name ← lookupSecret secrets Secrets.kMailSenderName
  let address ← lookupSecret secrets Secrets.kMailSenderAddress
  pure { name := name, address := address }

def loadTenantBranding : Sql TenantBranding := do
  let senderName ← lookupSecret secrets Secrets.kMailSenderName
  let senderAddress ← lookupSecret secrets Secrets.kMailSenderAddress
  let websiteUrl ← lookupSecret secrets Secrets.kWebsiteAddressLogin
  pure { studioName := senderName, senderName := senderName
         senderAddress := senderAddress, websiteUrl := websiteUrl }

variable {secrets} {env : Env} {db : AuthDb}

theorem readOnly_loadSenderAddress : Prog.ReadOnly (loadSenderAddress secrets) :=
  Prog.ReadOnly.bind Prog.readOnly_ask (fun _ =>
    Prog.ReadOnly.bind Prog.readOnly_ask (fun _ => trivial))

theorem readOnly_loadTenantBranding : Prog.ReadOnly (loadTenantBranding secrets) :=
  Prog.ReadOnly.bind Prog.readOnly_ask (fun _ =>
    Prog.ReadOnly.bind Prog.readOnly_ask (fun _ =>
      Prog.ReadOnly.bind Prog.readOnly_ask (fun _ => trivial)))

end Lookup

end Auth
end ServerComponents
