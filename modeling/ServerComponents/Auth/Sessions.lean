import ServerComponents.Auth.DeviceTokens
import ServerComponents.Auth.People
import ServerComponents.Statements.Connection

/-!
# The session table helper, and signing a person out
-/

namespace ServerComponents
namespace Auth

open Relational Statements

/-- The input function of the `uuid` type: the canonical text, or an error. -/
class UuidText where
  parse : String -> Option String

/-- A reading under which every text is canonical, for concrete databases. -/
@[reducible] def UuidText.plain : UuidText := ⟨some⟩

/-- A text parameter that is compared with a `uuid` column. -/
def uuidParameter [UuidText] (text : String) : Except Exn String :=
  match UuidText.parse text with
  | some uuid => .ok uuid
  | none => .error (.sql .invalidTextRepresentation)

namespace Sessions

variable [Citext]

def lookupSessionById (id : Nat) : Sql Session :=
  Prog.ask (fun _ db =>
    match db.sessions.find? (fun r => r.id == id) with
    | some row => .ok row
    | none => .error (.runtimeError "Sessions::LookupSessionById - not found"))

def lookupSessionByUuid [UuidText] (uuid : String) : Sql Session :=
  Prog.ask (fun _ db => do
    let canonical ← uuidParameter uuid
    match db.sessions.find? (fun r => r.uuid == canonical) with
    | some row => .ok row
    | none => .error (.runtimeError "Sessions::LookupSessionByUuid - not found"))

def removeSessionsForUser (personId : Nat) : Sql Unit :=
  Prog.exec (fun _ db =>
    .ok ((), { db with
      sessions := db.sessions.delete (fun r => r.personId == personId) }))

end Sessions

def logoutPerson [Citext] (personId : Nat) : Sql Unit := do
  DeviceTokens.removeDeviceTokensForUser personId
  Sessions.removeSessionsForUser personId

theorem wp_logoutPerson [Citext] {env : Env} {db : AuthDb} {personId : Nat}
    {post : Except Exn Unit -> AuthDb -> Prop} :
    Prog.wp env (logoutPerson personId) post db <->
      post (.ok ()) { db with
        deviceTokens := db.deviceTokens.delete (fun r => r.personId == personId)
        sessions := db.sessions.delete (fun r => r.personId == personId) } := by
  simp [logoutPerson, Prog.wp_bind, DeviceTokens.removeDeviceTokensForUser,
    Sessions.removeSessionsForUser, Prog.wp_exec]

end Auth
end ServerComponents

/-!
# The cookies of a sign-in

Cookies are set on the response while a transaction is in progress, and its roll-back
does not take them back.
-/

namespace ServerComponents
namespace Auth

open Relational Statements

inductive CookieSameSitePolicy where
  | strict
  | lax
  | none
  deriving Repr, DecidableEq

structure CookieProperties where
  domain : String
  path : String
  sameSite : CookieSameSitePolicy
  secure : Bool
  httpOnly : Bool
  maxAgeInMicros : Int
  deriving Repr, DecidableEq

structure Cookie where
  key : String
  value : String
  properties : CookieProperties
  deriving Repr, DecidableEq

def kSessionTokenCookie := "session_token"
def kDeviceTokenCookie := "device_token"
def kCsrfTokenCookie := "csrft"

/-- The text before the first dot and the text behind it. -/
def splitAtDot (cookie : String) : Option (String × String) :=
  match cookie.toList.dropWhile (fun c => c ≠ '.') with
  | [] => none
  | _ :: rest =>
      some (String.ofList (cookie.toList.takeWhile (fun c => c ≠ '.')), String.ofList rest)

/-- The errors of the database abort a transaction. -/
def isFailure : Exn -> Bool
  | .sql _ => true
  | _ => false

/-- A statement of an aborted transaction, or on a lost connection, raises this error. -/
def sqlFailures (rejected : SqlError) : Failures Exn where
  aborts := isFailure
  rejected := .sql rejected
  aborts_rejected := rfl

section Served

variable [Citext]

abbrev Served (result : Type) := Prog Env (Txn AuthDb (List Cookie)) Exn result

structure Serving where
  secrets : SecretsHelperPtr
  isProd : Bool
  rejected : SqlError

namespace Serving

variable (v : Serving)

def onDb {result : Type} (program : Sql result) : Served result :=
  Prog.within (sqlFailures v.rejected) program

def setCookie (cookie : Cookie) : Served Unit :=
  Prog.act (fun cookies => cookies ++ [cookie])

/-- `BuildAuthCookieProperties`; in production the domain is the address of the site. -/
def buildAuthCookieProperties (httpOnly : Bool) (maxAgeMicros : Int) :
    Sql CookieProperties :=
  match v.isProd, v.secrets with
  | true, some helper => do
      let domain ← lookupSecret helper Secrets.kWebsiteAddress
      pure { domain := domain, path := "/", sameSite := .lax, secure := true
             httpOnly := httpOnly, maxAgeInMicros := maxAgeMicros }
  | _, _ =>
      pure { domain := "", path := "/", sameSite := .lax, secure := false
             httpOnly := httpOnly, maxAgeInMicros := maxAgeMicros }

def clearAuthCookies : Served Unit := do
  let httpOnlyProps ← v.onDb (v.buildAuthCookieProperties true 0)
  setCookie ⟨kSessionTokenCookie, "", httpOnlyProps⟩
  setCookie ⟨kDeviceTokenCookie, "", httpOnlyProps⟩
  let csrfProps ← v.onDb (v.buildAuthCookieProperties false 0)
  setCookie ⟨kCsrfTokenCookie, "", csrfProps⟩

def cookieDomain (db : AuthDb) : Except Exn String :=
  match v.isProd, v.secrets with
  | true, some helper => helper.lookupSecret db Secrets.kWebsiteAddress
  | _, _ => .ok ""

def cookieProperties (domain : String) (httpOnly : Bool) (maxAgeMicros : Int) :
    CookieProperties where
  domain := domain
  path := "/"
  sameSite := .lax
  secure := v.isProd && v.secrets.isSome
  httpOnly := httpOnly
  maxAgeInMicros := maxAgeMicros

theorem run_buildAuthCookieProperties (env : Env) (db : AuthDb) (httpOnly : Bool)
    (maxAgeMicros : Int) :
    (v.buildAuthCookieProperties httpOnly maxAgeMicros).run env db =
      ((v.cookieDomain db).map (fun domain =>
        v.cookieProperties domain httpOnly maxAgeMicros), db) := by
  rcases v with ⟨secrets, isProd, rejected⟩
  cases isProd with
  | false => rfl
  | true =>
      cases secrets with
      | none => rfl
      | some helper =>
          simp only [buildAuthCookieProperties, cookieDomain, lookupSecret, Prog.bind_eq,
            Prog.run_bind, Prog.run_ask]
          cases helper.lookupSecret db Secrets.kWebsiteAddress <;> rfl

theorem propagates_buildAuthCookieProperties (httpOnly : Bool) (maxAgeMicros : Int) :
    (v.buildAuthCookieProperties httpOnly maxAgeMicros).Propagates
      (sqlFailures v.rejected) := by
  unfold buildAuthCookieProperties
  split
  · exact (Prog.propagates_ask _).bind (fun _ => trivial)
  · exact trivial

theorem cookieDomain_congr {v : Serving} (hsettings : SettingsElsewhere v.secrets)
    (db db' : AuthDb) : v.cookieDomain db = v.cookieDomain db' := by
  unfold cookieDomain
  split
  · rename_i helper _ hsecrets
    exact hsettings helper hsecrets db db' _
  · rfl

def clearedCookies (domain : String) : List Cookie :=
  [⟨kSessionTokenCookie, "", v.cookieProperties domain true 0⟩,
    ⟨kDeviceTokenCookie, "", v.cookieProperties domain true 0⟩,
    ⟨kCsrfTokenCookie, "", v.cookieProperties domain false 0⟩]

theorem run_clearAuthCookies (env : Env) (db : AuthDb) (cookies : List Cookie) :
    v.clearAuthCookies.run env ⟨db, cookies, false, none⟩ =
      match v.cookieDomain db with
      | .error err => (.error err, ⟨db, cookies, isFailure err, none⟩)
      | .ok domain => (.ok (), ⟨db, cookies ++ v.clearedCookies domain, false, none⟩) := by
  have hrun : forall (httpOnly : Bool) (cookies : List Cookie),
      (v.onDb (v.buildAuthCookieProperties httpOnly 0)).run env ⟨db, cookies, false, none⟩ =
        match v.cookieDomain db with
        | .error err => (.error err, ⟨db, cookies, isFailure err, none⟩)
        | .ok domain =>
            (.ok (v.cookieProperties domain httpOnly 0), ⟨db, cookies, false, none⟩) := by
    intro httpOnly cookies
    rw [onDb, Prog.run_within (v.propagates_buildAuthCookieProperties httpOnly 0) rfl
      (outlasts_none _), run_buildAuthCookieProperties]
    cases v.cookieDomain db <;> rfl
  unfold clearAuthCookies
  simp only [Prog.bind_eq, Prog.run_bind, hrun]
  cases hdomain : v.cookieDomain db with
  | error err => rfl
  | ok domain =>
      simp only [setCookie, Prog.act, Prog.run_exec, hrun, hdomain]
      simp [clearedCookies]

end Serving

end Served

end Auth
end ServerComponents
