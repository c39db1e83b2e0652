import ServerComponents.Auth.AuthHelper

/-!
# The login gate

The checks that run before a login, a verification, a remembered login or one of the
two halves of a password reset.  They differ in their settings and in the kind of
attempts that they count; only the login check reads the account's lock, and only it
and the request of a reset count by email.
-/

namespace ServerComponents
namespace Auth

open Relational Statements

inductive LoginGateResult where
  | allow
  | accountLocked
  | rateLimitedEmail
  | rateLimitedIp
  deriving Repr, DecidableEq

namespace LoginAttempts

variable [Citext]

/-- `attempted_at` is the clock of the insert. -/
def attemptRow (env : Env) (emailLower ip : String) (kind : AttemptKind)
    (success : Bool) (id : Nat) : LoginAttempt where
  id := id
  emailLower := emailLower
  ip := ip
  attemptedAt := env.now
  success := success
  kind := kind

def recordAttempt (emailLower ip : String) (kind : AttemptKind) (success : Bool) :
    Sql Unit :=
  Prog.exec (fun env db => do
    let (_, table) ← orUniqueViolation
      (db.loginAttempts.insert? (attemptRow env emailLower ip kind success))
    pure ((), { db with loginAttempts := table }))

theorem wp_recordAttempt {env : Env} {db : AuthDb} {emailLower ip : String}
    {kind : AttemptKind} {success : Bool}
    {post : Except Exn Unit -> AuthDb -> Prop}
    (herror : forall err, post (.error err) db)
    (hok : forall table, table.rows = db.loginAttempts.rows ++
        [attemptRow env emailLower ip kind success db.loginAttempts.nextId] ->
      post (.ok ()) { db with loginAttempts := table }) :
    Prog.wp env (recordAttempt emailLower ip kind success) post db := by
  rw [recordAttempt, Prog.wp_exec]
  cases hinsert : db.loginAttempts.insert?
      (attemptRow env emailLower ip kind success) with
  | none => exact herror _
  | some pair =>
      rcases pair with ⟨row, table⟩
      rcases Table.insert?_some hinsert with ⟨hrow, hrows, _⟩
      rw [hrow] at hrows
      exact hok table hrows

theorem recordAttempt_people (env : Env) (db : AuthDb) (emailLower ip : String)
    (kind : AttemptKind) (success : Bool) :
    (Prog.transact env (recordAttempt emailLower ip kind success) db).2.people =
      db.people := by
  have hwp : Prog.wp env (recordAttempt emailLower ip kind success)
      (fun _ db' => db'.people = db.people) db :=
    wp_recordAttempt (fun _ => rfl) (fun _ _ => rfl)
  exact Prog.transact_of_wp hwp (fun _ _ _ => rfl)

def RecentFailure (now : Nat) (windowMicros : Int) (kind : AttemptKind)
    (a : LoginAttempt) : Bool :=
  ! a.success && a.kind == kind && decide (now - windowMicros ≤ a.attemptedAt)

def failureCountForEmail (db : AuthDb) (now : Nat) (emailLower : String)
    (kind : AttemptKind) (windowMicros : Int) : Int :=
  db.loginAttempts.rows.countP (fun a =>
    sameEmail a.emailLower emailLower && RecentFailure now windowMicros kind a)

def failureCountForIp (db : AuthDb) (now : Nat) (ip : String)
    (kind : AttemptKind) (windowMicros : Int) : Int :=
  db.loginAttempts.rows.countP (fun a =>
    a.ip == ip && RecentFailure now windowMicros kind a)

def recentFailureCountForEmail (emailLower : String) (kind : AttemptKind)
    (windowMicros : Int) : Sql Int :=
  if windowMicros ≤ 0 then pure 0
  else Prog.ask (fun env db =>
    .ok (failureCountForEmail db env.now emailLower kind windowMicros))

def recentFailureCountForIp (ip : String) (kind : AttemptKind)
    (windowMicros : Int) : Sql Int :=
  if windowMicros ≤ 0 then pure 0
  else Prog.ask (fun env db =>
    .ok (failureCountForIp db env.now ip kind windowMicros))

def RecentAttempt (now : Nat) (windowMicros : Int) (kind : AttemptKind)
    (a : LoginAttempt) : Bool :=
  a.kind == kind && decide (now - windowMicros ≤ a.attemptedAt)

def recentAttemptCountForEmail (emailLower : String) (kind : AttemptKind)
    (windowMicros : Int) : Sql Int :=
  if windowMicros ≤ 0 then pure 0
  else Prog.ask (fun env db => .ok (db.loginAttempts.rows.countP (fun a =>
    sameEmail a.emailLower emailLower && RecentAttempt env.now windowMicros kind a)))

def recentAttemptCountForIp (ip : String) (kind : AttemptKind)
    (windowMicros : Int) : Sql Int :=
  if windowMicros ≤ 0 then pure 0
  else Prog.ask (fun env db => .ok (db.loginAttempts.rows.countP (fun a =>
    a.ip == ip && RecentAttempt env.now windowMicros kind a)))

end LoginAttempts

namespace LoginGate

def kDefaultLoginMaxFailuresPerEmail : Int := 10
def kDefaultLoginMaxFailuresPerIp : Int := 50
def kDefaultLoginFailureWindowMicros : Int := 900 * 1000000
def kDefaultVerifyMaxFailuresPerIp : Int := 30
def kDefaultVerifyFailureWindowMicros : Int := 900 * 1000000
def kDefaultRememberMaxFailuresPerIp : Int := 50
def kDefaultRememberFailureWindowMicros : Int := 900 * 1000000
def kDefaultPasswordResetMaxRequestsPerEmail : Int := 5
def kDefaultPasswordResetMaxRequestsPerIp : Int := 20
def kDefaultPasswordResetRequestWindowMicros : Int := 3600 * 1000000
def kDefaultPasswordResetMaxFailuresPerIp : Int := 30
def kDefaultPasswordResetFailureWindowMicros : Int := 900 * 1000000

variable [Citext] (secrets : SecretsHelperPtr)

def maxLockedUntil (db : AuthDb) (email : String) : Int :=
  match db.people.rows.filterMap (fun p =>
      if sameEmail p.email email then p.lockedUntil else none) with
  | [] => 0
  | first :: rest => rest.foldl max first

/-- The lock that was read is compared with the clock of a second statement. -/
def lockInForce (lockedUntil : Int) : Sql Bool :=
  if 0 < lockedUntil then do
    let now ← nowUs
    pure (decide (now < lockedUntil))
  else
    pure false

def accountIsLocked (email : String) : Sql Bool := do
  let lockedUntil ← Prog.ask (fun _ db => .ok (maxLockedUntil db email))
  lockInForce lockedUntil

def checkIp (ip : String) (kind : AttemptKind) (windowMicros ipThreshold : Int) :
    Sql LoginGateResult :=
  if ip = "" then pure .allow
  else do
    let ipFailures ← LoginAttempts.recentFailureCountForIp ip kind windowMicros
    if ipThreshold ≤ ipFailures then pure .rateLimitedIp else pure .allow

def checkLoginCounts (email ip : String) : Sql LoginGateResult := do
  let windowMicros ← lookupInt64Secret secrets
    Secrets.kAuthLoginFailureWindowInMicros kDefaultLoginFailureWindowMicros
  let emailThreshold ← lookupInt64Secret secrets
    Secrets.kAuthLoginMaxFailuresPerEmailPerWindow kDefaultLoginMaxFailuresPerEmail
  let ipThreshold ← lookupInt64Secret secrets
    Secrets.kAuthLoginMaxFailuresPerIpPerWindow kDefaultLoginMaxFailuresPerIp
  if email = "" then checkIp ip .login windowMicros ipThreshold
  else do
    let emailFailures ←
      LoginAttempts.recentFailureCountForEmail email .login windowMicros
    if emailThreshold ≤ emailFailures then pure .rateLimitedEmail
    else checkIp ip .login windowMicros ipThreshold

def checkBeforeLogin (email ip : String) : Sql LoginGateResult :=
  if email = "" then checkLoginCounts secrets email ip
  else do
    let locked ← accountIsLocked email
    if locked then pure .accountLocked else checkLoginCounts secrets email ip

def checkBeforeByIp (windowKey : String) (defaultWindow : Int)
    (thresholdKey : String) (defaultThreshold : Int) (kind : AttemptKind)
    (ip : String) : Sql LoginGateResult :=
  if ip = "" then pure .allow
  else do
    let windowMicros ← lookupInt64Secret secrets windowKey defaultWindow
    let ipThreshold ← lookupInt64Secret secrets thresholdKey defaultThreshold
    checkIp ip kind windowMicros ipThreshold

def checkBeforeVerify (ip : String) : Sql LoginGateResult :=
  checkBeforeByIp secrets
    Secrets.kAuthVerifyFailureWindowInMicros kDefaultVerifyFailureWindowMicros
    Secrets.kAuthVerifyMaxFailuresPerIpPerWindow kDefaultVerifyMaxFailuresPerIp
    .verify ip

def checkBeforeRemember (ip : String) : Sql LoginGateResult :=
  checkBeforeByIp secrets
    Secrets.kAuthRememberFailureWindowInMicros kDefaultRememberFailureWindowMicros
    Secrets.kAuthRememberMaxFailuresPerIpPerWindow kDefaultRememberMaxFailuresPerIp
    .remember ip

def checkBeforeResetPassword (ip : String) : Sql LoginGateResult :=
  checkBeforeByIp secrets
    Secrets.kAuthPasswordResetFailureWindowInMicros kDefaultPasswordResetFailureWindowMicros
    Secrets.kAuthPasswordResetMaxFailuresPerIpPerWindow
    kDefaultPasswordResetMaxFailuresPerIp .passwordReset ip

/-- Every request counts, whether the address has an account or not. -/
def checkBeforeForgotPassword (email ip : String) : Sql LoginGateResult := do
  let windowMicros ← lookupInt64Secret secrets
    Secrets.kAuthPasswordResetRequestWindowInMicros kDefaultPasswordResetRequestWindowMicros
  let emailThreshold ← lookupInt64Secret secrets
    Secrets.kAuthPasswordResetMaxRequestsPerEmailPerWindow
    kDefaultPasswordResetMaxRequestsPerEmail
  let ipThreshold ← lookupInt64Secret secrets
    Secrets.kAuthPasswordResetMaxRequestsPerIpPerWindow kDefaultPasswordResetMaxRequestsPerIp
  let emailRefused ←
    if email = "" then pure false
    else do
      let emailRequests ← LoginAttempts.recentAttemptCountForEmail email
        .passwordResetRequest windowMicros
      pure (decide (emailThreshold ≤ emailRequests))
  if emailRefused then pure .rateLimitedEmail
  else if ip = "" then pure .allow
  else do
    let ipRequests ← LoginAttempts.recentAttemptCountForIp ip .passwordResetRequest
      windowMicros
    if ipThreshold ≤ ipRequests then pure .rateLimitedIp else pure .allow

/-!
# The counts refuse
-/

section Counts

variable {env : Env} {db : AuthDb} {kind : AttemptKind} {email ip : String}
  {windowMicros threshold : Int}

def countForIp (db : AuthDb) (now : Nat) (ip : String) (kind : AttemptKind)
    (windowMicros : Int) : Int :=
  if windowMicros ≤ 0 then 0
  else LoginAttempts.failureCountForIp db now ip kind windowMicros

def countForEmail (db : AuthDb) (now : Nat) (email : String) (kind : AttemptKind)
    (windowMicros : Int) : Int :=
  if windowMicros ≤ 0 then 0
  else LoginAttempts.failureCountForEmail db now email kind windowMicros

variable {post : Except Exn LoginGateResult -> AuthDb -> Prop}

theorem wp_checkIp :
    Prog.wp env (checkIp ip kind windowMicros threshold) post db <->
      post (.ok (if ip ≠ "" ∧ threshold ≤ countForIp db env.now ip kind windowMicros
        then .rateLimitedIp else .allow)) db := by
  unfold checkIp
  by_cases hip : ip = ""
  · simp [hip]
  · simp only [hip, if_false, Prog.bind_eq, Prog.wp_bind,
      LoginAttempts.recentFailureCountForIp, countForIp]
    by_cases hwindow : windowMicros ≤ 0
    · by_cases hthreshold : threshold ≤ 0 <;> simp [hip, hwindow, hthreshold]
    · by_cases hthreshold : threshold ≤
          LoginAttempts.failureCountForIp db env.now ip kind windowMicros <;>
        simp [hip, hwindow, hthreshold]

theorem wp_checkBeforeByIp {windowKey thresholdKey : String} {defaultWindow defaultThreshold : Int}
    (hip : ip ≠ "") (herror : forall err, post (.error err) db)
    (hok : forall windowMicros threshold,
      int64Secret secrets db windowKey defaultWindow = .ok windowMicros ->
      int64Secret secrets db thresholdKey defaultThreshold = .ok threshold ->
      post (.ok (if threshold ≤ countForIp db env.now ip kind windowMicros
        then .rateLimitedIp else .allow)) db) :
    Prog.wp env (checkBeforeByIp secrets windowKey defaultWindow thresholdKey
      defaultThreshold kind ip) post db := by
  simp only [checkBeforeByIp, hip, if_false, Prog.bind_eq, Prog.wp_bind,
    wp_lookupInt64Secret]
  cases hwindow : int64Secret secrets db windowKey defaultWindow with
  | error err => exact herror err
  | ok windowMicros =>
      cases hthreshold : int64Secret secrets db thresholdKey defaultThreshold with
      | error err => exact herror err
      | ok threshold =>
          simp only [wp_checkIp, hip, ne_eq, not_false_eq_true, true_and]
          exact hok windowMicros threshold hwindow hthreshold

theorem wp_checkLoginCounts (herror : forall err, post (.error err) db)
    (hok : forall windowMicros emailThreshold ipThreshold,
      int64Secret secrets db Secrets.kAuthLoginFailureWindowInMicros
        kDefaultLoginFailureWindowMicros = .ok windowMicros ->
      int64Secret secrets db Secrets.kAuthLoginMaxFailuresPerEmailPerWindow
        kDefaultLoginMaxFailuresPerEmail = .ok emailThreshold ->
      int64Secret secrets db Secrets.kAuthLoginMaxFailuresPerIpPerWindow
        kDefaultLoginMaxFailuresPerIp = .ok ipThreshold ->
      post (.ok (
        if email ≠ "" ∧
            emailThreshold ≤ countForEmail db env.now email .login windowMicros then
          .rateLimitedEmail
        else if ip ≠ "" ∧
            ipThreshold ≤ countForIp db env.now ip .login windowMicros then
          .rateLimitedIp
        else .allow)) db) :
    Prog.wp env (checkLoginCounts secrets email ip) post db := by
  simp only [checkLoginCounts, Prog.bind_eq, Prog.wp_bind, wp_lookupInt64Secret]
  cases hwindow : int64Secret secrets db Secrets.kAuthLoginFailureWindowInMicros
      kDefaultLoginFailureWindowMicros with
  | error err => exact herror err
  | ok windowMicros =>
      cases hemailThreshold : int64Secret secrets db
          Secrets.kAuthLoginMaxFailuresPerEmailPerWindow
          kDefaultLoginMaxFailuresPerEmail with
      | error err => exact herror err
      | ok emailThreshold =>
          cases hipThreshold : int64Secret secrets db
              Secrets.kAuthLoginMaxFailuresPerIpPerWindow
              kDefaultLoginMaxFailuresPerIp with
          | error err => exact herror err
          | ok ipThreshold =>
              have hpost := hok windowMicros emailThreshold ipThreshold hwindow
                hemailThreshold hipThreshold
              dsimp only
              by_cases hemail : email = ""
              · simp only [hemail, if_true, wp_checkIp]
                simpa [hemail] using hpost
              · simp only [hemail, if_false, Prog.wp_bind,
                  LoginAttempts.recentFailureCountForEmail]
                simp only [hemail, ne_eq, not_false_eq_true, true_and,
                  countForEmail] at hpost
                by_cases hwindowPos : windowMicros ≤ 0
                · simp only [hwindowPos, if_true, Prog.pure_eq, Prog.wp_done] at hpost ⊢
                  split
                  · rename_i hle
                    simpa [hle] using hpost
                  · rename_i hle
                    rw [wp_checkIp]
                    simpa [hle, hwindowPos] using hpost
                · simp only [hwindowPos, if_false, Prog.wp_ask] at hpost ⊢
                  split
                  · rename_i hle
                    simpa [hle] using hpost
                  · rename_i hle
                    rw [wp_checkIp]
                    simpa [hle] using hpost

end Counts

/-!
# The gate only reads
-/

theorem readOnly_lookupInt64Secret (key : String) (fallback : Int) :
    Prog.ReadOnly (lookupInt64Secret secrets key fallback) := by
  cases secrets with
  | none => exact trivial
  | some helper => exact Prog.ReadOnly.bind Prog.readOnly_ask (fun _ => trivial)

theorem readOnly_checkIp (ip : String) (kind : AttemptKind)
    (windowMicros ipThreshold : Int) :
    Prog.ReadOnly (checkIp ip kind windowMicros ipThreshold) := by
  unfold checkIp LoginAttempts.recentFailureCountForIp
  split
  · exact trivial
  · apply Prog.ReadOnly.bind
    · split
      · exact trivial
      · exact Prog.readOnly_ask
    · intro ipFailures
      split <;> exact trivial

theorem readOnly_checkBeforeByIp (windowKey : String) (defaultWindow : Int)
    (thresholdKey : String) (defaultThreshold : Int) (kind : AttemptKind)
    (ip : String) :
    Prog.ReadOnly (checkBeforeByIp secrets windowKey defaultWindow thresholdKey
      defaultThreshold kind ip) := by
  unfold checkBeforeByIp
  split
  · exact trivial
  · apply Prog.ReadOnly.bind (readOnly_lookupInt64Secret secrets _ _)
    intro windowMicros
    apply Prog.ReadOnly.bind (readOnly_lookupInt64Secret secrets _ _)
    intro ipThreshold
    exact readOnly_checkIp ip kind windowMicros ipThreshold

theorem readOnly_checkLoginCounts (email ip : String) :
    Prog.ReadOnly (checkLoginCounts secrets email ip) := by
  apply Prog.ReadOnly.bind (readOnly_lookupInt64Secret secrets _ _)
  intro windowMicros
  apply Prog.ReadOnly.bind (readOnly_lookupInt64Secret secrets _ _)
  intro emailThreshold
  apply Prog.ReadOnly.bind (readOnly_lookupInt64Secret secrets _ _)
  intro ipThreshold
  split
  · exact readOnly_checkIp ip .login windowMicros ipThreshold
  · apply Prog.ReadOnly.bind
    · unfold LoginAttempts.recentFailureCountForEmail
      split
      · exact trivial
      · exact Prog.readOnly_ask
    · intro emailFailures
      split
      · exact trivial
      · exact readOnly_checkIp ip .login windowMicros ipThreshold

theorem readOnly_lockInForce (lockedUntil : Int) :
    Prog.ReadOnly (lockInForce lockedUntil) := by
  unfold lockInForce
  split
  · exact Prog.ReadOnly.bind Prog.readOnly_ask (fun _ => trivial)
  · exact trivial

theorem readOnly_checkBeforeLogin (email ip : String) :
    Prog.ReadOnly (checkBeforeLogin secrets email ip) := by
  unfold checkBeforeLogin
  split
  · exact readOnly_checkLoginCounts secrets email ip
  · apply Prog.ReadOnly.bind
    · exact Prog.ReadOnly.bind Prog.readOnly_ask readOnly_lockInForce
    · intro locked
      split
      · exact trivial
      · exact readOnly_checkLoginCounts secrets email ip

omit [Citext] in
theorem le_foldl_max {l first : Int} {rest : List Int}
    (h : l ≤ first ∨ l ∈ rest) : l ≤ rest.foldl max first := by
  induction rest generalizing first with
  | nil => simpa using h
  | cons second rest ih =>
      rw [List.foldl_cons]
      apply ih
      rcases h with h | h
      · exact Or.inl (Int.le_trans h (Int.le_max_left first second))
      · rcases List.mem_cons.mp h with h | h
        · rw [h]
          exact Or.inl (Int.le_max_right first second)
        · exact Or.inr h

theorem le_maxLockedUntil {db : AuthDb} {email : String} {p : Person} {l : Int}
    (hp : p ∈ db.people.rows) (hemail : sameEmail p.email email = true)
    (hlock : p.lockedUntil = some l) : l ≤ maxLockedUntil db email := by
  have hmem : l ∈ db.people.rows.filterMap (fun p =>
      if sameEmail p.email email then p.lockedUntil else none) :=
    List.mem_filterMap.mpr ⟨p, hp, by simp [hemail, hlock]⟩
  unfold maxLockedUntil
  split
  · rename_i hnil
    rw [hnil] at hmem
    cases hmem
  · rename_i first rest hcons
    rw [hcons] at hmem
    rcases List.mem_cons.mp hmem with hfirst | hrest
    · exact le_foldl_max (Or.inl (Int.le_of_eq hfirst))
    · exact le_foldl_max (Or.inr hrest)

end LoginGate

end Auth
end ServerComponents
