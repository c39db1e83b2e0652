import ServerComponents.Auth.ForgotPassword
import ServerComponents.Auth.LoginPerson
import ServerComponents.Rest.Handlers

/-!
# What refused logins reveal

Two runs of the same `POST /api/login` requests, over databases that agree on the
recorded attempts.  Only an account can be locked, so a lock shows unless the counts
refuse the attempt as well.
-/

namespace ServerComponents
namespace Auth

open Relational Statements Rest

def boolMember (message : Json) (key : String) : Option Bool :=
  match message.child? key with
  | some (.bool value) => some value
  | _ => none

section Login

variable [Citext] (sodium : Sodium)

/-- The forensic events of a failed login; the attempt that locks the account has two. -/
def recordLoginFailure (loginResult : LoginAttemptResult) (email ip userAgent : String) :
    Sql Unit := do
  AuthEvents.recordEvent .loginFailure loginResult.personId ip userAgent
    ("\x7b\"email\":\"" ++ email ++ "\"\x7d")
  if loginResult.justLocked then
    AuthEvents.recordEvent .accountLocked loginResult.personId ip userAgent
      ("\x7b\"email\":\"" ++ email ++ "\"\x7d")
  else
    pure ()

def login (signIn : LoginAttemptResult -> String -> Bool -> Sql EndpointReply)
    (secrets : SecretsHelperPtr) (message : Json) (ip userAgent : String) :
    Sql EndpointReply :=
  if message.hasChildren = false then pure (.ofResponse ErrorResponse.invalidCredentials)
  else
    match textMember message "email", textMember message "password",
        boolMember message "remember" with
    | some email, some password, some remember =>
        if secrets.isNone then pure (.ofResponse ErrorResponse.invalidCredentials)
        else do
          let gateResult ← LoginGate.checkBeforeLogin secrets email ip
          if gateResult ≠ .allow then pure (.ofResponse ErrorResponse.tooManyAttempts)
          else do
            let loginResult ← loginPerson sodium secrets email password
            if loginResult.success = false then do
              recordLoginFailure loginResult email ip userAgent
              pure ⟨ErrorResponse.invalidCredentials,
                some { emailLower := email, ip := ip, kind := .login, success := false }⟩
            else signIn loginResult email remember
    | _, _, _ => pure (.ofResponse ErrorResponse.invalidCredentials)

structure LoginPost where
  env : Env
  recordEnv : Env
  secrets : SecretsHelperPtr
  body : Option (Except Exn Json)
  ip : String
  userAgent : String

variable (signIn : LoginAttemptResult -> String -> Bool -> Sql EndpointReply)

namespace LoginPost

def program (r : LoginPost) (message : Json) : Sql EndpointReply :=
  login sodium signIn r.secrets message r.ip r.userAgent

/-- The handler of the route; the queued attempt is written after the answer. -/
def handlePost (db : AuthDb) (r : LoginPost) : Response × AuthDb :=
  match r.body with
  | none => (ErrorResponse.badRequest "No message body.", db)
  | some (.error _) => (ErrorResponse.invalidCredentials, db)
  | some (.ok message) =>
      match Prog.transact r.env (r.program sodium signIn message) db with
      | (.error (.sql _), db') => (ErrorResponse.serviceUnavailable kSignInUnavailable, db')
      | (.error _, db') => (ErrorResponse.invalidCredentials, db')
      | (.ok reply, db') =>
          match reply.queued with
          | none => (reply.response, db')
          | some attempt => (reply.response, (Prog.transact r.recordEnv attempt.record db').2)

def perform (db : AuthDb) (r : LoginPost) : AuthDb := (r.handlePost sodium signIn db).2

def answer (db : AuthDb) (r : LoginPost) : Response := (r.handlePost sodium signIn db).1

def credentials? (r : LoginPost) : Option (String × String) :=
  match r.body with
  | some (.ok message) =>
      if message.hasChildren = false ∨ r.secrets.isNone then none
      else
        match textMember message "email", textMember message "password",
            boolMember message "remember" with
        | some email, some password, some _ => some (email, password)
        | _, _, _ => none
  | _ => none

def NoDatabaseFailure (db : AuthDb) (r : LoginPost) : Prop :=
  forall message err, r.body = some (.ok message) ->
    (Prog.transact r.env (r.program sodium signIn message) db).1 ≠ .error (.sql err)

def WrongPassword (db : AuthDb) (r : LoginPost) : Prop :=
  forall email password p, r.credentials? = some (email, password) ->
    checkedPerson db email = some p -> sodium.verifyPassword password p.passwordHash = false

/-!
# What the gate decides
-/

def Locked (db : AuthDb) (r : LoginPost) (email : String) : Prop :=
  email ≠ "" ∧ 0 < LoginGate.maxLockedUntil db email ∧
    r.env.now < LoginGate.maxLockedUntil db email

instance decidableLocked (db : AuthDb) (r : LoginPost) (email : String) :
    Decidable (r.Locked db email) :=
  inferInstanceAs (Decidable (_ ∧ _ ∧ _))

def counts (db : AuthDb) (r : LoginPost) (email : String) : Except Exn LoginGateResult :=
  ((LoginGate.checkLoginCounts r.secrets email r.ip).run r.env db).1

def gateOutcome (db : AuthDb) (r : LoginPost) (email : String) :
    Except Exn LoginGateResult :=
  if r.Locked db email then .ok .accountLocked else r.counts db email

def CountsRefuse (db : AuthDb) (r : LoginPost) (email : String) : Prop :=
  exists gate, r.counts db email = .ok gate ∧ gate ≠ .allow

def gateAnswer : Except Exn LoginGateResult -> Response
  | .ok .allow => ErrorResponse.invalidCredentials
  | .ok _ => ErrorResponse.tooManyAttempts
  | .error _ => ErrorResponse.invalidCredentials

omit [Citext] in
theorem gateAnswer_refused {gate : LoginGateResult} (h : gate ≠ .allow) :
    gateAnswer (.ok gate) = ErrorResponse.tooManyAttempts := by
  cases gate with
  | allow => exact absurd rfl h
  | accountLocked => rfl
  | rateLimitedEmail => rfl
  | rateLimitedIp => rfl

omit [Citext] in
theorem invalidCredentials_ne_tooManyAttempts :
    ErrorResponse.invalidCredentials ≠ ErrorResponse.tooManyAttempts := by
  intro hsame
  have hstatus := congrArg Response.status hsame
  cases hstatus

def Known (db : AuthDb) (email : String) : Prop :=
  (checkedPerson db email).isSome = true

def attempt (r : LoginPost) (email : String) : QueuedAttempt where
  emailLower := email
  ip := r.ip
  kind := .login
  success := false

def LockoutReadable (db : AuthDb) (r : LoginPost) : Prop :=
  exists settings, lockoutSettings r.secrets db = .ok settings

def Records (db : AuthDb) (r : LoginPost) (email : String) : Prop :=
  r.gateOutcome db email = .ok .allow ∧ (Known db email -> r.LockoutReadable db)

end LoginPost

/-- A lock is in force in both databases or in neither, or the counts refuse the attempt
in any case. -/
def LocksAlike (s : AuthDb × AuthDb) (r : LoginPost) : Prop :=
  forall email password, r.credentials? = some (email, password) ->
    r.CountsRefuse s.1 email ∨ (r.Locked s.1 email <-> r.Locked s.2 email)

/-- The settings of the lockout can be read, when an attempt passes the gate whose
address has a verified account in one of the databases alone. -/
def RecordsAlike (s : AuthDb × AuthDb) (r : LoginPost) : Prop :=
  forall email password, r.credentials? = some (email, password) ->
    r.gateOutcome s.1 email = .ok .allow ->
      r.LockoutReadable s.1 ∨ (LoginPost.Known s.1 email <-> LoginPost.Known s.2 email)

/-- What is assumed of every request. -/
structure RefusedLogin (s : AuthDb × AuthDb) (r : LoginPost) : Prop where
  settings : SettingsElsewhere r.secrets
  first : r.NoDatabaseFailure sodium signIn s.1
  second : r.NoDatabaseFailure sodium signIn s.2
  wrongFirst : r.WrongPassword sodium s.1
  wrongSecond : r.WrongPassword sodium s.2

/-!
# One refused request
-/

namespace LoginPost

variable {sodium signIn} {db db' : AuthDb} {r : LoginPost} {email password : String}

theorem wp_checkBeforeLogin {post : Except Exn LoginGateResult -> AuthDb -> Prop}
    (h : post (r.gateOutcome db email) db) :
    Prog.wp r.env (LoginGate.checkBeforeLogin r.secrets email r.ip) post db := by
  have hcounts : Not (r.Locked db email) ->
      Prog.wp r.env (LoginGate.checkLoginCounts r.secrets email r.ip) post db := by
    intro hfree
    rw [gateOutcome, if_neg hfree] at h
    show post _ ((LoginGate.checkLoginCounts r.secrets email r.ip).run r.env db).2
    rw [(LoginGate.readOnly_checkLoginCounts r.secrets email r.ip).run_store]
    exact h
  unfold LoginGate.checkBeforeLogin
  split
  · rename_i hemail
    exact hcounts (fun hlocked => hlocked.1 hemail)
  rename_i hemail
  simp only [LoginGate.accountIsLocked, Prog.bind_eq, Prog.wp_bind, Prog.wp_ask,
    LoginGate.lockInForce]
  split
  · rename_i hpositive
    simp only [nowUs, Prog.wp_bind, Prog.wp_ask]
    by_cases hlater : (r.env.now : Int) < LoginGate.maxLockedUntil db email
    · rw [gateOutcome, if_pos ⟨hemail, hpositive, hlater⟩] at h
      simp only [hlater, decide_true, Prog.pure_eq, Prog.wp_done, if_true]
      exact h
    · simp only [hlater, decide_false, Prog.pure_eq, Prog.wp_done, Bool.false_eq_true, if_false]
      exact hcounts (fun hlocked => hlater hlocked.2.2)
  · rename_i hpositive
    simp only [Prog.pure_eq, Prog.wp_done, Bool.false_eq_true, if_false]
    exact hcounts (fun hlocked => hpositive hlocked.2.1)

theorem program_of_credentials {message : Json} (hbody : r.body = some (.ok message))
    (h : r.credentials? = some (email, password)) :
    message.hasChildren = true ∧ r.secrets.isNone = false ∧
      textMember message "email" = some email ∧
      textMember message "password" = some password ∧
      exists remember, boolMember message "remember" = some remember := by
  unfold credentials? at h
  rw [hbody] at h
  dsimp only at h
  split at h
  · cases h
  · rename_i hcomplete
    rw [not_or] at hcomplete
    rcases hcomplete with ⟨hchildren, hsecrets⟩
    split at h
    · rename_i hemail hpassword hremember
      cases h
      exact ⟨by simpa using hchildren, Bool.eq_false_iff.mpr hsecrets, hemail, hpassword, _,
        hremember⟩
    · cases h

theorem wp_recordLoginFailure {env : Env} {loginResult : LoginAttemptResult}
    {ip userAgent : String} {post : Except Exn Unit -> AuthDb -> Prop}
    (hok : forall db', db'.loginAttempts = db.loginAttempts -> post (.ok ()) db') :
    Prog.wp env (recordLoginFailure loginResult email ip userAgent) post db := by
  simp only [recordLoginFailure, AuthEvents.recordEvent, Prog.bind_eq, Prog.wp_bind]
  rw [Prog.wp_exec]
  dsimp only
  split
  · rw [Prog.wp_exec]
    exact hok _ rfl
  · exact hok _ rfl

omit [Citext] in
theorem failedRow_error {env : Env} {threshold duration : Int} {p : Person} {err : Exn}
    (h : failedRow env threshold duration p = .error err) : exists what, err = .sql what := by
  have hbigint : forall {v : Int} {err : Exn}, bigint v = .error err ->
      exists what, err = .sql what := by
    intro v err hv
    unfold bigint at hv
    split at hv <;> cases hv
    exact ⟨_, rfl⟩
  unfold failedRow at h
  cases hattempts : bigint (p.failedLoginAttempts + 1) with
  | error err' =>
      rw [hattempts] at h
      cases h
      exact hbigint hattempts
  | ok attempts =>
      simp only [hattempts, bind, Except.bind] at h
      split at h
      · cases hlock : bigint (env.now + duration) with
        | error err' =>
            rw [hlock] at h
            cases h
            exact hbigint hlock
        | ok lockedUntil =>
            rw [hlock] at h
            cases h
      · cases h

/-- A wrong password leaves the attempts alone, and an account whose settings cannot be
read ends with an exception. -/
theorem wp_wrongPassword (hwrong : forall p, checkedPerson db email = some p ->
      sodium.verifyPassword password p.passwordHash = false)
    {post : Except Exn LoginAttemptResult -> AuthDb -> Prop}
    (hsql : forall err, post (.error (.sql err)) db)
    (hunreadable : forall err, Known db email -> Not (r.LockoutReadable db) ->
      post (.error err) db)
    (hok : forall result db', result.success = false ->
      db'.loginAttempts = db.loginAttempts -> (Known db email -> r.LockoutReadable db) ->
      post (.ok result) db') :
    Prog.wp r.env (loginPerson sodium r.secrets email password) post db := by
  have hunknown : checkedPerson db email = none ->
      post (.ok LoginAttemptResult.initial) db := by
    intro hnone
    apply hok _ _ rfl rfl
    intro hknown
    rw [Known, hnone] at hknown
    cases hknown
  simp only [loginPerson, People.lookupPersonByEmail, Prog.bind_eq, Prog.wp_bind, Prog.wp_ask]
  cases hfind : People.personByEmail db email with
  | none => exact hunknown (by simp [checkedPerson, hfind])
  | some p =>
      dsimp only
      split
      · rename_i hverified
        have hchecked : checkedPerson db email = some p := by
          simp [checkedPerson, hfind, hverified]
        have hknown : Known db email := by
          rw [Known, hchecked]
          rfl
        simp only [hwrong p hchecked, finishLogin, Prog.bind_eq, Prog.wp_bind,
          wp_lookupInt64Secret, Bool.false_eq_true, if_false]
        cases hthreshold : int64Secret r.secrets db
            Secrets.kAuthAccountLockoutAfterFailures kFallbackLockoutAfterFailures with
        | error err =>
            apply hunreadable err hknown
            rintro ⟨settings, hsettings⟩
            simp [lockoutSettings, hthreshold, bind, Except.bind] at hsettings
        | ok threshold =>
        cases hduration : int64Secret r.secrets db
            Secrets.kAuthAccountLockoutDurationInMicros kFallbackLockoutDurationMicros with
        | error err =>
            apply hunreadable err hknown
            rintro ⟨settings, hsettings⟩
            simp [lockoutSettings, hthreshold, hduration, bind, Except.bind] at hsettings
        | ok duration =>
            have hreadable : r.LockoutReadable db :=
              ⟨(threshold, duration), by
                simp [lockoutSettings, hthreshold, hduration, bind, Except.bind, pure,
                  Except.pure]⟩
            dsimp only
            rw [Prog.wp_exec]
            rcases People.updatePersonReturning_cases p.id
                (fun env row => failedRow env threshold duration row) r.env db
                (fun row row' h => ⟨(failedRow_keeps h).1, (failedRow_keeps h).2.1⟩) with
              ⟨_, hwrite⟩ | ⟨row, err, _, hchange, hwrite⟩ |
                ⟨row, row', db', _, _, hreplaced, hwrite⟩
            · rw [hwrite]
              exact hok _ _ rfl rfl (fun _ => hreadable)
            · rw [hwrite]
              rcases failedRow_error hchange with ⟨what, herr⟩
              rw [herr]
              exact hsql what
            · rw [hwrite]
              have hattempts : db'.loginAttempts = db.loginAttempts := by rw [hreplaced.rest_eq]
              exact hok _ db' rfl hattempts (fun _ => hreadable)
      · rename_i hverified
        exact hunknown (by simp [checkedPerson, hfind, hverified])

theorem wp_program {message : Json} (hbody : r.body = some (.ok message))
    (hcredentials : r.credentials? = some (email, password))
    (hwrong : r.WrongPassword sodium db) :
    Prog.wp r.env (r.program sodium signIn message) (fun outcome db' =>
      match outcome with
      | .ok reply => reply.response = gateAnswer (r.gateOutcome db email) ∧
          db'.loginAttempts = db.loginAttempts ∧
          ((r.Records db email ∧ reply.queued = some (r.attempt email)) ∨
            (Not (r.Records db email) ∧ reply.queued = none))
      | .error err => (exists what, err = .sql what) ∨ (Not (r.Records db email) ∧
          gateAnswer (r.gateOutcome db email) = ErrorResponse.invalidCredentials)) db := by
  rcases program_of_credentials hbody hcredentials with
    ⟨hchildren, hsecrets, hemail, hpassword, remember, hremember⟩
  unfold program login
  rw [if_neg (by simp [hchildren]), hemail, hpassword, hremember]
  simp only [hsecrets, Bool.false_eq_true, if_false, Prog.bind_eq]
  rw [Prog.wp_bind]
  apply wp_checkBeforeLogin
  cases hgate : r.gateOutcome db email with
  | error err =>
      right
      refine ⟨?_, rfl⟩
      intro hrecords
      rw [Records, hgate] at hrecords
      cases hrecords.1
  | ok gate =>
      dsimp only
      by_cases hallow : gate = .allow
      · rw [hallow] at hgate ⊢
        rw [if_neg (by simp), Prog.wp_bind]
        apply wp_wrongPassword (fun p hp => hwrong email password p hcredentials hp)
        · exact fun err => Or.inl ⟨err, rfl⟩
        · intro err hknown hunreadable
          right
          exact ⟨fun hrecords => hunreadable (hrecords.2 hknown), rfl⟩
        · intro result db' hfailed hattempts hreadable
          dsimp only
          rw [if_pos hfailed, Prog.wp_bind]
          apply wp_recordLoginFailure
          intro db'' hattempts'
          exact ⟨rfl, hattempts'.trans hattempts, Or.inl ⟨⟨hgate, hreadable⟩, rfl⟩⟩
      · rw [if_pos hallow]
        refine ⟨(gateAnswer_refused hallow).symm, rfl, Or.inr ⟨?_, rfl⟩⟩
        intro hrecords
        rw [Records, hgate] at hrecords
        cases hrecords.1
        exact hallow rfl

theorem handlePost_complete (hcredentials : r.credentials? = some (email, password))
    (hno : r.NoDatabaseFailure sodium signIn db) (hwrong : r.WrongPassword sodium db) :
    r.answer sodium signIn db = gateAnswer (r.gateOutcome db email) ∧
      ((r.Records db email ∧ exists base, base.loginAttempts = db.loginAttempts ∧
          r.perform sodium signIn db =
            (Prog.transact r.recordEnv (r.attempt email).record base).2) ∨
        (Not (r.Records db email) ∧
          (r.perform sodium signIn db).loginAttempts = db.loginAttempts)) := by
  cases hbody : r.body with
  | none =>
      rw [credentials?, hbody] at hcredentials
      cases hcredentials
  | some parsed =>
  cases parsed with
  | error err =>
      rw [credentials?, hbody] at hcredentials
      cases hcredentials
  | ok message =>
      have hwp := @wp_program _ _ signIn _ _ _ _ _ hbody hcredentials hwrong
      have hno' := hno message
      unfold answer perform handlePost
      rw [hbody]
      unfold Prog.wp at hwp
      unfold Prog.transact at hno' ⊢
      dsimp only
      rcases hrun : (r.program sodium signIn message).run r.env db with ⟨outcome, db'⟩
      rw [hrun] at hwp hno'
      cases outcome with
      | error err =>
          rcases hwp with ⟨what, herr⟩ | ⟨hskips, hanswer⟩
          · exact absurd (by rw [herr]) (hno' what hbody)
          · cases err with
            | sql what => exact absurd rfl (hno' what hbody)
            | _ => exact ⟨hanswer.symm, Or.inr ⟨hskips, rfl⟩⟩
      | ok reply =>
          rcases hwp with ⟨hresponse, hattempts, ⟨hrecords, hqueued⟩ | ⟨hskips, hqueued⟩⟩
          · dsimp only
            rw [hqueued]
            exact ⟨hresponse, Or.inl ⟨hrecords, db', hattempts, rfl⟩⟩
          · dsimp only
            rw [hqueued]
            exact ⟨hresponse, Or.inr ⟨hskips, hattempts⟩⟩

theorem handlePost_incomplete (h : r.credentials? = none) :
    exists response, forall db,
      r.answer sodium signIn db = response ∧ r.perform sodium signIn db = db := by
  unfold answer perform handlePost
  cases hbody : r.body with
  | none => exact ⟨_, fun db => ⟨rfl, rfl⟩⟩
  | some parsed =>
  cases parsed with
  | error err => exact ⟨_, fun db => ⟨rfl, rfl⟩⟩
  | ok message =>
      have hprogram : r.program sodium signIn message =
          pure (.ofResponse ErrorResponse.invalidCredentials) := by
        unfold program login
        rw [credentials?, hbody] at h
        dsimp only at h
        split
        · rfl
        · rename_i hchildren
          split
          · rename_i hemail hpassword hremember
            rw [hemail, hpassword, hremember] at h
            split
            · rfl
            · rename_i hsecrets
              rw [if_neg (by rw [not_or]; exact ⟨hchildren, hsecrets⟩)] at h
              cases h
          · rfl
      simp only [hprogram]
      exact ⟨_, fun db => ⟨rfl, rfl⟩⟩

theorem readsKey_checkLoginCounts {secrets : SecretsHelperPtr}
    (hsettings : SettingsElsewhere secrets) (email ip : String) :
    Prog.ReadsKey (fun db : AuthDb => db.loginAttempts)
      (LoginGate.checkLoginCounts secrets email ip) := by
  have hip : forall windowMicros ipThreshold,
      Prog.ReadsKey (fun db : AuthDb => db.loginAttempts)
        (LoginGate.checkIp ip .login windowMicros ipThreshold) := by
    intro windowMicros ipThreshold
    unfold LoginGate.checkIp
    split
    · exact trivial
    · apply Prog.ReadsKey.bind (readsKey_count _ _)
      intro ipFailures
      split <;> exact trivial
  apply Prog.ReadsKey.bind (readsKey_lookupInt64Secret hsettings _ _)
  intro windowMicros
  apply Prog.ReadsKey.bind (readsKey_lookupInt64Secret hsettings _ _)
  intro emailThreshold
  apply Prog.ReadsKey.bind (readsKey_lookupInt64Secret hsettings _ _)
  intro ipThreshold
  split
  · exact hip _ _
  · apply Prog.ReadsKey.bind (readsKey_count _ _)
    intro emailFailures
    split
    · exact trivial
    · exact hip _ _

theorem counts_congr (hsettings : SettingsElsewhere r.secrets)
    (h : db.loginAttempts = db'.loginAttempts) (email : String) :
    r.counts db email = r.counts db' email :=
  (readsKey_checkLoginCounts hsettings email r.ip).run_eq h

theorem lockoutReadable_congr (hsettings : SettingsElsewhere r.secrets) (db db' : AuthDb) :
    r.LockoutReadable db <-> r.LockoutReadable db' := by
  have hsame : lockoutSettings r.secrets db = lockoutSettings r.secrets db' := by
    unfold lockoutSettings int64Secret
    cases hsecrets : r.secrets with
    | none => rfl
    | some helper =>
        dsimp only
        rw [hsettings helper hsecrets db db' Secrets.kAuthAccountLockoutAfterFailures,
          hsettings helper hsecrets db db' Secrets.kAuthAccountLockoutDurationInMicros]
  unfold LockoutReadable
  rw [hsame]

/-- A lock in one database alone shows, unless the counts refuse in both. -/
theorem gateAnswer_eq_iff (h : r.counts db email = r.counts db' email) :
    gateAnswer (r.gateOutcome db email) = gateAnswer (r.gateOutcome db' email) <->
      r.CountsRefuse db email ∨ (r.Locked db email <-> r.Locked db' email) := by
  have hshows : Not (r.CountsRefuse db email) ->
      gateAnswer (r.counts db email) = ErrorResponse.invalidCredentials := by
    intro hpasses
    cases hcounts : r.counts db email with
    | error err => rfl
    | ok gate =>
        by_cases hallow : gate = .allow
        · rw [hallow]
          rfl
        · exact absurd ⟨gate, hcounts, hallow⟩ hpasses
  have hhides : r.CountsRefuse db email ->
      gateAnswer (r.counts db email) = ErrorResponse.tooManyAttempts := by
    rintro ⟨gate, hcounts, hrefused⟩
    rw [hcounts, gateAnswer_refused hrefused]
  have hcompare : gateAnswer (r.counts db email) = ErrorResponse.tooManyAttempts <->
      r.CountsRefuse db email := by
    constructor
    · intro hsame
      by_contra hpasses
      rw [hshows hpasses] at hsame
      exact invalidCredentials_ne_tooManyAttempts hsame
    · exact hhides
  have hlockedAnswer : gateAnswer (.ok .accountLocked) = ErrorResponse.tooManyAttempts := rfl
  unfold gateOutcome
  rw [← h]
  by_cases hlocked : r.Locked db email <;> by_cases hlocked' : r.Locked db' email
  · simp [hlocked, hlocked']
  · rw [if_pos hlocked, if_neg hlocked', hlockedAnswer, eq_comm, hcompare]
    simp [hlocked, hlocked']
  · rw [if_neg hlocked, if_pos hlocked', hlockedAnswer, hcompare]
    simp [hlocked, hlocked']
  · simp [hlocked, hlocked']

theorem passes_iff (h : r.counts db email = r.counts db' email)
    (halike : r.CountsRefuse db email ∨ (r.Locked db email <-> r.Locked db' email)) :
    r.gateOutcome db email = .ok .allow <-> r.gateOutcome db' email = .ok .allow := by
  unfold gateOutcome
  rw [← h]
  rcases halike with ⟨gate, hcounts, hrefused⟩ | hlocks
  · rw [hcounts]
    by_cases hlocked : r.Locked db email <;> by_cases hlocked' : r.Locked db' email <;>
      simp [hlocked, hlocked', hrefused]
  · by_cases hlocked : r.Locked db email
    · rw [if_pos hlocked, if_pos (hlocks.mp hlocked)]
    · rw [if_neg hlocked, if_neg (fun hlocked' => hlocked (hlocks.mpr hlocked'))]

end LoginPost

/-!
# Two runs
-/

variable {sodium signIn}

theorem login_step {s : AuthDb × AuthDb} {r : LoginPost}
    (h : s.1.loginAttempts = s.2.loginAttempts) (hlaw : RefusedLogin sodium signIn s r) :
    (r.answer sodium signIn s.1 = r.answer sodium signIn s.2 <-> LocksAlike s r) ∧
      (LocksAlike s r -> RecordsAlike s r ->
        (r.perform sodium signIn s.1).loginAttempts =
          (r.perform sodium signIn s.2).loginAttempts) := by
  cases hcredentials : r.credentials? with
  | none =>
      rcases @LoginPost.handlePost_incomplete _ sodium signIn r hcredentials with
        ⟨response, hsame⟩
      have hlocks : LocksAlike s r := by
        intro email password hsome
        rw [hcredentials] at hsome
        cases hsome
      rw [(hsame s.1).1, (hsame s.2).1, (hsame s.1).2, (hsame s.2).2]
      exact ⟨⟨fun _ => hlocks, fun _ => rfl⟩, fun _ _ => h⟩
  | some pair =>
  rcases pair with ⟨email, password⟩
  have hcounts := LoginPost.counts_congr hlaw.settings h email
  have hlocks : LocksAlike s r <->
      r.CountsRefuse s.1 email ∨ (r.Locked s.1 email <-> r.Locked s.2 email) := by
    constructor
    · intro halike
      exact halike email password hcredentials
    · intro halike email' password' hsome
      rw [hcredentials] at hsome
      cases hsome
      exact halike
  rcases LoginPost.handlePost_complete hcredentials hlaw.first hlaw.wrongFirst with
    ⟨hanswer, hperform⟩
  rcases LoginPost.handlePost_complete hcredentials hlaw.second hlaw.wrongSecond with
    ⟨hanswer', hperform'⟩
  constructor
  · rw [hanswer, hanswer', hlocks]
    exact LoginPost.gateAnswer_eq_iff hcounts
  · intro halike hrecords
    have hpasses := LoginPost.passes_iff hcounts (hlocks.mp halike)
    have hreadable := LoginPost.lockoutReadable_congr hlaw.settings s.1 s.2
    have hboth : r.Records s.1 email <-> r.Records s.2 email := by
      unfold LoginPost.Records
      by_cases hpass : r.gateOutcome s.1 email = .ok .allow
      · have hrecords' := hrecords email password hcredentials hpass
        have hpass' := hpasses.mp hpass
        rcases hrecords' with hread | hknown
        · simp [hpass, hpass', hread, hreadable.mp hread]
        · simp [hpass, hpass', hknown, hreadable]
      · have hstops : Not (r.gateOutcome s.2 email = .ok .allow) :=
          fun hpass' => hpass (hpasses.mpr hpass')
        simp [hpass, hstops]
    rcases hperform with ⟨hrecord, base, hbase, hperform⟩ | ⟨hskips, hperform⟩
    · rcases hperform' with ⟨_, base', hbase', hperform'⟩ | ⟨hskips', _⟩
      · rw [hperform, hperform']
        apply record_attempts
        rw [hbase, hbase', h]
      · exact absurd (hboth.mp hrecord) hskips'
    · rcases hperform' with ⟨hrecord', _⟩ | ⟨_, hperform'⟩
      · exact absurd (hboth.mpr hrecord') hskips
      · rw [hperform, hperform', h]

theorem unwinding_login :
    Unwinding (LoginPost.perform sodium signIn) (LoginPost.answer sodium signIn)
      (fun s => s.1.loginAttempts = s.2.loginAttempts)
      (fun s r => RefusedLogin sodium signIn s r ∧ RecordsAlike s r) LocksAlike where
  observed := fun _ _ h hlaw => (login_step h hlaw.1).1
  kept := fun _ _ h hlaw htest => (login_step h hlaw.1).2 htest hlaw.2

/-- Databases that agree on the recorded attempts answer refused logins alike, as long as
a lock is in force in both or the counts refuse as well; and where the attempts of both
are recorded, only then. -/
theorem login_reveals (sodium : Sodium)
    (signIn : LoginAttemptResult -> String -> Bool -> Sql EndpointReply) (db db' : AuthDb)
    (h : db.loginAttempts = db'.loginAttempts) (requests : List LoginPost)
    (hrefused : Along (stepBoth (LoginPost.perform sodium signIn))
      (RefusedLogin sodium signIn) (db, db') requests) :
    (Along (stepBoth (LoginPost.perform sodium signIn))
        (fun s r => LocksAlike s r ∧ RecordsAlike s r) (db, db') requests ->
      observations (LoginPost.perform sodium signIn) (LoginPost.answer sodium signIn) db
          requests =
        observations (LoginPost.perform sodium signIn) (LoginPost.answer sodium signIn) db'
          requests) ∧
      (Along (stepBoth (LoginPost.perform sodium signIn)) RecordsAlike (db, db') requests ->
        observations (LoginPost.perform sodium signIn) (LoginPost.answer sodium signIn) db
            requests =
          observations (LoginPost.perform sodium signIn) (LoginPost.answer sodium signIn) db'
            requests ->
        Along (stepBoth (LoginPost.perform sodium signIn)) LocksAlike (db, db') requests) := by
  have hruns : Along (stepBoth (LoginPost.perform sodium signIn)) RecordsAlike (db, db')
        requests ->
      (observations (LoginPost.perform sodium signIn) (LoginPost.answer sodium signIn) db
          requests =
        observations (LoginPost.perform sodium signIn) (LoginPost.answer sodium signIn) db'
          requests <->
      Along (stepBoth (LoginPost.perform sodium signIn)) LocksAlike (db, db') requests) := by
    intro hrecords
    have hlaw : Along (stepBoth (LoginPost.perform sodium signIn))
        (fun s r => RefusedLogin sodium signIn s r ∧ RecordsAlike s r) (db, db') requests :=
      fun pre r post hsplit => ⟨hrefused pre r post hsplit, hrecords pre r post hsplit⟩
    exact unwinding_login.observations_eq (s := (db, db')) h hlaw
  constructor
  · intro halike
    exact (hruns (halike.mono (fun _ _ hboth => hboth.2))).mpr
      (halike.mono (fun _ _ hboth => hboth.1))
  · intro hrecords
    exact (hruns hrecords).mp

end Login

/-!
# A lock outlasts the counts
-/

section SampleLogin

attribute [local instance] Citext.plain

/-- No password is right in the sample, and what would follow is not reached. -/
def signInNever : LoginAttemptResult -> String -> Bool -> Sql EndpointReply :=
  fun _ _ _ => pure (.ofResponse (Response.ofStatus 200))

def guessPassword : Json :=
  .obj [("email", .str "ann@example.com"), ("password", .str "guess"),
    ("remember", .bool false)]

def wrongLogin (now : Nat) : LoginPost where
  env := Env.ofClock now "a"
  recordEnv := Env.ofClock now "b"
  secrets := some (SecretsHelper.ofSettings [])
  body := some (.ok guessPassword)
  ip := "10.0.0.1"
  userAgent := ""

def guesses : List LoginPost :=
  List.replicate 10 (wrongLogin 1000) ++ [wrongLogin (1000 + 1200 * 1000000)]

def GuessFails (db : AuthDb) (r : LoginPost) : Prop :=
  isSqlError (Prog.transact r.env (r.program Sodium.plain signInNever guessPassword) db).1 =
      false ∧
    (checkedPerson db "ann@example.com").all
      (fun p => ! Sodium.plain.verifyPassword "guess" p.passwordHash) = true

instance decidableGuessFails (db : AuthDb) (r : LoginPost) : Decidable (GuessFails db r) :=
  inferInstanceAs (Decidable (_ ∧ _))

theorem GuessFails.law {db : AuthDb} {now : Nat} (h : GuessFails db (wrongLogin now)) :
    (wrongLogin now).NoDatabaseFailure Sodium.plain signInNever db ∧
      (wrongLogin now).WrongPassword Sodium.plain db := by
  constructor
  · intro message err hbody herr
    cases hbody
    have hfine := h.1
    rw [herr] at hfine
    cases hfine
  · intro email password p hcredentials hp
    cases hcredentials
    have hwrong := h.2
    rw [hp] at hwrong
    simpa using hwrong

theorem refusedLogin_of {db db' : AuthDb} {requests : List LoginPost}
    (hsample : forall r, r ∈ requests -> exists now, r = wrongLogin now)
    (h : Along (stepBoth (LoginPost.perform Sodium.plain signInNever))
      (fun s r => GuessFails s.1 r ∧ GuessFails s.2 r) (db, db') requests) :
    Along (stepBoth (LoginPost.perform Sodium.plain signInNever))
      (RefusedLogin Sodium.plain signInNever) (db, db') requests := by
  intro pre r post hsplit
  have hfails := h pre r post hsplit
  rcases hsample r (by rw [hsplit]; simp) with ⟨now, hnow⟩
  rw [hnow] at hfails ⊢
  rcases hfails.1.law with ⟨hfirst, hwrongFirst⟩
  rcases hfails.2.law with ⟨hsecond, hwrongSecond⟩
  refine ⟨?_, hfirst, hsecond, hwrongFirst, hwrongSecond⟩
  intro helper hhelper db db' name
  cases hhelper
  rfl

theorem refusedLogin_guesses :
    Along (stepBoth (LoginPost.perform Sodium.plain signInNever))
      (RefusedLogin Sodium.plain signInNever) (onePerson, AuthDb.empty) guesses := by
  apply refusedLogin_of
  · intro r hr
    rcases List.mem_append.mp hr with hearly | hlate
    · exact ⟨_, (List.mem_replicate.mp hearly).2⟩
    · exact ⟨_, List.mem_singleton.mp hlate⟩
  · decide

/-- Ann's account is still locked after twenty minutes; a stranger's address is not. -/
theorem login_reveals_lock :
    Along (stepBoth (LoginPost.perform Sodium.plain signInNever))
        (RefusedLogin Sodium.plain signInNever) (onePerson, AuthDb.empty) guesses ∧
      observations (LoginPost.perform Sodium.plain signInNever)
          (LoginPost.answer Sodium.plain signInNever) onePerson guesses ≠
        observations (LoginPost.perform Sodium.plain signInNever)
          (LoginPost.answer Sodium.plain signInNever) AuthDb.empty guesses := by
  refine ⟨refusedLogin_guesses, ?_⟩
  intro hsame
  have hknown : (observations (LoginPost.perform Sodium.plain signInNever)
      (LoginPost.answer Sodium.plain signInNever) onePerson guesses).map Response.status =
      List.replicate 10 401 ++ [429] := by
    decide
  have hunknown : (observations (LoginPost.perform Sodium.plain signInNever)
      (LoginPost.answer Sodium.plain signInNever) AuthDb.empty guesses).map Response.status =
      List.replicate 11 401 := by
    decide
  rw [hsame, hunknown] at hknown
  cases hknown

/-- Nobody is locked before the tenth wrong password. -/
theorem login_reveals_sample :
    observations (LoginPost.perform Sodium.plain signInNever)
        (LoginPost.answer Sodium.plain signInNever) onePerson
        (List.replicate 10 (wrongLogin 1000)) =
      observations (LoginPost.perform Sodium.plain signInNever)
        (LoginPost.answer Sodium.plain signInNever) AuthDb.empty
        (List.replicate 10 (wrongLogin 1000)) := by
  have hsample : forall r, r ∈ List.replicate 10 (wrongLogin 1000) ->
      exists now, r = wrongLogin now :=
    fun r hr => ⟨1000, (List.mem_replicate.mp hr).2⟩
  have hlocks : Along (stepBoth (LoginPost.perform Sodium.plain signInNever))
      (fun s r => r.Locked s.1 "ann@example.com" <-> r.Locked s.2 "ann@example.com")
      (onePerson, AuthDb.empty) (List.replicate 10 (wrongLogin 1000)) := by
    decide
  refine (login_reveals Sodium.plain signInNever onePerson AuthDb.empty rfl
    (List.replicate 10 (wrongLogin 1000)) (refusedLogin_of hsample (by decide))).1 ?_
  intro pre r post hsplit
  have hlock := hlocks pre r post hsplit
  rcases hsample r (by rw [hsplit]; simp) with ⟨now, hnow⟩
  rw [hnow] at hlock ⊢
  constructor
  · intro email password hcredentials
    cases hcredentials
    exact Or.inr hlock
  · intro email password hcredentials _
    left
    exact ⟨(kFallbackLockoutAfterFailures, kFallbackLockoutDurationMicros), by rfl⟩

end SampleLogin

end Auth
end ServerComponents
