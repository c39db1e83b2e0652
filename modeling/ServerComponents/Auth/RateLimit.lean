import ServerComponents.Auth.AttemptDetails
import ServerComponents.Auth.PersonDeviceTokens
import ServerComponents.Statements.Run
import Mathlib.Logic.Function.Basic

/-!
# The rate limit in a deployment with tenants

A request's gate reads the database of its tenant.  The attempt is recorded by a
job that runs later, against the database that the recorder picked when it
queued the job.
-/

namespace ServerComponents
namespace Auth

open Relational Statements

section RateLimit

variable [Citext]

inductive GatedEndpoint where
  | login
  | verify
  | remember
  deriving Repr, DecidableEq

def GatedEndpoint.kind : GatedEndpoint -> AttemptKind
  | login => .login
  | verify => .verify
  | remember => .remember

/--
A request to one of the three endpoints.  The body is the endpoint's work behind
the gate: `some success` reaches the recorder, `none` returns before it.  No body
writes attempts itself.
-/
structure GatedRequest where
  endpoint : GatedEndpoint
  secrets : SecretsHelperPtr
  email : String
  ip : String
  body : Sql (Option Bool)
  body_keeps : forall env db,
    (body.run env db).2.loginAttempts = db.loginAttempts

namespace GatedRequest

def gate (r : GatedRequest) : Sql LoginGateResult :=
  match r.endpoint with
  | .login => LoginGate.checkBeforeLogin r.secrets r.email r.ip
  | .verify => LoginGate.checkBeforeVerify r.secrets r.ip
  | .remember => LoginGate.checkBeforeRemember r.secrets r.ip

def program (r : GatedRequest) : Sql (Option Bool) := do
  let result ← r.gate
  if result = .allow then r.body else pure none

theorem keepsAttempts_bind {a b : Type} {p : Sql b} {f : b -> Sql a}
    (hp : forall env db, (p.run env db).2.loginAttempts = db.loginAttempts)
    (hf : forall value env db, ((f value).run env db).2.loginAttempts = db.loginAttempts)
    (env : Env) (db : AuthDb) :
    ((p.bind f).run env db).2.loginAttempts = db.loginAttempts := by
  have hkeeps := hp env db
  rw [Prog.run_bind]
  rcases hrun : p.run env db with ⟨outcome, db'⟩
  rw [hrun] at hkeeps
  cases outcome with
  | error err => exact hkeeps
  | ok value => exact (hf value env db').trans hkeeps

/--
The login endpoint.  `proceed` is what it does for a login that succeeded: the
session, the cookies and the redirect, or nothing more when one of them fails.
-/
def ofLogin (sodium : Sodium) (secrets : SecretsHelperPtr)
    (email password ip : String) (proceed : Sql Bool)
    (hproceed : forall env db,
      (proceed.run env db).2.loginAttempts = db.loginAttempts) : GatedRequest where
  endpoint := .login
  secrets := secrets
  email := email
  ip := ip
  body := do
    let loginResult ← loginPerson sodium secrets email password
    if loginResult.success then do
      let loggedIn ← proceed
      pure (if loggedIn then some true else none)
    else
      pure (some false)
  body_keeps := by
    apply keepsAttempts_bind
    · intro env db
      have heffect := wp_loginPerson sodium secrets env db email password
      exact heffect.loginAttempts_eq
    · intro loginResult
      split
      · exact keepsAttempts_bind hproceed (fun _ _ _ => rfl)
      · exact fun _ _ => rfl

/-- The verify endpoint: a secret that is refused is an attempt that failed. -/
def ofVerify (urlDecode : UrlDecode) (sodium : Sodium) (secrets : SecretsHelperPtr)
    (email encodedSecret ip userAgent : String) : GatedRequest where
  endpoint := .verify
  secrets := secrets
  email := email
  ip := ip
  body := do
    let success ← Prog.tryCatch
      (do
        verifyPersonEmail urlDecode sodium secrets email encodedSecret
        pure true)
      (fun _ => pure false)
    if success then do
      let personId ← verifiedPersonId email
      AuthEvents.recordEvent .emailVerified personId ip userAgent (attemptDetail email)
      pure (some true)
    else
      pure (some false)
  body_keeps := by
    have hkeeps : forall {a : Type} {p : Sql a}, (forall attempts,
        Prog.Maintains (fun db => db.loginAttempts = attempts) (fun _ => True) p) ->
        forall env db, (p.run env db).2.loginAttempts = db.loginAttempts :=
      fun h env db => (h _).run env rfl
    apply keepsAttempts_bind
    · apply hkeeps
      intro attempts
      apply Prog.Maintains.tryCatch
      · exact (maintains_presentedLink urlDecode sodium secrets
          (fun _ _ _ _ h => h) _ _).bind_any (fun _ => trivial)
      · exact fun _ => trivial
    · intro success
      split
      · apply keepsAttempts_bind
        · apply hkeeps
          intro attempts
          apply Prog.Maintains.tryCatch
          · exact maintains_lookup.bind_any (fun _ => trivial)
          · exact fun _ => trivial
        · exact fun personId => keepsAttempts_bind (fun _ _ => rfl) (fun _ _ _ => rfl)
      · exact fun _ _ => rfl

/--
The remember endpoint, with the two parts of the device cookie if there is one.
`proceed` logs the person of an accepted token in.
-/
def ofRemember (sodium : Sodium) (secrets : SecretsHelperPtr) (secretBytes : Blob)
    (cookie : Option (String × String)) (ip : String) (proceed : DeviceTokenResult -> Sql Bool)
    (hproceed : forall accepted env db,
      ((proceed accepted).run env db).2.loginAttempts = db.loginAttempts) :
    GatedRequest where
  endpoint := .remember
  secrets := secrets
  email := ""
  ip := ip
  body :=
    match cookie with
    | none => pure (some false)
    | some (tokenId, base64EncodedSecret) => do
        let accepted ← tryLoginWithDeviceToken sodium secrets secretBytes tokenId
          base64EncodedSecret
        if accepted.ok then do
          let loggedIn ← proceed accepted
          pure (some loggedIn)
        else
          pure (some false)
  body_keeps := by
    rcases cookie with _ | ⟨tokenId, base64EncodedSecret⟩
    · exact fun _ _ => rfl
    · apply keepsAttempts_bind
      · intro env db
        have heffect := wp_tryLoginWithDeviceToken sodium secrets secretBytes env db tokenId
          base64EncodedSecret
        unfold Prog.wp at heffect
        rcases heffect with ⟨hdb, _⟩ | ⟨_, _, _, _, _, _, _, _, _, hdb, _⟩ <;> rw [hdb]
      · intro accepted
        split
        · exact keepsAttempts_bind (hproceed accepted) (fun _ _ _ => rfl)
        · exact fun _ _ => rfl

def recordedEmail (r : GatedRequest) : String :=
  match r.endpoint with
  | .login => r.email
  | .verify => r.email
  | .remember => ""

def window (r : GatedRequest) (db : AuthDb) : Except Exn Int :=
  match r.endpoint with
  | .login => int64Secret r.secrets db Secrets.kAuthLoginFailureWindowInMicros
      LoginGate.kDefaultLoginFailureWindowMicros
  | .verify => int64Secret r.secrets db Secrets.kAuthVerifyFailureWindowInMicros
      LoginGate.kDefaultVerifyFailureWindowMicros
  | .remember => int64Secret r.secrets db Secrets.kAuthRememberFailureWindowInMicros
      LoginGate.kDefaultRememberFailureWindowMicros

def ipThreshold (r : GatedRequest) (db : AuthDb) : Except Exn Int :=
  match r.endpoint with
  | .login => int64Secret r.secrets db Secrets.kAuthLoginMaxFailuresPerIpPerWindow
      LoginGate.kDefaultLoginMaxFailuresPerIp
  | .verify => int64Secret r.secrets db Secrets.kAuthVerifyMaxFailuresPerIpPerWindow
      LoginGate.kDefaultVerifyMaxFailuresPerIp
  | .remember => int64Secret r.secrets db
      Secrets.kAuthRememberMaxFailuresPerIpPerWindow
      LoginGate.kDefaultRememberMaxFailuresPerIp

def emailThreshold (r : GatedRequest) (db : AuthDb) : Except Exn Int :=
  int64Secret r.secrets db Secrets.kAuthLoginMaxFailuresPerEmailPerWindow
    LoginGate.kDefaultLoginMaxFailuresPerEmail

def Refused (r : GatedRequest) (env : Env) (db : AuthDb) : Prop :=
  (r.gate.run env db).1 ≠ .ok .allow

theorem wp_checkBeforeLogin_ne_allow {secrets : SecretsHelperPtr} {env : Env}
    {db : AuthDb} {email ip : String}
    (hcounts : forall windowMicros emailThreshold ipThreshold,
      int64Secret secrets db Secrets.kAuthLoginFailureWindowInMicros
        LoginGate.kDefaultLoginFailureWindowMicros = .ok windowMicros ->
      int64Secret secrets db Secrets.kAuthLoginMaxFailuresPerEmailPerWindow
        LoginGate.kDefaultLoginMaxFailuresPerEmail = .ok emailThreshold ->
      int64Secret secrets db Secrets.kAuthLoginMaxFailuresPerIpPerWindow
        LoginGate.kDefaultLoginMaxFailuresPerIp = .ok ipThreshold ->
      (email ≠ "" ∧ emailThreshold ≤
          LoginGate.countForEmail db env.now email .login windowMicros) ∨
        (ip ≠ "" ∧ ipThreshold ≤
          LoginGate.countForIp db env.now ip .login windowMicros)) :
    Prog.wp env (LoginGate.checkBeforeLogin secrets email ip)
      (fun outcome _ => outcome ≠ .ok .allow) db := by
  have hchecked : Prog.wp env (LoginGate.checkLoginCounts secrets email ip)
      (fun outcome _ => outcome ≠ .ok .allow) db := by
    apply LoginGate.wp_checkLoginCounts
    · intro err
      simp
    · intro windowMicros emailThreshold ipThreshold hwindow hemail hip
      rcases hcounts windowMicros emailThreshold ipThreshold hwindow hemail hip with
        h | h
      · rw [if_pos h]
        simp
      · rw [if_pos h]
        split <;> simp
  unfold LoginGate.checkBeforeLogin
  split
  · exact hchecked
  · simp only [LoginGate.accountIsLocked, LoginGate.lockInForce, nowUs,
      Prog.bind_eq, Prog.wp_bind, Prog.wp_ask]
    split
    · simp only [Prog.wp_bind, Prog.wp_ask, Prog.pure_eq, Prog.wp_done]
      split
      · simp
      · exact hchecked
    · exact hchecked

theorem refused_of_ip {r : GatedRequest} {env : Env} {db : AuthDb}
    {windowMicros threshold : Int} (hip : r.ip ≠ "")
    (hwindow : r.window db = .ok windowMicros)
    (hthreshold : r.ipThreshold db = .ok threshold)
    (hcount : threshold ≤
      LoginGate.countForIp db env.now r.ip r.endpoint.kind windowMicros) :
    r.Refused env db := by
  have hby : forall windowKey defaultWindow thresholdKey defaultThreshold kind,
      int64Secret r.secrets db windowKey defaultWindow = .ok windowMicros ->
      int64Secret r.secrets db thresholdKey defaultThreshold = .ok threshold ->
      threshold ≤ LoginGate.countForIp db env.now r.ip kind windowMicros ->
      Prog.wp env (LoginGate.checkBeforeByIp r.secrets windowKey defaultWindow
        thresholdKey defaultThreshold kind r.ip)
        (fun outcome _ => outcome ≠ .ok .allow) db := by
    intro windowKey defaultWindow thresholdKey defaultThreshold kind hw ht hle
    apply LoginGate.wp_checkBeforeByIp r.secrets hip
    · intro err
      simp
    · intro w t hw' ht'
      rw [hw] at hw'
      rw [ht] at ht'
      cases hw'
      cases ht'
      simp [hle]
  change Prog.wp env r.gate (fun outcome _ => outcome ≠ .ok .allow) db
  unfold gate
  unfold window at hwindow
  unfold ipThreshold at hthreshold
  cases hendpoint : r.endpoint with
  | login =>
      rw [hendpoint] at hwindow hthreshold hcount
      apply wp_checkBeforeLogin_ne_allow
      intro w e t hw _ ht
      dsimp only at hwindow hthreshold
      rw [hwindow] at hw
      rw [hthreshold] at ht
      cases hw
      cases ht
      exact Or.inr ⟨hip, hcount⟩
  | verify =>
      rw [hendpoint] at hwindow hthreshold hcount
      exact hby _ _ _ _ _ hwindow hthreshold hcount
  | remember =>
      rw [hendpoint] at hwindow hthreshold hcount
      exact hby _ _ _ _ _ hwindow hthreshold hcount

theorem refused_of_email {r : GatedRequest} {env : Env} {db : AuthDb}
    {windowMicros threshold : Int} (hendpoint : r.endpoint = .login)
    (hemail : r.email ≠ "") (hwindow : r.window db = .ok windowMicros)
    (hthreshold : r.emailThreshold db = .ok threshold)
    (hcount : threshold ≤
      LoginGate.countForEmail db env.now r.email .login windowMicros) :
    r.Refused env db := by
  change Prog.wp env r.gate (fun outcome _ => outcome ≠ .ok .allow) db
  unfold gate
  unfold window at hwindow
  unfold emailThreshold at hthreshold
  rw [hendpoint] at hwindow ⊢
  apply wp_checkBeforeLogin_ne_allow
  intro w e t hw he _
  dsimp only at hwindow
  rw [hwindow] at hw
  rw [hthreshold] at he
  cases hw
  cases he
  exact Or.inl ⟨hemail, hcount⟩

end GatedRequest

/-!
# The deployment
-/

/-- The database behind the deployment's own provider, if there is one, and the
database of each tenant. -/
structure Deployment (tenant : Type) where
  globalDatabase : Option String
  tenantDatabase : tenant -> String

structure RecordJob (tenant : Type) where
  tenant : tenant
  database : String
  emailLower : String
  ip : String
  kind : AttemptKind
  success : Bool

structure RateState (tenant : Type) where
  databases : String -> AuthDb
  jobs : List (RecordJob tenant)
  recorded : List (tenant × LoginAttempt)

inductive RateEvent (tenant : Type) where
  | request (t : tenant) (env : Env) (r : GatedRequest)
  | runJob (index : Nat) (env : Env)

namespace RateState

variable {tenant : Type} [DecidableEq tenant] (d : Deployment tenant)

/-- `Enqueue*Attempt`: the job takes the deployment's provider, not the
request's. -/
def enqueue (s : RateState tenant) (t : tenant) (r : GatedRequest)
    (success : Bool) : RateState tenant :=
  match d.globalDatabase with
  | none => s
  | some database =>
      { s with jobs := s.jobs ++ [
          { tenant := t, database := database, emailLower := r.recordedEmail
            ip := r.ip, kind := r.endpoint.kind, success := success }] }

def serve (s : RateState tenant) (t : tenant) (env : Env) (r : GatedRequest) :
    RateState tenant :=
  let (outcome, db) :=
    Prog.transact env r.program (s.databases (d.tenantDatabase t))
  let s' := { s with
    databases := Function.update s.databases (d.tenantDatabase t) db }
  match outcome with
  | .ok (some success) => s'.enqueue d t r success
  | _ => s'

/-- A worker takes a job from anywhere in the queue; a failing insert is
swallowed. -/
def work (s : RateState tenant) (index : Nat) (env : Env) : RateState tenant :=
  match s.jobs[index]? with
  | none => s
  | some job =>
      let db := s.databases job.database
      match Prog.transact env (LoginAttempts.recordAttempt job.emailLower job.ip
          job.kind job.success) db with
      | (.ok _, db') =>
          { databases := Function.update s.databases job.database db'
            jobs := s.jobs.eraseIdx index
            recorded := s.recorded ++ [(job.tenant, LoginAttempts.attemptRow env
              job.emailLower job.ip job.kind job.success
              db.loginAttempts.nextId)] }
      | (.error _, _) => { s with jobs := s.jobs.eraseIdx index }

def step (s : RateState tenant) : RateEvent tenant -> RateState tenant
  | .request t env r => s.serve d t env r
  | .runJob index env => s.work index env

def recordedOf (s : RateState tenant) (t : tenant) : List LoginAttempt :=
  (s.recorded.filter (fun entry => entry.1 = t)).map Prod.snd

/-- The failures of a tenant's requests that were recorded inside the window. -/
def recordedForIp (s : RateState tenant) (t : tenant) (now : Nat) (ip : String)
    (kind : AttemptKind) (windowMicros : Int) : Int :=
  if windowMicros ≤ 0 then 0
  else (s.recordedOf t).countP (fun a =>
    a.ip == ip && LoginAttempts.RecentFailure now windowMicros kind a)

def recordedForEmail (s : RateState tenant) (t : tenant) (now : Nat)
    (email : String) (kind : AttemptKind) (windowMicros : Int) : Int :=
  if windowMicros ≤ 0 then 0
  else (s.recordedOf t).countP (fun a =>
    sameEmail a.emailLower email &&
      LoginAttempts.RecentFailure now windowMicros kind a)

/-- Enough recorded failures for a key refuse the tenant's next request. -/
structure Effective (s : RateState tenant) (t : tenant) (env : Env)
    (r : GatedRequest) : Prop where
  byIp : forall windowMicros threshold, r.ip ≠ "" ->
    r.window (s.databases (d.tenantDatabase t)) = .ok windowMicros ->
    r.ipThreshold (s.databases (d.tenantDatabase t)) = .ok threshold ->
    threshold ≤ s.recordedForIp t env.now r.ip r.endpoint.kind windowMicros ->
    r.Refused env (s.databases (d.tenantDatabase t))
  byEmail : forall windowMicros threshold, r.endpoint = .login -> r.email ≠ "" ->
    r.window (s.databases (d.tenantDatabase t)) = .ok windowMicros ->
    r.emailThreshold (s.databases (d.tenantDatabase t)) = .ok threshold ->
    threshold ≤ s.recordedForEmail t env.now r.email .login windowMicros ->
    r.Refused env (s.databases (d.tenantDatabase t))

structure RateLimitLaw (t : tenant) (s : RateState tenant)
    (events : List (RateEvent tenant)) : Prop where
  effective : Along (step d) (fun s e => forall env r, e = .request t env r ->
    Effective d s t env r) s events
  sameDatabase : Along (step d) (fun s e => forall index env job,
    e = .runJob index env -> s.jobs[index]? = some job -> job.tenant = t ->
    job.database = d.tenantDatabase t) s events

def Fresh (s : RateState tenant) : Prop := s.jobs = [] ∧ s.recorded = []

/-!
# When the recorder and the gate meet
-/

/-- The tenant's database is the one that the recorder writes to, or nothing is
recorded at all. -/
def RecordsReachGate (t : tenant) : Prop :=
  d.globalDatabase = none ∨ d.globalDatabase = some (d.tenantDatabase t)

/-- Every recorded row of the tenant is in the tenant's table, in order, and no
job of the tenant goes elsewhere. -/
structure RecordInv (t : tenant) (s : RateState tenant) : Prop where
  rows : (s.recordedOf t).Sublist
    (s.databases (d.tenantDatabase t)).loginAttempts.rows
  jobs : forall job, job ∈ s.jobs -> job.tenant = t ->
    job.database = d.tenantDatabase t

section Invariant

variable {d : Deployment tenant} {t : tenant} {s : RateState tenant}

theorem recordInv_fresh (hfresh : Fresh s) : RecordInv d t s where
  rows := by
    simp [recordedOf, hfresh.2]
  jobs := by
    intro job hmem
    rw [hfresh.1] at hmem
    cases hmem

theorem readOnly_gate (r : GatedRequest) : Prog.ReadOnly r.gate := by
  unfold GatedRequest.gate
  split
  · exact LoginGate.readOnly_checkBeforeLogin r.secrets r.email r.ip
  · exact LoginGate.readOnly_checkBeforeByIp r.secrets _ _ _ _ _ r.ip
  · exact LoginGate.readOnly_checkBeforeByIp r.secrets _ _ _ _ _ r.ip

theorem transact_keeps_attempts (env : Env) (r : GatedRequest) (db : AuthDb) :
    (Prog.transact env r.program db).2.loginAttempts = db.loginAttempts := by
  have hwp : Prog.wp env r.program
      (fun _ db' => db'.loginAttempts = db.loginAttempts) db := by
    apply GatedRequest.keepsAttempts_bind
    · intro env db
      rw [(readOnly_gate r).run_store]
    · intro result
      split
      · exact r.body_keeps
      · exact fun _ _ => rfl
  exact Prog.transact_of_wp hwp (fun _ _ _ => rfl)

omit [DecidableEq tenant] in
theorem serve_rows (u : tenant) (env : Env) (r : GatedRequest) (database : String) :
    ((s.serve d u env r).databases database).loginAttempts =
      (s.databases database).loginAttempts := by
  have hkeeps := transact_keeps_attempts env r (s.databases (d.tenantDatabase u))
  have hupdate : forall db, db.loginAttempts =
      (s.databases (d.tenantDatabase u)).loginAttempts ->
      (Function.update s.databases (d.tenantDatabase u) db database).loginAttempts =
        (s.databases database).loginAttempts := by
    intro db hdb
    by_cases hsame : database = d.tenantDatabase u
    · rw [hsame, Function.update_self, hdb]
    · rw [Function.update_of_ne hsame]
  unfold serve
  rcases htransact : Prog.transact env r.program
    (s.databases (d.tenantDatabase u)) with ⟨outcome, db⟩
  rw [htransact] at hkeeps
  dsimp only
  split
  · unfold enqueue
    split <;> exact hupdate db hkeeps
  · exact hupdate db hkeeps

omit [DecidableEq tenant] in
theorem serve_jobs (u : tenant) (env : Env) (r : GatedRequest) :
    (s.serve d u env r).recorded = s.recorded ∧
      forall job, job ∈ (s.serve d u env r).jobs ->
        job ∈ s.jobs ∨ (job.tenant = u ∧ d.globalDatabase = some job.database) := by
  unfold serve
  rcases Prog.transact env r.program (s.databases (d.tenantDatabase u)) with
    ⟨outcome, db⟩
  dsimp only
  split
  · unfold enqueue
    split
    · exact ⟨rfl, fun job hjob => Or.inl hjob⟩
    · rename_i database hglobal
      refine ⟨rfl, ?_⟩
      intro job hjob
      rcases List.mem_append.mp hjob with hjob | hjob
      · exact Or.inl hjob
      · rw [List.mem_singleton] at hjob
        rw [hjob]
        exact Or.inr ⟨rfl, hglobal⟩
  · exact ⟨rfl, fun job hjob => Or.inl hjob⟩

theorem RecordInv.serve (hreach : RecordsReachGate d t) (hinv : RecordInv d t s)
    (u : tenant) (env : Env) (r : GatedRequest) :
    RecordInv d t (s.serve d u env r) := by
  rcases serve_jobs (d := d) (s := s) u env r with ⟨hrecorded, hjobs⟩
  constructor
  · rw [serve_rows, recordedOf, hrecorded]
    exact hinv.rows
  · intro job hmem htenant
    rcases hjobs job hmem with hold | ⟨_, hglobal⟩
    · exact hinv.jobs job hold htenant
    · rcases hreach with hnone | hsome
      · rw [hnone] at hglobal
        cases hglobal
      · rw [hsome] at hglobal
        exact (Option.some.inj hglobal).symm

omit [DecidableEq tenant] in
/-- What a worker does: the job disappears, and its row is at the end of the
table of the job's database, or nothing is written. -/
theorem work_cases (s : RateState tenant) (index : Nat) (env : Env) :
    s.work index env = s ∨
    (exists job, s.jobs[index]? = some job ∧
      s.work index env = { s with jobs := s.jobs.eraseIdx index }) ∨
    (exists job row db, s.jobs[index]? = some job ∧
      db.loginAttempts.rows =
        (s.databases job.database).loginAttempts.rows ++ [row] ∧
      s.work index env =
        { databases := Function.update s.databases job.database db
          jobs := s.jobs.eraseIdx index
          recorded := s.recorded ++ [(job.tenant, row)] }) := by
  unfold work
  cases hjob : s.jobs[index]? with
  | none => exact Or.inl rfl
  | some job =>
      refine Or.inr ?_
      have hwp : Prog.wp env (LoginAttempts.recordAttempt job.emailLower job.ip
          job.kind job.success)
          (fun outcome db => outcome = .ok () ->
            db.loginAttempts.rows =
              (s.databases job.database).loginAttempts.rows ++
                [LoginAttempts.attemptRow env job.emailLower job.ip job.kind
                  job.success (s.databases job.database).loginAttempts.nextId])
          (s.databases job.database) := by
        apply LoginAttempts.wp_recordAttempt
        · intro err h
          cases h
        · intro table htable _
          exact htable
      have hrows := Prog.transact_of_wp hwp (fun _ _ _ h => absurd h (by simp))
      dsimp only
      split
      · rename_i value db htransact
        rw [htransact] at hrows
        exact Or.inr ⟨job, _, db, rfl, hrows rfl, rfl⟩
      · exact Or.inl ⟨job, rfl, rfl⟩

theorem RecordInv.work (hinv : RecordInv d t s) (index : Nat) (env : Env) :
    RecordInv d t (s.work index env) := by
  have herase : forall job, job ∈ s.jobs.eraseIdx index -> job.tenant = t ->
      job.database = d.tenantDatabase t :=
    fun job hmem => hinv.jobs job (List.mem_of_mem_eraseIdx hmem)
  rcases work_cases s index env with hsame | ⟨job, hjob, hwork⟩ |
    ⟨job, row, db, hjob, hrows, hwork⟩
  · rw [hsame]
    exact hinv
  · rw [hwork]
    exact { rows := hinv.rows, jobs := herase }
  · rw [hwork]
    refine { rows := ?_, jobs := herase }
    have hrecorded : recordedOf
        { databases := Function.update s.databases job.database db
          jobs := s.jobs.eraseIdx index
          recorded := s.recorded ++ [(job.tenant, row)] } t =
        s.recordedOf t ++ (if job.tenant = t then [row] else []) := by
      by_cases htenant : job.tenant = t <;>
        simp [recordedOf, List.filter_append, htenant]
    rw [hrecorded]
    dsimp only
    by_cases hdatabase : job.database = d.tenantDatabase t
    · rw [hdatabase, Function.update_self, hrows, hdatabase]
      apply List.Sublist.append hinv.rows
      split
      · exact List.Sublist.refl _
      · exact List.nil_sublist _
    · -- a job of the tenant goes to the tenant's database, so this one is not
      have htenant : job.tenant ≠ t := fun htenant =>
        hdatabase (hinv.jobs job (List.mem_of_getElem? hjob) htenant)
      rw [Function.update_of_ne (fun h => hdatabase h.symm), if_neg htenant,
        List.append_nil]
      exact hinv.rows

theorem recordInv_after (hreach : RecordsReachGate d t) (hfresh : Fresh s)
    (events : List (RateEvent tenant)) : RecordInv d t (after (step d) s events) := by
  apply invariant_run (recordInv_fresh hfresh)
  intro s e hinv
  cases e with
  | request u env r => exact hinv.serve hreach u env r
  | runJob index env => exact hinv.work index env

theorem recordedForIp_le (hinv : RecordInv d t s) (now : Nat) (ip : String)
    (kind : AttemptKind) (windowMicros : Int) :
    s.recordedForIp t now ip kind windowMicros ≤
      LoginGate.countForIp (s.databases (d.tenantDatabase t)) now ip kind
        windowMicros := by
  unfold recordedForIp LoginGate.countForIp
  split
  · exact Int.le_refl 0
  · exact Int.ofNat_le.mpr (hinv.rows.countP_le)

theorem recordedForEmail_le (hinv : RecordInv d t s) (now : Nat) (email : String)
    (kind : AttemptKind) (windowMicros : Int) :
    s.recordedForEmail t now email kind windowMicros ≤
      LoginGate.countForEmail (s.databases (d.tenantDatabase t)) now email kind
        windowMicros := by
  unfold recordedForEmail LoginGate.countForEmail
  split
  · exact Int.le_refl 0
  · exact Int.ofNat_le.mpr (hinv.rows.countP_le)

theorem rateLimitLaw_of_reach (hreach : RecordsReachGate d t) (hfresh : Fresh s)
    (events : List (RateEvent tenant)) : RateLimitLaw d t s events := by
  constructor
  · intro pre e post _ env r _
    have hinv := recordInv_after hreach hfresh pre
    constructor
    · intro windowMicros threshold hip hwindow hthreshold hcount
      exact GatedRequest.refused_of_ip hip hwindow hthreshold
        (Int.le_trans hcount (recordedForIp_le hinv _ _ _ _))
    · intro windowMicros threshold hendpoint hemail hwindow hthreshold hcount
      exact GatedRequest.refused_of_email hendpoint hemail hwindow hthreshold
        (Int.le_trans hcount (recordedForEmail_le hinv _ _ _ _))
  · intro pre e post _ index env job _ hjob htenant
    have hinv := recordInv_after hreach hfresh pre
    exact hinv.jobs job (List.mem_of_getElem? hjob) htenant

end Invariant

/-!
# When they do not meet

One failed login with a threshold of one failure, and the next login of the same
client once the job has run.
-/

section Unreached

variable {d : Deployment tenant} {t : tenant}

def emptyState : RateState tenant where
  databases := fun _ => AuthDb.empty
  jobs := []
  recorded := []

def strictSecrets : SecretsHelperPtr :=
  some (SecretsHelper.ofSettings
    [(Secrets.kAuthLoginMaxFailuresPerIpPerWindow, "1")])

def failedLogin : GatedRequest :=
  GatedRequest.ofLogin Sodium.plain strictSecrets "ann@example.com" "guess"
    "192.0.2.1" (pure true) (fun _ _ => rfl)

def env0 : Env := Env.ofClock 1000 ""

def failedLoginJob (t : tenant) (database : String) : RecordJob tenant where
  tenant := t
  database := database
  emailLower := "ann@example.com"
  ip := "192.0.2.1"
  kind := .login
  success := false

theorem rateLimitLaw_fails_of_unreached {database : String}
    (hglobal : d.globalDatabase = some database)
    (hother : database ≠ d.tenantDatabase t) :
    Not (RateLimitLaw d t emptyState
      [.request t env0 failedLogin, .runJob 0 env0, .request t env0 failedLogin]) := by
  intro hlaw
  have hserve : step d emptyState (.request t env0 failedLogin) =
      { emptyState with jobs := [failedLoginJob t database] } := by
    have hrun : Prog.transact env0 failedLogin.program AuthDb.empty =
        (.ok (some false), AuthDb.empty) := by
      rfl
    simp only [step, serve, emptyState, hrun, enqueue, hglobal, List.nil_append]
    simp [failedLoginJob, failedLogin, GatedRequest.ofLogin,
      GatedRequest.recordedEmail, GatedEndpoint.kind]
  have heffective := hlaw.effective
    [.request t env0 failedLogin, .runJob 0 env0] _ [] rfl env0 failedLogin rfl
  simp only [after_cons, after_nil, hserve] at heffective
  generalize hs : step d { emptyState with jobs := [failedLoginJob t database] }
    (.runJob 0 env0) = s at heffective
  have hrecorded : s.recorded = [(t, LoginAttempts.attemptRow env0 "ann@example.com"
      "192.0.2.1" .login false 1)] := by
    rw [← hs]
    rfl
  have hdatabase : s.databases (d.tenantDatabase t) = AuthDb.empty := by
    have hne : d.tenantDatabase t ≠ database := fun h => hother h.symm
    have hupdate : s.databases = Function.update (fun _ => AuthDb.empty) database
        (s.databases database) := by
      rw [← hs]
      exact (Function.update_eq_iff.mpr ⟨rfl, fun other hne =>
        (Function.update_of_ne hne _ _).symm⟩).symm
    rw [hupdate, Function.update_of_ne hne]
  have hcount : (1 : Int) ≤ s.recordedForIp t env0.now failedLogin.ip
      failedLogin.endpoint.kind LoginGate.kDefaultLoginFailureWindowMicros := by
    simp only [recordedForIp, recordedOf, hrecorded, List.filter_cons, List.filter_nil,
      decide_true, if_true, List.map_cons, List.map_nil]
    exact Int.le_refl 1
  have hrefused := heffective.byIp LoginGate.kDefaultLoginFailureWindowMicros 1
    (fun h => absurd h (by decide : "192.0.2.1" ≠ "")) (by rw [hdatabase]; rfl)
    (by rw [hdatabase]; rfl) hcount
  rw [hdatabase] at hrefused
  exact hrefused rfl

end Unreached

/-- The rate limit works for a tenant in every run, exactly when the records
reach the database of its gate. -/
theorem rateLimit (d : Deployment tenant) (t : tenant) :
    (forall s events, Fresh s -> RateLimitLaw d t s events) <->
      RecordsReachGate d t := by
  constructor
  · intro hlaw
    unfold RecordsReachGate
    cases hglobal : d.globalDatabase with
    | none => exact Or.inl rfl
    | some database =>
        right
        by_contra hother
        exact rateLimitLaw_fails_of_unreached hglobal
          (fun hsame => hother (congrArg some hsame)) (hlaw _ _ ⟨rfl, rfl⟩)
  · intro hreach s events hfresh
    exact rateLimitLaw_of_reach hreach hfresh events

end RateState

end RateLimit

section ControlMode

attribute [local instance] Citext.plain

def controlDeployment : Deployment String where
  globalDatabase := some "control"
  tenantDatabase := fun siteKey => "tenant_" ++ siteKey

/-- Behind a control database the recorded failures refuse nobody. -/
theorem rateLimitLaw_fails :
    Not (forall s events, RateState.Fresh s ->
      RateState.RateLimitLaw controlDeployment "acme" s events) := by
  intro hlaw
  have hother : "control" ≠ controlDeployment.tenantDatabase "acme" := by
    decide
  exact RateState.rateLimitLaw_fails_of_unreached rfl hother (hlaw _ _ ⟨rfl, rfl⟩)

end ControlMode

end Auth
end ServerComponents
