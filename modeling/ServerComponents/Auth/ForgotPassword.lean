import ServerComponents.Auth.AccountEndpoints
import ServerComponents.Statements.Alike

/-!
# What forgotten passwords reveal

Two runs of the same `POST /api/forgot_password` requests, over databases that agree on
the recorded attempts.  The second half of a request reads settings that the first half
does not, and a setting that cannot be read turns the answer into an error.
-/

namespace ServerComponents
namespace Auth

open Relational Statements Rest PasswordResetHelper

structure ForgotRequest [Citext] where
  env : Env
  recordEnv : Env
  secrets : SecretsHelperPtr
  mail : Bool
  secretBytes : Blob
  body : Option (Except Exn Json)
  ip : String
  userAgent : String

section Handler

variable [Citext] (sodium : Sodium)

namespace ForgotRequest

def program (r : ForgotRequest) (message : Json) : Sql EndpointReply :=
  forgotPassword sodium r.secrets r.mail r.secretBytes message r.ip r.userAgent

/-- The handler of the route; the queued attempt is written after the answer. -/
def handlePost (db : AuthDb) (r : ForgotRequest) : Response × AuthDb :=
  match r.body with
  | none => (ErrorResponse.badRequest "Request body required", db)
  | some (.error _) => (ErrorResponse.internalError, db)
  | some (.ok message) =>
      match Prog.transact r.env (r.program sodium message) db with
      | (.error _, db') => (ErrorResponse.internalError, db')
      | (.ok reply, db') =>
          match reply.queued with
          | none => (reply.response, db')
          | some attempt => (reply.response, (Prog.transact r.recordEnv attempt.record db').2)

def perform (db : AuthDb) (r : ForgotRequest) : AuthDb := (r.handlePost sodium db).2

def answer (db : AuthDb) (r : ForgotRequest) : Response := (r.handlePost sodium db).1

def email? (r : ForgotRequest) : Option String :=
  match r.body with
  | some (.ok message) => requiredText message "email"
  | _ => none

def Passes (db : AuthDb) (r : ForgotRequest) (email : String) : Prop :=
  ((LoginGate.checkBeforeForgotPassword r.secrets email r.ip).run r.env db).1 = .ok .allow

def NoDatabaseFailure (db : AuthDb) (r : ForgotRequest) : Prop :=
  forall message err, r.body = some (.ok message) ->
    (Prog.transact r.env (r.program sodium message) db).1 ≠ .error (.sql err)

end ForgotRequest

def mailSettings : List String :=
  [Secrets.kWebsitePasswordResetLink, Secrets.kMailSenderName, Secrets.kMailSenderAddress,
    Secrets.kWebsiteAddressLogin]

def MailSettingsReadable (secrets : SecretsHelperPtr) (db : AuthDb) : Prop :=
  forall helper name, secrets = some helper -> name ∈ mailSettings ->
    exists value, helper.lookupSecret db name = .ok value

/-!
# The outcomes of a request
-/

section Outcomes

variable {sodium} {env : Env} {db : AuthDb} {secrets : SecretsHelperPtr}

theorem wp_lookupTtlMinutes {helper : SecretsHelper} {post : Except Exn Int -> AuthDb -> Prop}
    (hok : forall minutes, post (.ok minutes) db) :
    Prog.wp env (lookupTtlMinutes helper) post db := by
  simp only [lookupTtlMinutes, lookupSecret, Prog.bind_eq, Prog.wp_tryCatch, Prog.wp_bind,
    Prog.wp_ask]
  cases helper.lookupSecret db Secrets.kAuthPasswordResetTtlMinutes with
  | error err => exact hok _
  | ok text =>
      simp only [Prog.wp_ofExcept]
      cases stoll text with
      | error err => exact hok _
      | ok minutes => exact hok _

/-- A reset of a known person succeeds when the settings can be read, and the database
does not fail. -/
theorem wp_requestReset_known {mail : Bool} {secretBytes : Blob} {email : String} {p : Person}
    {post : Except Exn ResetRequested -> AuthDb -> Prop} (hsettings : SettingsElsewhere secrets)
    (hsome : secrets.isSome = true) (hp : People.personByEmail db email = some p)
    (hsql : forall err db', post (.error (.sql err)) db')
    (hunreadable : Not (MailSettingsReadable secrets db) ->
      forall err db', post (.error err) db')
    (hok : MailSettingsReadable secrets db -> forall requested db',
      db'.loginAttempts = db.loginAttempts -> post (.ok requested) db') :
    Prog.wp env (requestReset sodium secrets mail secretBytes email) post db := by
  cases secrets with
  | none => cases hsome
  | some helper =>
      have hread : forall tokens name,
          helper.lookupSecret { db with passwordResetTokens := tokens } name =
            helper.lookupSecret db name :=
        fun tokens name => hsettings helper rfl _ db name
      have hnot : forall name err, name ∈ mailSettings ->
          helper.lookupSecret db name = .error err ->
          Not (MailSettingsReadable (some helper) db) := by
        intro name err hname herror hreadable
        rcases hreadable helper name rfl hname with ⟨value, hvalue⟩
        rw [herror] at hvalue
        cases hvalue
      simp only [requestReset, People.lookupPersonByEmail, Prog.bind_eq, Prog.wp_bind,
        Prog.wp_ask, hp]
      apply wp_lookupTtlMinutes
      intro minutes
      simp only [nowUs, PasswordResetTokens.replaceForPerson, PasswordResetTokens.deleteForPerson,
        PasswordResetTokens.insertToken, Prog.bind_eq, Prog.wp_bind, Prog.wp_ask]
      rw [Prog.wp_exec]
      dsimp only
      rw [Prog.wp_exec]
      cases hinsert : orUniqueViolation
          ((db.passwordResetTokens.delete (fun r => r.personId == p.id)).insert? (fun id =>
            { id := id, personId := p.id, tokenHash := sodium.hashBinary secretBytes
              expiresAt := addInt64 env.now (mulInt64 minutes kMinuteUs), attempts := 0
              createdAt := env.now })) with
      | error err =>
          have herr : err = .sql .uniqueViolation := by
            unfold orUniqueViolation at hinsert
            split at hinsert <;> cases hinsert
            rfl
          simp only [bind, Except.bind]
          rw [herr]
          exact hsql _ _
      | ok inserted =>
          simp only [bind, Except.bind, pure, Except.pure, loadTenantBranding,
            loadSenderAddress, lookupSecret, Prog.wp_bind, Prog.wp_ask, hread]
          cases hlink : helper.lookupSecret db Secrets.kWebsitePasswordResetLink with
          | error err => exact hunreadable (hnot _ err (by simp [mailSettings]) hlink) _ _
          | ok link =>
          cases hname : helper.lookupSecret db Secrets.kMailSenderName with
          | error err => exact hunreadable (hnot _ err (by simp [mailSettings]) hname) _ _
          | ok name =>
          cases haddress : helper.lookupSecret db Secrets.kMailSenderAddress with
          | error err => exact hunreadable (hnot _ err (by simp [mailSettings]) haddress) _ _
          | ok address =>
          cases hwebsite : helper.lookupSecret db Secrets.kWebsiteAddressLogin with
          | error err => exact hunreadable (hnot _ err (by simp [mailSettings]) hwebsite) _ _
          | ok website =>
              -- the name and the address are read once more for the sender
              simp only [Prog.wp_done, hread, hname, haddress]
              apply hok
              · intro helper' name' hhelper hmem
                cases hhelper
                simp only [mailSettings, List.mem_cons, List.not_mem_nil, or_false] at hmem
                rcases hmem with h | h | h | h
                · exact ⟨link, by rw [h, hlink]⟩
                · exact ⟨name, by rw [h, hname]⟩
                · exact ⟨address, by rw [h, haddress]⟩
                · exact ⟨website, by rw [h, hwebsite]⟩
              · rfl

theorem readsKey_lookupInt64Secret (hsettings : SettingsElsewhere secrets) (key : String)
    (fallback : Int) :
    Prog.ReadsKey (fun db : AuthDb => db.loginAttempts)
      (lookupInt64Secret secrets key fallback) := by
  cases secrets with
  | none => exact trivial
  | some helper =>
      apply Prog.ReadsKey.bind
      · exact Prog.readsKey_ask (fun _ db db' _ => hsettings helper rfl db db' _)
      · exact fun _ => trivial

theorem readsKey_count (test : Env -> LoginAttempt -> Bool) (windowMicros : Int) :
    Prog.ReadsKey (fun db : AuthDb => db.loginAttempts)
      (if windowMicros ≤ 0 then pure 0
        else Prog.ask (fun env db =>
          .ok ((db.loginAttempts.rows.countP (test env) : Nat) : Int)) : Sql Int) := by
  split
  · exact trivial
  · apply Prog.readsKey_ask
    intro env db db' h
    have hrows : db.loginAttempts = db'.loginAttempts := h
    rw [hrows]

theorem readsKey_checkBeforeForgotPassword (hsettings : SettingsElsewhere secrets)
    (email ip : String) :
    Prog.ReadsKey (fun db : AuthDb => db.loginAttempts)
      (LoginGate.checkBeforeForgotPassword secrets email ip) := by
  apply Prog.ReadsKey.bind (readsKey_lookupInt64Secret hsettings _ _)
  intro windowMicros
  apply Prog.ReadsKey.bind (readsKey_lookupInt64Secret hsettings _ _)
  intro emailThreshold
  apply Prog.ReadsKey.bind (readsKey_lookupInt64Secret hsettings _ _)
  intro ipThreshold
  have hip : forall emailRefused : Bool,
      Prog.ReadsKey (fun db : AuthDb => db.loginAttempts)
        (if emailRefused then pure .rateLimitedEmail
          else if ip = "" then pure .allow
          else do
            let ipRequests ← LoginAttempts.recentAttemptCountForIp ip .passwordResetRequest
              windowMicros
            if ipThreshold ≤ ipRequests then pure .rateLimitedIp else pure .allow :
          Sql LoginGateResult) := by
    intro emailRefused
    split
    · exact trivial
    split
    · exact trivial
    · apply Prog.ReadsKey.bind (readsKey_count _ _)
      intro ipRequests
      split <;> exact trivial
  dsimp only
  split
  · exact hip false
  · apply Prog.ReadsKey.bind (readsKey_count _ _)
    intro emailRequests
    exact hip _

end Outcomes

namespace ForgotRequest

variable {sodium} {db db' : AuthDb} {r : ForgotRequest} {message : Json} {email : String}

def Known (db : AuthDb) (email : String) : Prop :=
  (People.personByEmail db email).isSome = true

def Breaks (db : AuthDb) (r : ForgotRequest) (email : String) : Prop :=
  r.secrets = none ∨ (Known db email ∧ Not (MailSettingsReadable r.secrets db))

def attempt (r : ForgotRequest) (email : String) : QueuedAttempt where
  emailLower := email
  ip := r.ip
  kind := .passwordResetRequest
  success := true

theorem wp_secondHalf (hsettings : SettingsElsewhere r.secrets)
    {post : Except Exn ResetRequested -> AuthDb -> Prop}
    (hsql : forall err db', post (.error (.sql err)) db')
    (hbreaks : r.Breaks db email -> forall err db', post (.error err) db')
    (hok : Not (r.Breaks db email) -> forall requested db',
      db'.loginAttempts = db.loginAttempts -> post (.ok requested) db') :
    Prog.wp r.env (requestReset sodium r.secrets r.mail r.secretBytes email) post db := by
  cases hsecrets : r.secrets with
  | none => exact hbreaks (Or.inl hsecrets) _ _
  | some helper =>
      cases hp : People.personByEmail db email with
      | none =>
          simp only [requestReset, People.lookupPersonByEmail, Prog.bind_eq, Prog.wp_bind,
            Prog.wp_ask, hp]
          apply hok _ _ _ rfl
          intro hbreaks'
          rcases hbreaks' with hnone | ⟨hknown, _⟩
          · rw [hsecrets] at hnone
            cases hnone
          · rw [Known, hp] at hknown
            cases hknown
      | some p =>
          have hknown : Known db email := by
            rw [Known, hp]
            rfl
          rw [hsecrets] at hsettings
          apply wp_requestReset_known hsettings rfl hp hsql
          · intro hunreadable
            apply hbreaks
            right
            rw [hsecrets]
            exact ⟨hknown, hunreadable⟩
          · intro hreadable
            apply hok
            intro hbreaks'
            rcases hbreaks' with hnone | ⟨_, hunreadable⟩
            · rw [hsecrets] at hnone
              cases hnone
            · rw [hsecrets] at hunreadable
              exact hunreadable hreadable

theorem wp_program_passes (hsettings : SettingsElsewhere r.secrets)
    (hemail : requiredText message "email" = some email) (hpasses : r.Passes db email)
    {post : Except Exn EndpointReply -> AuthDb -> Prop}
    (hsql : forall err db', post (.error (.sql err)) db')
    (hbreaks : r.Breaks db email -> forall err db', post (.error err) db')
    (hok : Not (r.Breaks db email) -> forall db', db'.loginAttempts = db.loginAttempts ->
      post (.ok ⟨Response.ofStatus 200, some (r.attempt email)⟩) db') :
    Prog.wp r.env (r.program sodium message) post db := by
  have hgate := readsKey_checkBeforeForgotPassword hsettings email r.ip
  unfold program forgotPassword
  rw [hemail]
  apply hgate.wp_bind
  · intro err herr
    rw [hpasses] at herr
    cases herr
  intro gate hallow
  rw [hpasses] at hallow
  cases hallow
  dsimp only
  rw [if_neg (by simp)]
  apply Prog.wp_bind.mpr
  apply wp_secondHalf hsettings hsql hbreaks
  intro hanswers requested db' hattempts
  dsimp only
  split
  · simp only [AuthEvents.recordEvent, Prog.bind_eq, Prog.wp_bind]
    rw [Prog.wp_exec]
    exact hok hanswers _ hattempts
  · exact hok hanswers _ hattempts

theorem handlePost_passes (hsettings : SettingsElsewhere r.secrets)
    (hno : r.NoDatabaseFailure sodium db) (hemail : r.email? = some email)
    (hpasses : r.Passes db email) :
    (r.Breaks db email ∧ r.handlePost sodium db = (ErrorResponse.internalError, db)) ∨
      (Not (r.Breaks db email) ∧ exists db', db'.loginAttempts = db.loginAttempts ∧
        r.handlePost sodium db =
          (Response.ofStatus 200, (Prog.transact r.recordEnv (r.attempt email).record db').2)) := by
  cases hbody : r.body with
  | none =>
      rw [email?, hbody] at hemail
      cases hemail
  | some parsed =>
  cases parsed with
  | error err =>
      rw [email?, hbody] at hemail
      cases hemail
  | ok message =>
      rw [email?, hbody] at hemail
      have hwp : Prog.wp r.env (r.program sodium message) (fun outcome db' =>
          match outcome with
          | .ok reply => Not (r.Breaks db email) ∧ db'.loginAttempts = db.loginAttempts ∧
              reply = ⟨Response.ofStatus 200, some (r.attempt email)⟩
          | .error err => r.Breaks db email ∨ exists what, err = .sql what) db := by
        apply wp_program_passes hsettings hemail hpasses
        · exact fun err _ => Or.inr ⟨err, rfl⟩
        · exact fun hbreaks _ _ => Or.inl hbreaks
        · exact fun hanswers db' hattempts => ⟨hanswers, hattempts, rfl⟩
      have hno' := hno message
      unfold handlePost
      rw [hbody]
      unfold Prog.wp at hwp
      unfold Prog.transact at hno' ⊢
      dsimp only
      rcases hrun : (r.program sodium message).run r.env db with ⟨outcome, db'⟩
      rw [hrun] at hwp hno'
      cases outcome with
      | error err =>
          left
          rcases hwp with hbreaks | ⟨what, herr⟩
          · exact ⟨hbreaks, rfl⟩
          · exact absurd (by rw [herr]) (hno' what hbody)
      | ok reply =>
          rcases hwp with ⟨hanswers, hattempts, hreply⟩
          right
          refine ⟨hanswers, db', hattempts, ?_⟩
          rw [hreply]

def stopped (outcome : Except Exn LoginGateResult) : Except Exn EndpointReply :=
  match outcome with
  | .error err => .error err
  | .ok _ => .ok (.ofResponse ErrorResponse.tooManyAttempts)

theorem run_stopped (hsettings : SettingsElsewhere r.secrets)
    (hemail : requiredText message "email" = some email) (hstop : Not (r.Passes db email)) :
    (r.program sodium message).run r.env db =
      (stopped ((LoginGate.checkBeforeForgotPassword r.secrets email r.ip).run r.env db).1,
        db) := by
  have hgate := readsKey_checkBeforeForgotPassword hsettings email r.ip
  have hwp : Prog.wp r.env (r.program sodium message) (fun outcome db' =>
      outcome = stopped
          ((LoginGate.checkBeforeForgotPassword r.secrets email r.ip).run r.env db).1 ∧
        db' = db) db := by
    unfold program forgotPassword
    rw [hemail]
    apply hgate.wp_bind
    · intro err herr
      rw [herr]
      exact ⟨rfl, rfl⟩
    · intro gate hok
      have hrefused : gate ≠ .allow := by
        intro hallow
        rw [hallow] at hok
        exact hstop hok
      dsimp only
      rw [if_pos hrefused, hok]
      exact ⟨rfl, rfl⟩
  exact Prod.ext hwp.1 hwp.2

theorem handlePost_stops (hsettings : SettingsElsewhere r.secrets)
    (h : db.loginAttempts = db'.loginAttempts)
    (hstop : forall email, r.email? = some email -> Not (r.Passes db email)) :
    exists response, r.handlePost sodium db = (response, db) ∧
      r.handlePost sodium db' = (response, db') := by
  unfold handlePost
  cases hbody : r.body with
  | none => exact ⟨_, rfl, rfl⟩
  | some parsed =>
  cases parsed with
  | error err => exact ⟨_, rfl, rfl⟩
  | ok message =>
      dsimp only
      cases hemail : requiredText message "email" with
      | none =>
          have hrun : forall base : AuthDb, (r.program sodium message).run r.env base =
              (.ok (.ofResponse (ErrorResponse.validationError "email is required")), base) := by
            intro base
            unfold program forgotPassword
            rw [hemail]
            rfl
          unfold Prog.transact
          rw [hrun, hrun]
          exact ⟨_, rfl, rfl⟩
      | some email =>
          have hstop' : Not (r.Passes db email) := by
            apply hstop email
            rw [email?, hbody]
            exact hemail
          have hsame := (readsKey_checkBeforeForgotPassword hsettings email r.ip).run_eq
            (i := r.env) h
          have hstop'' : Not (r.Passes db' email) := by
            unfold Passes
            rw [← hsame]
            exact hstop'
          unfold Prog.transact
          rw [run_stopped hsettings hemail hstop', run_stopped hsettings hemail hstop'', hsame]
          cases ((LoginGate.checkBeforeForgotPassword r.secrets email r.ip).run r.env db').1 with
          | error err => exact ⟨_, rfl, rfl⟩
          | ok gate => exact ⟨_, rfl, rfl⟩

end ForgotRequest

/-!
# Two runs
-/

/-- The address has an account in both databases or in neither, or the settings can be
read, or the request stops before. -/
def AnswersAlike (s : AuthDb × AuthDb) (r : ForgotRequest) : Prop :=
  forall email, r.email? = some email -> r.Passes s.1 email ->
    MailSettingsReadable r.secrets s.1 ∨
      (ForgotRequest.Known s.1 email <-> ForgotRequest.Known s.2 email)

/-- What is assumed of every request. -/
structure Undisturbed (s : AuthDb × AuthDb) (r : ForgotRequest) : Prop where
  settings : SettingsElsewhere r.secrets
  first : r.NoDatabaseFailure sodium s.1
  second : r.NoDatabaseFailure sodium s.2

variable {sodium}

theorem record_attempts {env : Env} {q : QueuedAttempt} {db db' : AuthDb}
    (h : db.loginAttempts = db'.loginAttempts) :
    (Prog.transact env q.record db).2.loginAttempts =
      (Prog.transact env q.record db').2.loginAttempts := by
  unfold Prog.transact QueuedAttempt.record LoginAttempts.recordAttempt
  rw [Prog.run_exec, Prog.run_exec, h]
  cases orUniqueViolation (db'.loginAttempts.insert? (LoginAttempts.attemptRow env
      q.emailLower q.ip q.kind q.success)) with
  | error err => exact h
  | ok pair => rfl

theorem readable_congr {secrets : SecretsHelperPtr} (hsettings : SettingsElsewhere secrets)
    (db db' : AuthDb) : MailSettingsReadable secrets db <-> MailSettingsReadable secrets db' := by
  have hread : forall db db', MailSettingsReadable secrets db ->
      MailSettingsReadable secrets db' := by
    intro db db' h helper name hhelper hname
    rw [hsettings helper hhelper db' db name]
    exact h helper name hhelper hname
  exact ⟨hread db db', hread db' db⟩

theorem breaks_iff {db db' : AuthDb} {r : ForgotRequest} {email : String}
    (hsettings : SettingsElsewhere r.secrets) :
    (r.Breaks db email <-> r.Breaks db' email) <->
      MailSettingsReadable r.secrets db ∨
        (ForgotRequest.Known db email <-> ForgotRequest.Known db' email) := by
  have hreadable := readable_congr hsettings db db'
  unfold ForgotRequest.Breaks
  cases hsecrets : r.secrets with
  | none =>
      have hvacuous : MailSettingsReadable none db := fun helper _ hhelper => by cases hhelper
      simp [hvacuous]
  | some helper =>
      rw [hsecrets] at hreadable
      by_cases hread : MailSettingsReadable (some helper) db
      · have hread' := hreadable.mp hread
        simp [hread, hread']
      · have hread' : Not (MailSettingsReadable (some helper) db') :=
          fun h => hread (hreadable.mpr h)
        simp [hread, hread']

theorem forgotPassword_step {s : AuthDb × AuthDb} {r : ForgotRequest}
    (h : s.1.loginAttempts = s.2.loginAttempts) (hundisturbed : Undisturbed sodium s r) :
    (r.answer sodium s.1 = r.answer sodium s.2 <-> AnswersAlike s r) ∧
      (AnswersAlike s r ->
        (r.perform sodium s.1).loginAttempts = (r.perform sodium s.2).loginAttempts) := by
  have hsettings := hundisturbed.settings
  unfold ForgotRequest.answer ForgotRequest.perform
  by_cases hpasses : exists email, r.email? = some email ∧ r.Passes s.1 email
  · rcases hpasses with ⟨email, hemail, hpasses⟩
    have hpasses' : r.Passes s.2 email := by
      have hsame := (readsKey_checkBeforeForgotPassword hsettings email r.ip).run_eq
        (i := r.env) h
      unfold ForgotRequest.Passes
      rw [← hsame]
      exact hpasses
    have halike : AnswersAlike s r <-> (r.Breaks s.1 email <-> r.Breaks s.2 email) := by
      rw [breaks_iff hsettings]
      constructor
      · intro halike
        exact halike email hemail hpasses
      · intro hbreaks email' hemail' _
        rw [hemail] at hemail'
        cases hemail'
        exact hbreaks
    have hdiffer : ErrorResponse.internalError ≠ Response.ofStatus 200 := by
      intro hsame
      have hstatus := congrArg Response.status hsame
      cases hstatus
    rw [halike]
    rcases ForgotRequest.handlePost_passes hsettings hundisturbed.first hemail hpasses with
      ⟨hbreaks, hfirst⟩ | ⟨hanswers, db, hattempts, hfirst⟩ <;>
      rcases ForgotRequest.handlePost_passes hsettings hundisturbed.second hemail hpasses' with
        ⟨hbreaks', hsecond⟩ | ⟨hanswers', db', hattempts', hsecond⟩ <;>
      rw [hfirst, hsecond]
    · exact ⟨⟨fun _ => ⟨fun _ => hbreaks', fun _ => hbreaks⟩, fun _ => rfl⟩, fun _ => h⟩
    · exact ⟨⟨fun hsame => absurd hsame hdiffer, fun hiff => absurd (hiff.mp hbreaks) hanswers'⟩,
        fun hiff => absurd (hiff.mp hbreaks) hanswers'⟩
    · exact ⟨⟨fun hsame => absurd hsame.symm hdiffer,
        fun hiff => absurd (hiff.mpr hbreaks') hanswers⟩,
        fun hiff => absurd (hiff.mpr hbreaks') hanswers⟩
    · refine ⟨⟨fun _ => ⟨fun hb => absurd hb hanswers, fun hb => absurd hb hanswers'⟩,
        fun _ => rfl⟩, fun _ => record_attempts ?_⟩
      rw [hattempts, hattempts', h]
  · have hstop : forall email, r.email? = some email -> Not (r.Passes s.1 email) :=
      fun email hemail hp => hpasses ⟨email, hemail, hp⟩
    rcases @ForgotRequest.handlePost_stops _ sodium _ _ _ hsettings h hstop with
      ⟨response, hfirst, hsecond⟩
    rw [hfirst, hsecond]
    have halike : AnswersAlike s r := fun email hemail hp => absurd hp (hstop email hemail)
    exact ⟨⟨fun _ => halike, fun _ => rfl⟩, fun _ => h⟩

theorem unwinding_forgotPassword :
    Unwinding (ForgotRequest.perform sodium) (ForgotRequest.answer sodium)
      (fun s => s.1.loginAttempts = s.2.loginAttempts) (Undisturbed sodium) AnswersAlike where
  observed := fun _ _ h hlaw => (forgotPassword_step h hlaw).1
  kept := fun _ _ h hlaw htest => (forgotPassword_step h hlaw).2 htest

/-- Databases that agree on the recorded attempts give the same answers exactly when every
request that reaches an account in one of them alone can read the settings. -/
theorem forgotPassword_reveals (sodium : Sodium) (db db' : AuthDb)
    (h : db.loginAttempts = db'.loginAttempts) (requests : List ForgotRequest)
    (hundisturbed : Along (stepBoth (ForgotRequest.perform sodium)) (Undisturbed sodium)
      (db, db') requests) :
    observations (ForgotRequest.perform sodium) (ForgotRequest.answer sodium) db requests =
        observations (ForgotRequest.perform sodium) (ForgotRequest.answer sodium) db' requests <->
      Along (stepBoth (ForgotRequest.perform sodium)) AnswersAlike (db, db') requests :=
  unwinding_forgotPassword.observations_eq h hundisturbed

end Handler

/-!
# A setting that cannot be read
-/

section SampleReset

attribute [local instance] Citext.plain

/-- Secrets of which one cannot be decrypted. -/
def secretsWithout (unreadable : List String) : SecretsHelper where
  lookupSecret := fun _ name =>
    if unreadable.contains name then .error (.runtimeError "SecretsAtRest::Decrypt - failed")
    else .ok ""

def askForReset (unreadable : List String) : List ForgotRequest :=
  [{ env := Env.ofClock 1000 "a", recordEnv := Env.ofClock 1001 "b"
     secrets := some (secretsWithout unreadable), mail := true, secretBytes := [65]
     body := some (.ok (.obj [("email", .str "ann@example.com")]))
     ip := "10.0.0.1", userAgent := "" }]

def isSqlError {a : Type} : Except Exn a -> Bool
  | .error (.sql _) => true
  | _ => false

theorem noDatabaseFailure_of {db : AuthDb} {r : ForgotRequest} {message : Json}
    (hbody : r.body = some (.ok message))
    (h : isSqlError (Prog.transact r.env (r.program Sodium.plain message) db).1 = false) :
    r.NoDatabaseFailure Sodium.plain db := by
  intro message' err hbody' herr
  rw [hbody] at hbody'
  cases hbody'
  rw [herr] at h
  cases h

theorem undisturbed_askForReset (unreadable : List String)
    (hfirst : isSqlError (Prog.transact (Env.ofClock 1000 "a")
      (forgotPassword Sodium.plain (some (secretsWithout unreadable)) true [65]
        (.obj [("email", .str "ann@example.com")]) "10.0.0.1" "") onePerson).1 = false)
    (hsecond : isSqlError (Prog.transact (Env.ofClock 1000 "a")
      (forgotPassword Sodium.plain (some (secretsWithout unreadable)) true [65]
        (.obj [("email", .str "ann@example.com")]) "10.0.0.1" "") AuthDb.empty).1 = false) :
    Along (stepBoth (ForgotRequest.perform Sodium.plain)) (Undisturbed Sodium.plain)
      (onePerson, AuthDb.empty) (askForReset unreadable) := by
  refine along_cons.mpr ⟨⟨?_, noDatabaseFailure_of rfl hfirst, noDatabaseFailure_of rfl hsecond⟩,
    along_nil⟩
  intro helper hhelper db db' name
  cases hhelper
  rfl

/-- Ann's account answers with an error, and a stranger's address does not. -/
theorem forgotPassword_differs :
    Along (stepBoth (ForgotRequest.perform Sodium.plain)) (Undisturbed Sodium.plain)
        (onePerson, AuthDb.empty) (askForReset [Secrets.kWebsitePasswordResetLink]) ∧
      observations (ForgotRequest.perform Sodium.plain) (ForgotRequest.answer Sodium.plain)
          onePerson (askForReset [Secrets.kWebsitePasswordResetLink]) ≠
        observations (ForgotRequest.perform Sodium.plain) (ForgotRequest.answer Sodium.plain)
          AuthDb.empty (askForReset [Secrets.kWebsitePasswordResetLink]) := by
  refine ⟨undisturbed_askForReset _ (by decide) (by decide), ?_⟩
  intro hsame
  have hknown : (observations (ForgotRequest.perform Sodium.plain)
      (ForgotRequest.answer Sodium.plain) onePerson
      (askForReset [Secrets.kWebsitePasswordResetLink])).map Response.status = [500] := by
    decide
  have hunknown : (observations (ForgotRequest.perform Sodium.plain)
      (ForgotRequest.answer Sodium.plain) AuthDb.empty
      (askForReset [Secrets.kWebsitePasswordResetLink])).map Response.status = [200] := by
    decide
  rw [hsame, hunknown] at hknown
  cases hknown

theorem forgotPassword_reveals_sample :
    observations (ForgotRequest.perform Sodium.plain) (ForgotRequest.answer Sodium.plain)
        onePerson (askForReset []) =
      observations (ForgotRequest.perform Sodium.plain) (ForgotRequest.answer Sodium.plain)
        AuthDb.empty (askForReset []) := by
  apply (forgotPassword_reveals Sodium.plain onePerson AuthDb.empty rfl (askForReset [])
    (undisturbed_askForReset _ (by decide) (by decide))).mpr
  refine along_cons.mpr ⟨?_, along_nil⟩
  intro email _ _
  left
  intro helper name hhelper _
  cases hhelper
  exact ⟨"", rfl⟩

end SampleReset

end Auth
end ServerComponents
