import ServerComponents.Auth.AccountEndpoints
import ServerComponents.Statements.Background

/-!
# The jobs that requests queue

The recorders of attempts catch everything that their transaction throws.  The update of
a session's last use catches nothing, and its first read throws when the session has
been removed since.
-/

namespace ServerComponents
namespace Auth

open Relational Statements

namespace Secrets

def kAuthSessionLastSeenUpdateDurationInMicros :=
  "auth_session_last_seen_update_duration_in_micros"

end Secrets

section Jobs

variable [Citext]

namespace Sessions

def touchLastSeen (id : Nat) : Sql Unit :=
  Prog.exec (fun env db => do
    let (_, table) ← orUniqueViolation (db.sessions.update? (fun r => r.id == id)
      (fun r => { r with lastSeenAt := env.now }))
    pure ((), { db with sessions := table }))

def updateLastSeen (id : Nat) : Sql Unit := do
  let _ ← lookupSessionById id
  touchLastSeen id

end Sessions

/-- `SessionUsed`, with the id of the session whose update it queues. -/
def sessionUsed [UuidText] (secrets : SecretsHelperPtr) (sessionToken : String) :
    Sql (Option Nat) := do
  let row ← Sessions.lookupSessionByUuid sessionToken
  match secrets with
  | none => pure none
  | some helper => do
      let windowStr ← lookupSecret helper Secrets.kAuthSessionLastSeenUpdateDurationInMicros
      if windowStr = "" then pure none
      else do
        let windowUs ← Prog.ofExcept (stoll windowStr)
        let now ← nowUs
        if now ≤ addInt64 row.lastSeenAt windowUs then pure none
        else pure (some row.id)

/-- A transaction of its own: the connection and `BEGIN` come first, and the commit goes
with the last statement. -/
def inTransaction (body : Sql Unit) : Sql Unit := do
  Prog.ask (fun _ _ => .ok ())
  body

/-- What the handlers of logins, verifications, remembered logins and resets queue, and
what `SessionUsed` queues. -/
inductive Job where
  | recordAttempt (attempt : QueuedAttempt)
  | updateLastSeen (provider : Bool) (sessionId : Nat)
  deriving DecidableEq

def Job.body : Job -> Sql Unit
  | recordAttempt attempt =>
      Prog.tryCatch (inTransaction attempt.record) (fun _ => pure ())
  | updateLastSeen provider sessionId =>
      if provider then inTransaction (Sessions.updateLastSeen sessionId) else pure ()

/-- A request uses a session, or changes the tables in any way, such as a logout or the
deletion of a row, and queues the records of some attempts. -/
inductive ServerRequest where
  | sessionUsed (env : Env) (secrets : SecretsHelperPtr) (provider : Bool) (token : String)
  | other (change : AuthDb -> AuthDb) (attempts : List QueuedAttempt)

def serve [UuidText] : ServerRequest -> AuthDb -> AuthDb × List Job
  | .sessionUsed env secrets provider token, db =>
      match Prog.transact env (sessionUsed secrets token) db with
      | (.ok (some sessionId), db') => (db', [.updateLastSeen provider sessionId])
      | (_, db') => (db', [])
  | .other change attempts, db => (change db, attempts.map .recordAttempt)

abbrev RunningJob := Running Job Env AuthDb Exn

abbrev Server := Pool Job Env AuthDb Exn

abbrev ServerEvent := PoolEvent ServerRequest Env Exn

def serverStep [UuidText] : Server -> ServerEvent -> Server := Pool.step Job.body serve

/-!
# The last-seen update
-/

/-- What is left of the update after some of its statements. -/
def lastSeenRest (sessionId : Nat) : Nat -> Sql Unit
  | 0 => inTransaction (Sessions.updateLastSeen sessionId)
  | 1 => Sessions.updateLastSeen sessionId
  | 2 => Sessions.touchLastSeen sessionId
  | _ => pure ()

def Healthy (r : RunningJob) : Prop :=
  match r.job with
  | .recordAttempt _ => Prog.NeverFails r.rest
  | .updateLastSeen true sessionId => r.rest = lastSeenRest sessionId r.executed
  | .updateLastSeen false _ => r.rest = .done ()

def HasSession (db : AuthDb) (sessionId : Nat) : Prop :=
  exists row, row ∈ db.sessions.rows ∧ row.id = sessionId

/-- A last-seen update that is not finished meets no failure of the database, and its
read, the second of its statements, finds the session. -/
def LastSeenSurvives (db : AuthDb) (r : RunningJob) (_ : Env) (fault : Option Exn) : Prop :=
  forall sessionId, r.job = .updateLastSeen true sessionId -> r.executed < 3 ->
    fault = none ∧ (r.executed = 1 -> HasSession db sessionId)

theorem touchLastSeen_step (sessionId : Nat) (env : Env) (db : AuthDb) :
    ((Sessions.touchLastSeen sessionId).step env db).2 = .done () := by
  have hupdate : exists changed table, db.sessions.update? (fun r => r.id == sessionId)
      (fun r => { r with lastSeenAt := env.now }) = some (changed, table) := by
    apply Table.update?_isSome
    intro r r' _ _ hclash
    have hkeep : forall q : Session,
        (if q.id == sessionId then { q with lastSeenAt := env.now } else q).id = q.id ∧
          (if q.id == sessionId then { q with lastSeenAt := env.now } else q).uuid = q.uuid := by
      intro q
      split <;> exact ⟨rfl, rfl⟩
    unfold Session.Clash at hclash ⊢
    rw [(hkeep r).1, (hkeep r).2, (hkeep r').1, (hkeep r').2] at hclash
    exact hclash
  rcases hupdate with ⟨changed, table, hupdate⟩
  simp only [Sessions.touchLastSeen, Prog.exec, Prog.step, hupdate]
  rfl

theorem lookup_step (sessionId : Nat) (env : Env) (db : AuthDb) :
    (HasSession db sessionId -> ((Sessions.updateLastSeen sessionId).step env db).2 =
        Sessions.touchLastSeen sessionId) ∧
      (Not (HasSession db sessionId) ->
        ((Sessions.updateLastSeen sessionId).step env db).2.isFail = true) := by
  have hstep : ((Sessions.updateLastSeen sessionId).step env db).2 =
      (Prog.ofExcept _).bind (fun _ => Sessions.touchLastSeen sessionId) := rfl
  rw [hstep]
  constructor
  · rintro ⟨row, hmem, hid⟩
    cases hfind : db.sessions.find? (fun r => r.id == sessionId) with
    | some found =>
        dsimp only
        rw [hfind]
        rfl
    | none =>
        have hnone := Table.find?_none hfind hmem
        rw [hid] at hnone
        simp at hnone
  · intro hmissing
    cases hfind : db.sessions.find? (fun r => r.id == sessionId) with
    | none =>
        dsimp only
        rw [hfind]
        rfl
    | some found =>
        rcases Table.find?_some hfind with ⟨hmem, hid⟩
        exact absurd ⟨found, hmem, by simpa using hid⟩ hmissing

theorem lastSeenRest_fault {executed : Nat} (h : executed < 3) (sessionId : Nat) (env : Env)
    (err : Exn) (db : AuthDb) :
    ((lastSeenRest sessionId executed).stepFaulty env (some err) db).2.isFail = true := by
  match executed, h with
  | 0, _ => rfl
  | 1, _ => rfl
  | 2, _ => rfl

theorem lastSeenRest_step {executed : Nat} {db : AuthDb} {sessionId : Nat}
    (h : executed = 1 -> HasSession db sessionId) (env : Env) :
    ((lastSeenRest sessionId executed).stepFaulty env none db).2 =
      lastSeenRest sessionId (executed + 1) := by
  match executed with
  | 0 => rfl
  | 1 => exact (lookup_step sessionId env db).1 (h rfl)
  | 2 => exact touchLastSeen_step sessionId env db
  | executed + 3 => rfl

theorem lastSeenRest_finished {executed : Nat} (h : Not (executed < 3)) (sessionId : Nat) :
    lastSeenRest sessionId executed = .done () := by
  match executed, h with
  | 0, h => omega
  | 1, h => omega
  | 2, h => omega
  | executed + 3, _ => rfl

theorem lastSeenRest_isFail (sessionId executed : Nat) :
    (lastSeenRest sessionId executed).isFail = false := by
  match executed with
  | 0 => rfl
  | 1 => rfl
  | 2 => rfl
  | executed + 3 => rfl

theorem stepFaulty_done (env : Env) (fault : Option Exn) (db : AuthDb) :
    ((.done () : Sql Unit).stepFaulty env fault db).2 = .done () := by
  cases fault <;> rfl

theorem supervision : Pool.Supervision Job.body Healthy LastSeenSurvives where
  start := by
    intro j
    cases j with
    | recordAttempt attempt => exact Prog.neverFails_tryCatch (fun _ => trivial)
    | updateLastSeen provider sessionId => cases provider <;> rfl
  fine := by
    intro r h
    unfold Healthy at h
    split at h
    · exact h.isFail
    · rw [h]
      exact lastSeenRest_isFail _ _
    · rw [h]
      rfl
  keeps := by
    intro db r env fault h hsurvives
    show Healthy { r with executed := r.executed + 1, rest := (r.rest.stepFaulty env fault db).2 }
    unfold Healthy at h ⊢
    dsimp only
    cases hjob : r.job with
    | recordAttempt attempt =>
        rw [hjob] at h
        exact h.stepFaulty env fault db
    | updateLastSeen provider sessionId =>
        rw [hjob] at h
        cases provider with
        | false =>
            dsimp only at h ⊢
            rw [h]
            exact stepFaulty_done env fault db
        | true =>
            dsimp only at h ⊢
            rw [h]
            by_cases hlast : r.executed < 3
            · rcases hsurvives sessionId hjob hlast with ⟨hfault, hsession⟩
              rw [hfault]
              exact lastSeenRest_step hsession env
            · have hnext : Not (r.executed + 1 < 3) := by omega
              rw [lastSeenRest_finished hlast, lastSeenRest_finished hnext]
              exact stepFaulty_done env fault db
  breaks := by
    intro db r env fault h hfails
    unfold LastSeenSurvives at hfails
    simp only [Classical.not_forall] at hfails
    rcases hfails with ⟨sessionId, hjob, hlast, hfails⟩
    show (r.rest.stepFaulty env fault db).2.isFail = true
    have hrest : r.rest = lastSeenRest sessionId r.executed := by
      unfold Healthy at h
      rw [hjob] at h
      exact h
    rw [hrest]
    cases fault with
    | some err => exact lastSeenRest_fault hlast sessionId env err db
    | none =>
        have hread : r.executed = 1 ∧ Not (HasSession db sessionId) := by
          by_contra hnot
          apply hfails
          refine ⟨rfl, ?_⟩
          intro hexecuted
          by_contra hmissing
          exact hnot ⟨hexecuted, hmissing⟩
        rw [hread.1]
        exact (lookup_step sessionId env db).2 hread.2

/-- No exception escapes from a job exactly when every last-seen update meets a database
that does not fail, and finds its session. -/
theorem backgroundJobs [UuidText] (db : AuthDb) (events : List ServerEvent) :
    Not (after serverStep { shared := db, jobs := [] } events).Escaped <->
      Along serverStep (Pool.TurnsPass LastSeenSurvives) { shared := db, jobs := [] }
        events := by
  apply supervision.not_escaped_iff
  intro r hr
  cases hr

end Jobs

/-!
# A session that was signed out
-/

section SampleJobs

attribute [local instance] Citext.plain UuidText.plain

def oneSession : AuthDb :=
  { onePerson with
    sessions :=
      { rows := [{ id := 1, uuid := "s-1", personId := 1, createdAt := 0, lastSeenAt := 0
                   expiresAt := 1000000, revoked := false }]
        nextId := 2
        noClash := by decide } }

def usedThenSignedOut : List ServerEvent :=
  [.serve (.sessionUsed (Env.ofClock 1000 "a")
      (some (SecretsHelper.ofSettings
        [(Secrets.kAuthSessionLastSeenUpdateDurationInMicros, "60")])) true "s-1"),
    .serve (.other (fun db => (Prog.transact (Env.ofClock 1001 "b") (logoutPerson 1) db).2) []),
    .turn 0 (Env.ofClock 1002 "c") none,
    .turn 0 (Env.ofClock 1003 "d") none]

theorem backgroundJobs_escapes :
    (after serverStep { shared := oneSession, jobs := [] } usedThenSignedOut).Escaped := by
  have hfails : (after serverStep { shared := oneSession, jobs := [] }
      usedThenSignedOut).jobs.any (fun r => r.rest.isFail) = true := by
    decide
  rcases List.any_eq_true.mp hfails with ⟨r, hmem, hfail⟩
  exact ⟨r, hmem, hfail⟩

end SampleJobs

end Auth
end ServerComponents
