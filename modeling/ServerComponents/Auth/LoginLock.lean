import ServerComponents.Auth.LoginRequest
import ServerComponents.Statements.ReadCommitted
import ServerComponents.Statements.Run

/-!
# Concurrent logins of one account

Each request runs the gate and the login attempt in its own transaction.  The
statements of all requests interleave, and the write-behind recorder inserts its
rows at any time.
-/

namespace ServerComponents
namespace Auth

open Relational Statements

section LoginLock

variable [Citext]

inductive LoginEvent (thread : Type) where
  | statement (t : thread) (env : Env)
  | commit (t : thread)
  | rollback (t : thread)
  | record (env : Env) (emailLower ip : String) (success : Bool)

abbrev LoginState (thread : Type) := Shared thread Env AuthDb Exn LoginOutcome

namespace LoginState

variable {thread : Type} [DecidableEq thread] {account : String}

def step (s : LoginState thread) : LoginEvent thread -> LoginState thread
  | .statement t env => s.runStep t env
  | .commit t => s.commitStep t
  | .rollback t => s.rollbackStep t
  | .record env emailLower ip success =>
      s.outsideStep (fun db =>
        (Prog.transact env
          (LoginAttempts.recordAttempt emailLower ip .login success) db).2)

variable (sodium : Sodium) (requests : thread -> LoginRequest account)

def start (db : AuthDb) : LoginState thread :=
  Shared.init db (fun t => loginRequest sodium (requests t))

def Succeeds (s : LoginState thread) (t : thread) (env : Env) : Prop :=
  (s.prog t).result? = none ∧
    exists o, ((s.runStep t env).prog t).result? = some o ∧ o.success = true

def rowRead (account : String) (s : LoginState thread) (t : thread) : Option Person :=
  People.personByEmail (s.view t) account

def Unlocked (t : thread) (env : Env) (p : Person) : Prop :=
  sodium.verifyPassword (requests t).password p.passwordHash = true ∧
    forall l, p.lockedUntil = some l -> l ≤ env.now

/-- Every success reads a row with the right password that is not locked. -/
def LoginLockLaw (db : AuthDb) (events : List (LoginEvent thread)) : Prop :=
  forall pre t env post, events = pre ++ .statement t env :: post ->
    Succeeds (after step (start sodium requests db) pre) t env ->
    exists p, rowRead account (after step (start sodium requests db) pre) t = some p ∧
      Unlocked sodium requests t env p

/-- The commit publishes a lock that ends after the given time, set by a request
with a wrong password. -/
def PublishesLock (s : LoginState thread) (time : Int) : LoginEvent thread -> Prop
  | .commit u => exists version p l, s.holder = some (u, version) ∧
      People.personByEmail version account = some p ∧
      sodium.verifyPassword (requests u).password p.passwordHash = false ∧
      p.lockedUntil = some l ∧ time < l
  | _ => False

/-- The condition on a success: the request names an email, so that its gate
reads the lock, and since its first statement no other request has published a
lock that is still in force. -/
def GateStillHolds (s0 : LoginState thread) (pre : List (LoginEvent thread))
    (t : thread) (env : Env) : Prop :=
  (requests t).email ≠ "" ∧
    forall early e late, pre = early ++ e :: late ->
      (exists env', LoginEvent.statement t env' ∈ early) ->
      Not (PublishesLock sodium requests (after step s0 early) env.now e)

/-- The clocks of the statements never go back. -/
def ClockOrdered (events : List (LoginEvent thread)) : Prop :=
  (events.filterMap (fun e =>
    match e with
    | .statement _ env => some env.now
    | _ => none)).Pairwise (fun now now' => now ≤ now')

/-!
# The invariant of all requests
-/

/--
Every version of the account's row has the same key.  A request that holds the
row has finished, and a lock in its version comes with a wrong password.  A
request that has not finished still does what it may do.
-/
structure LoginInv (key : Option (Nat × String)) (s : LoginState thread) : Prop where
  committed_key : accountKey account s.committed = key
  holder_key : forall u version, s.holder = some (u, version) ->
    accountKey account version = key
  holder_done : forall u version, s.holder = some (u, version) ->
    exists o, s.prog u = .done o
  holder_lock : forall u version p l, s.holder = some (u, version) ->
    People.personByEmail version account = some p -> p.lockedUntil = some l ->
    sodium.verifyPassword (requests u).password p.passwordHash = false
  programs : forall u, (exists o, s.prog u = .done o) ∨
    Prog.Respects (fun _ db => accountKey account db = key)
      (fun o => o.success = false) (LoginWrites sodium (requests u)) (s.prog u)

section Invariant

variable {sodium : Sodium} {requests : thread -> LoginRequest account}
  {key : Option (Nat × String)} {s : LoginState thread}

omit [DecidableEq thread] in
theorem loginInv_start (db : AuthDb) :
    LoginInv sodium requests (accountKey account db) (start sodium requests db) where
  committed_key := rfl
  holder_key := by
    intro u version h
    cases h
  holder_done := by
    intro u version h
    cases h
  holder_lock := by
    intro u version p l h
    cases h
  programs := fun u => Or.inr (respects_loginRequest sodium (requests u) _)

variable (hinv : LoginInv sodium requests key s)

include hinv in
theorem LoginInv.view_eq {t : thread}
    (hrunning : forall o, s.prog t ≠ .done o) : s.view t = s.committed := by
  apply Shared.view_of_not_held
  intro version hholder
  rcases hinv.holder_done t version hholder with ⟨o, ho⟩
  exact hrunning o ho

include hinv in
theorem LoginInv.resume {t : thread}
    (hrunning : forall o, s.prog t ≠ .done o) {p : Sql LoginOutcome}
    (hp : Prog.Respects (fun _ db => accountKey account db = key)
      (fun o => o.success = false) (LoginWrites sodium (requests t)) p) :
    LoginInv sodium requests key (s.resume t p) := by
  constructor
  · exact hinv.committed_key
  · exact hinv.holder_key
  · intro u version h
    rcases hinv.holder_done u version h with ⟨o, ho⟩
    have hut : u ≠ t := by
      intro hut
      rw [hut] at ho
      exact hrunning o ho
    exact ⟨o, by rw [Shared.resume_prog_ne _ hut]; exact ho⟩
  · exact hinv.holder_lock
  · intro u
    by_cases hut : u = t
    · rw [hut, Shared.resume_prog_self]
      exact Or.inr hp
    · rw [Shared.resume_prog_ne _ hut]
      exact hinv.programs u

include hinv in
theorem LoginInv.hold {t : thread} {env : Env} {version : AuthDb} {rest : Sql LoginOutcome}
    (hwrites : LoginWrites sodium (requests t) env s.committed version rest) :
    LoginInv sodium requests key
      { s.resume t rest with holder := some (t, version) } := by
  rcases hwrites with ⟨p, row, result, hrest, hp, hreplaced, hhash, hresult⟩
  have hrow : People.personByEmail version account = some row := by
    rw [hreplaced.personByEmail_eq, hp]
    simp
  constructor
  · exact hinv.committed_key
  · intro u version' h
    cases h
    have hcommitted := hinv.committed_key
    rw [accountKey, hp] at hcommitted
    rw [accountKey, hrow, ← hcommitted, Option.map_some, Option.map_some,
      hreplaced.id_eq, hhash]
  · intro u version' h
    cases h
    exact ⟨_, by rw [hrest]; exact Shared.resume_prog_self _⟩
  · intro u version' p' l h hp' hlock
    cases h
    rw [hrow] at hp'
    cases hp'
    rcases hresult with ⟨_, _, hnone⟩ | ⟨_, hwrong⟩
    · rw [hnone] at hlock
      cases hlock
    · rw [hhash]
      exact hwrong
  · intro u
    by_cases hut : u = t
    · left
      rw [hut]
      exact ⟨_, by rw [hrest]; exact Shared.resume_prog_self _⟩
    · have hprog := hinv.programs u
      rw [← Shared.resume_prog_ne (s := s) rest hut] at hprog
      exact hprog

include hinv in
theorem LoginInv.statement (t : thread)
    (env : Env) : LoginInv sodium requests key (s.runStep t env) := by
  rcases s.runStep_cases t env with hs | ⟨_, read, next, _, hprog, hs⟩ |
    ⟨_, write, next, _, hprog, _, hwrite⟩
  · rw [hs]
    exact hinv
  · have hrunning : forall o, s.prog t ≠ .done o := by
      intro o ho
      rw [hprog] at ho
      cases ho
    rw [hs, hinv.view_eq hrunning]
    apply hinv.resume hrunning
    rcases hinv.programs t with ⟨o, ho⟩ | hrespects
    · exact absurd ho (hrunning o)
    · rw [hprog] at hrespects
      exact hrespects env s.committed hinv.committed_key
  · have hrunning : forall o, s.prog t ≠ .done o := by
      intro o ho
      rw [hprog] at ho
      cases ho
    rw [hinv.view_eq hrunning] at hwrite
    rcases hinv.programs t with ⟨o, ho⟩ | hrespects
    · exact absurd ho (hrunning o)
    · rw [hprog] at hrespects
      have hnext := hrespects env s.committed hinv.committed_key
      rcases hwrite with ⟨err, herr, hs⟩ | ⟨value, version, hok, hs⟩
      · rw [herr] at hnext
        rw [hs]
        exact hinv.resume hrunning hnext
      · rw [hok] at hnext
        rw [hs]
        exact hinv.hold hnext

include hinv in
theorem LoginInv.finish (t : thread)
    (publish : Bool) : LoginInv sodium requests key (s.finish t publish) := by
  have hholder : forall u version,
      (s.finish t publish).holder = some (u, version) ->
        s.holder = some (u, version) :=
    fun u version h => Shared.finish_holder h
  constructor
  · rcases Shared.finish_committed (s := s) (t := t) publish with
      h | ⟨version, hheld, _, h⟩
    · rw [h]
      exact hinv.committed_key
    · rw [h]
      exact hinv.holder_key t version hheld
  · exact fun u version h => hinv.holder_key u version (hholder u version h)
  · exact fun u version h => hinv.holder_done u version (hholder u version h)
  · exact fun u version p l h => hinv.holder_lock u version p l (hholder u version h)
  · exact hinv.programs

include hinv in
omit [DecidableEq thread] in
theorem LoginInv.outside
    {change : AuthDb -> AuthDb} (hpeople : forall db, (change db).people = db.people) :
    LoginInv sodium requests key (s.outsideStep change) := by
  have hemail : forall db, People.personByEmail (change db) account =
      People.personByEmail db account := by
    intro db
    simp [People.personByEmail, hpeople db]
  have hkey : forall db, accountKey account (change db) = accountKey account db := by
    intro db
    simp [accountKey, hemail db]
  have hholder : forall u version, (s.outsideStep change).holder = some (u, version) ->
      exists version', s.holder = some (u, version') ∧ version = change version' := by
    intro u version h
    rcases Option.map_eq_some_iff.mp h with ⟨⟨u', version'⟩, hheld, heq⟩
    cases heq
    exact ⟨version', hheld, rfl⟩
  constructor
  · exact (hkey s.committed).trans hinv.committed_key
  · intro u version h
    rcases hholder u version h with ⟨version', hheld, hversion⟩
    rw [hversion, hkey]
    exact hinv.holder_key u version' hheld
  · intro u version h
    rcases hholder u version h with ⟨version', hheld, _⟩
    exact hinv.holder_done u version' hheld
  · intro u version p l h hp
    rcases hholder u version h with ⟨version', hheld, hversion⟩
    rw [hversion, hemail] at hp
    exact hinv.holder_lock u version' p l hheld hp
  · exact hinv.programs

include hinv in
theorem LoginInv.step (e : LoginEvent thread) :
    LoginInv sodium requests key (s.step e) := by
  cases e with
  | statement t env => exact hinv.statement t env
  | commit t =>
      change LoginInv sodium requests key (s.commitStep t)
      rcases s.commitStep_cases t with h | ⟨_, h⟩ <;> rw [h]
      · exact hinv
      · exact hinv.finish t true
  | rollback t =>
      change LoginInv sodium requests key (s.rollbackStep t)
      rcases s.rollbackStep_cases t with h | h <;> rw [h]
      · exact hinv
      · exact hinv.finish t false
  | record env emailLower ip success =>
      exact hinv.outside (fun db =>
        LoginAttempts.recordAttempt_people env db emailLower ip .login success)

theorem loginInv_after (sodium : Sodium) (requests : thread -> LoginRequest account)
    (db : AuthDb) (events : List (LoginEvent thread)) :
    LoginInv sodium requests (accountKey account db)
      (after LoginState.step (start sodium requests db) events) :=
  invariant_run (loginInv_start db) (fun _ e hinv => hinv.step e)

end Invariant

/-!
# The invariant of one request

Once its gate has read the lock, either the committed row is not locked past the
given time, or what is left of the request cannot succeed by then.
-/

def NotPast (account : String) (time : Int) (db : AuthDb) : Prop :=
  forall p l, People.personByEmail db account = some p -> p.lockedUntil = some l ->
    l ≤ time

structure Guarded (t : thread) (time : Int) (started : Prop)
    (s : LoginState thread) : Prop where
  fresh : Not started -> s.prog t = loginRequest sodium (requests t)
  guarded : started -> s.ended t = true ∨ NotPast account time s.committed ∨
    Harmless time (s.prog t)

section Guard

variable {sodium : Sodium} {requests : thread -> LoginRequest account}
  {key : Option (Nat × String)} {s : LoginState thread} {t : thread} {time : Int}
  {started : Prop}

variable (hinv : LoginInv sodium requests key s)

include hinv in
theorem guarded_first_statement (hemail : (requests t).email ≠ "") (htime : 0 ≤ time)
    (hprog : s.prog t = loginRequest sodium (requests t)) (env : Env) :
    s.ended t = true ∨ NotPast account time s.committed ∨
      Harmless time ((s.runStep t env).prog t) := by
  rcases loginRequest_eq sodium hemail with ⟨next, hrequest, hnext⟩
  rw [hrequest] at hprog
  have hrunning : forall o, s.prog t ≠ .done o := by
    intro o ho
    rw [hprog] at ho
    cases ho
  cases hended : s.ended t with
  | true => exact Or.inl rfl
  | false =>
      right
      rw [Shared.runStep_query hended hprog, Shared.resume_prog_self,
        hinv.view_eq hrunning, hnext]
      by_cases hpast : NotPast account time s.committed
      · exact Or.inl hpast
      · right
        simp only [NotPast, not_forall, Int.not_le] at hpast
        rcases hpast with ⟨p, l, hp, hlock, hlate⟩
        rw [← People.personByEmail_congr (requests t).same] at hp
        rcases People.personByEmail_some hp with ⟨hmem, hsame⟩
        have hle := LoginGate.le_maxLockedUntil hmem hsame hlock
        exact harmless_afterLockRead sodium htime (Int.lt_of_lt_of_le hlate hle)

theorem harmless_statement (hharmless : Harmless time (s.prog t)) {env : Env}
    (hnow : (env.now : Int) ≤ time) : Harmless time ((s.runStep t env).prog t) := by
  rcases s.runStep_cases t env with hs | ⟨_, read, next, _, hprog, hs⟩ |
    ⟨_, write, next, _, hprog, _, hwrite⟩
  · rw [hs]
    exact hharmless
  · rw [hprog] at hharmless
    rw [hs, Shared.resume_prog_self]
    exact hharmless env (s.view t) hnow
  · rw [hprog] at hharmless
    have hnext := hharmless env (s.view t) hnow
    rcases hwrite with ⟨err, herr, hs⟩ | ⟨value, version, hok, hs⟩
    · rw [herr] at hnext
      rw [hs, Shared.resume_prog_self]
      exact hnext
    · rw [hok] at hnext
      exact hnext.elim

include hinv in
theorem guarded_finish (hguarded : Guarded sodium requests t time started s) {u : thread}
    {publish : Bool}
    (hquiet : started -> publish = true ->
      Not (PublishesLock sodium requests s time (.commit u))) :
    Guarded sodium requests t time started (s.finish u publish) := by
  constructor
  · exact hguarded.fresh
  · intro hstarted
    rcases hguarded.guarded hstarted with h | h | h
    · exact Or.inl (Shared.finish_ended publish h)
    · right
      left
      rcases Shared.finish_committed (s := s) (t := u) publish with
        hcommitted | ⟨version, hheld, hpublish, hcommitted⟩
      · rw [hcommitted]
        exact h
      · rw [hcommitted]
        intro p l hp hlock
        by_contra hlate
        exact hquiet hstarted hpublish ⟨version, p, l, hheld, hp,
          hinv.holder_lock u version p l hheld hp hlock, hlock, Int.not_le.mp hlate⟩
    · exact Or.inr (Or.inr h)

omit [DecidableEq thread] in
theorem Guarded.mono {e : LoginEvent thread}
    (hguarded : Guarded sodium requests t time started s)
    (he : forall env, e ≠ .statement t env) :
    Guarded sodium requests t time (started ∨ exists env, e = .statement t env) s := by
  have hiff : (started ∨ exists env, e = .statement t env) <-> started := by
    simp [he]
  exact ⟨fun h => hguarded.fresh (fun hs => h (Or.inl hs)),
    fun h => hguarded.guarded (hiff.mp h)⟩

include hinv in
theorem guarded_step (hguarded : Guarded sodium requests t time started s)
    (hemail : (requests t).email ≠ "")
    (htime : 0 ≤ time) {e : LoginEvent thread}
    (hnow : forall u env, e = .statement u env -> (env.now : Int) ≤ time)
    (hquiet : started -> Not (PublishesLock sodium requests s time e)) :
    Guarded sodium requests t time (started ∨ exists env, e = .statement t env)
      (s.step e) := by
  cases e with
  | statement u env =>
      change Guarded sodium requests t time _ (s.runStep u env)
      by_cases hut : t = u
      · cases hut
        constructor
        · intro hnot
          exact absurd (Or.inr ⟨env, rfl⟩) hnot
        · intro _
          rw [Shared.runStep_ended, Shared.runStep_committed]
          by_cases hstarted : started
          · rcases hguarded.guarded hstarted with h | h | h
            · exact Or.inl h
            · exact Or.inr (Or.inl h)
            · exact Or.inr (Or.inr (harmless_statement h (hnow t env rfl)))
          · exact guarded_first_statement hinv hemail htime
              (hguarded.fresh hstarted) env
      · have hother : Guarded sodium requests t time started (s.runStep u env) := by
          constructor
          · intro hnot
            rw [Shared.runStep_prog_ne hut]
            exact hguarded.fresh hnot
          · intro hstarted
            rw [Shared.runStep_ended, Shared.runStep_committed,
              Shared.runStep_prog_ne hut]
            exact hguarded.guarded hstarted
        apply hother.mono
        intro env' h
        cases h
        exact hut rfl
  | commit u =>
      apply Guarded.mono
      · change Guarded sodium requests t time started (s.commitStep u)
        rcases s.commitStep_cases u with h | ⟨_, h⟩ <;> rw [h]
        · exact hguarded
        · exact guarded_finish hinv hguarded (fun hstarted _ => hquiet hstarted)
      · intro env h
        cases h
  | rollback u =>
      apply Guarded.mono
      · change Guarded sodium requests t time started (s.rollbackStep u)
        rcases s.rollbackStep_cases u with h | h <;> rw [h]
        · exact hguarded
        · exact guarded_finish hinv hguarded (fun _ h => absurd h (by simp))
      · intro env h
        cases h
  | record env emailLower ip success =>
      apply Guarded.mono
      · constructor
        · exact hguarded.fresh
        · intro hstarted
          rcases hguarded.guarded hstarted with h | h | h
          · exact Or.inl h
          · right
            left
            intro p l hp
            apply h p l
            rw [← hp]
            simp [step, Shared.outsideStep, People.personByEmail,
              LoginAttempts.recordAttempt_people]
          · exact Or.inr (Or.inr h)
      · intro env' h
        cases h

theorem guarded_after (time : Int) (db : AuthDb) (hemail : (requests t).email ≠ "")
    (htime : 0 ≤ time) {events : List (LoginEvent thread)}
    (hnow : forall u env, LoginEvent.statement u env ∈ events ->
      (env.now : Int) ≤ time)
    (hquiet : forall early e late, events = early ++ e :: late ->
      (exists env, LoginEvent.statement t env ∈ early) ->
      Not (PublishesLock sodium requests
        (after LoginState.step (start sodium requests db) early) time e)) :
    Guarded sodium requests t time (exists env, LoginEvent.statement t env ∈ events)
      (after LoginState.step (start sodium requests db) events) := by
  induction events using List.reverseRecOn with
  | nil =>
      constructor
      · intro _
        rfl
      · intro h
        rcases h with ⟨env, h⟩
        cases h
  | append_singleton events e ih =>
      have hguarded := ih
        (fun u env hmem => hnow u env (List.mem_append_left _ hmem))
        (fun early e' late hevents => hquiet early e' (late ++ [e])
          (by simp [hevents]))
      have hstep := guarded_step (loginInv_after sodium requests db events) hguarded hemail htime
        (fun u env he => hnow u env (by simp [he])) (hquiet events e [] rfl)
      rw [after_append, after_cons, after_nil]
      constructor
      · intro hnot
        apply hstep.fresh
        intro h
        rcases h with ⟨env, h⟩ | ⟨env, h⟩
        · exact hnot ⟨env, List.mem_append_left _ h⟩
        · exact hnot ⟨env, by simp [h]⟩
      · intro h
        apply hstep.guarded
        rcases h with ⟨env, h⟩
        rcases List.mem_append.mp h with h | h
        · exact Or.inl ⟨env, h⟩
        · exact Or.inr ⟨env, (List.mem_singleton.mp h).symm⟩

omit [Citext] [DecidableEq thread] in
theorem ClockOrdered.le {pre post : List (LoginEvent thread)} {env : Env}
    (hclock : ClockOrdered (pre ++ .statement t env :: post)) {u : thread} {env' : Env}
    (hmem : LoginEvent.statement u env' ∈ pre) : (env'.now : Int) ≤ env.now := by
  unfold ClockOrdered at hclock
  rw [List.filterMap_append, List.pairwise_append] at hclock
  have hle := hclock.2.2 env'.now
    (List.mem_filterMap.mpr ⟨_, hmem, rfl⟩) env.now (by simp)
  exact Int.ofNat_le.mpr hle

include hinv in
theorem succeeds_write {env : Env} (hsucceeds : Succeeds s t env) :
    s.ended t = false ∧ s.view t = s.committed ∧
    exists p, People.personByEmail (s.view t) account = some p ∧
      sodium.verifyPassword (requests t).password p.passwordHash = true ∧
      exists (reply : Type) (write : Env -> AuthDb -> Except Exn (reply × AuthDb))
        (next : _), s.prog t = .update write next ∧
        exists pair, write env (s.view t) = .ok pair := by
  rcases hsucceeds with ⟨hresult, o, ho, hsuccess⟩
  have hrunning := Prog.result?_eq_none.mp hresult
  rw [Prog.result?_eq_some] at ho
  have hview := hinv.view_eq hrunning
  have hrespects : Prog.Respects (fun _ db => accountKey account db = key)
      (fun o => o.success = false) (LoginWrites sodium (requests t)) (s.prog t) := by
    rcases hinv.programs t with ⟨o', ho'⟩ | h
    · exact absurd ho' (hrunning o')
    · exact h
  have hdone : forall p : Sql LoginOutcome, p = .done o -> Not (Prog.Respects
      (fun _ db => accountKey account db = key) (fun o => o.success = false)
      (LoginWrites sodium (requests t)) p) := by
    intro p hp h
    rw [hp, Prog.respects_done, hsuccess] at h
    cases h
  rcases s.runStep_cases t env with hs | ⟨_, read, next, _, hprog, hs⟩ |
    ⟨reply, write, next, hended, hprog, _, hwrite⟩
  · rw [hs] at ho
    exact absurd ho (hrunning o)
  · rw [hs, Shared.resume_prog_self] at ho
    rw [hprog] at hrespects
    have hadmits : accountKey account (s.view t) = key := by
      rw [hview]
      exact hinv.committed_key
    exact absurd (hrespects env (s.view t) hadmits) (hdone _ ho)
  · rw [hprog] at hrespects
    have hadmits : accountKey account (s.view t) = key := by
      rw [hview]
      exact hinv.committed_key
    have hnext := hrespects env (s.view t) hadmits
    rcases hwrite with ⟨err, herr, hs⟩ | ⟨value, version, hok, hs⟩
    · rw [herr] at hnext
      rw [hs, Shared.resume_prog_self] at ho
      exact absurd hnext (hdone _ ho)
    · rw [hok] at hnext
      rcases hnext with ⟨p, row, result, hrest, hp, _, _, hresult⟩
      have hprog' : (s.runStep t env).prog t = next (.ok value) := by
        rw [hs]
        exact Shared.resume_prog_self _
      rw [hprog', hrest] at ho
      cases ho
      rcases hresult with ⟨_, hverify, _⟩ | ⟨hfailed, _⟩
      · exact ⟨hended, hview, p, hp, hverify, reply, write, next, hprog, _, hok⟩
      · rw [LoginOutcome.success, hfailed] at hsuccess
        cases hsuccess

/--
In every run, every success reads a row with the request's password, and the row
is not locked when the gate still holds.
-/
theorem loginLock (sodium : Sodium) (requests : thread -> LoginRequest account)
    (db : AuthDb) (events : List (LoginEvent thread)) (hclock : ClockOrdered events)
    (pre post : List (LoginEvent thread)) (t : thread) (env : Env)
    (hevents : events = pre ++ .statement t env :: post)
    (hsucceeds : Succeeds (after LoginState.step (start sodium requests db) pre) t env) :
    exists p, rowRead account
        (after LoginState.step (start sodium requests db) pre) t = some p ∧
      sodium.verifyPassword (requests t).password p.passwordHash = true ∧
      (GateStillHolds sodium requests (start sodium requests db) pre t env ->
        Unlocked sodium requests t env p) := by
  have hinv := loginInv_after sodium requests db pre
  rcases succeeds_write hinv hsucceeds with
    ⟨hended, hview, p, hp, hverify, _, write, next, hprog, pair, hwrite⟩
  refine ⟨p, hp, hverify, ?_⟩
  intro hgate
  refine ⟨hverify, ?_⟩
  intro l hlock
  rw [hevents] at hclock
  have hguarded := guarded_after env.now db hgate.1
    (Int.natCast_nonneg env.now) (fun u env' hmem => hclock.le hmem) hgate.2
  have hstarted : exists env', LoginEvent.statement t env' ∈ pre := by
    by_contra hnot
    have hfresh := hguarded.fresh hnot
    rcases loginRequest_eq sodium hgate.1 with ⟨next', hrequest, _⟩
    rw [hprog, hrequest] at hfresh
    cases hfresh
  rcases hguarded.guarded hstarted with h | h | h
  · rw [hended] at h
    cases h
  · rw [hview] at hp
    exact h p l hp hlock
  · rw [hprog] at h
    have hnever := h env
      ((after LoginState.step (start sodium requests db) pre).view t)
      (Int.le_refl env.now)
    rw [hwrite] at hnever
    exact hnever.elim

end Guard

end LoginState

end LoginLock

/-!
# A lock set behind the gate

The owner of the account has passed the gate and the hash check.  Then a guess
reaches the threshold of one failure and commits the lock, and then the owner's
update runs.
-/

section FailingRun

open LoginState

attribute [local instance] Citext.plain

theorem sameEmail_ann : sameEmail "ann@example.com" "ann@example.com" = true := by
  decide

def ownerAndGuess (t : Bool) : LoginRequest "ann@example.com" where
  secrets := some (SecretsHelper.ofSettings
    [(Secrets.kAuthAccountLockoutAfterFailures, "1"),
      (Secrets.kAuthAccountLockoutDurationInMicros, "1800000000")])
  email := "ann@example.com"
  password := if t then "pw" else "guess"
  ip := ""
  same := sameEmail_ann

def gatePassed : Env := Env.ofClock 1000 ""

def guessMade : Env := Env.ofClock 2000 ""

def ownerUpdates : Env := Env.ofClock 3000 ""

def lockRace : List (LoginEvent Bool) :=
  List.replicate 8 (.statement true gatePassed) ++
    List.replicate 9 (.statement false guessMade) ++
    [.commit false]

theorem loginLockLaw_fails :
    Not (LoginLockLaw Sodium.plain ownerAndGuess onePerson
      (lockRace ++ [.statement true ownerUpdates])) := by
  intro hlaw
  have hsucceeds : Succeeds (after LoginState.step
      (start Sodium.plain ownerAndGuess onePerson) lockRace) true
      ownerUpdates :=
    ⟨by decide, .attempted
      { LoginAttemptResult.initial with success := true, personId := 1 },
      by decide, rfl⟩
  rcases hlaw lockRace true ownerUpdates [] rfl hsucceeds with
    ⟨p, hp, _, hunlocked⟩
  have hrow : rowRead "ann@example.com" (after LoginState.step
      (start Sodium.plain ownerAndGuess onePerson) lockRace) true =
      some { id := 1, email := "ann@example.com", firstName := "Ann"
             lastName := "Lee", passwordHash := "pw"
             emailVerifiedAt := some 1, mustChangePassword := false, updatedAt := 0
             failedLoginAttempts := 1, lockedUntil := some 1800002000 } := by
    decide
  rw [hrow] at hp
  cases hp
  exact absurd (hunlocked 1800002000 rfl) (by decide)

def lockExpired : Env := Env.ofClock 1800003000 ""

/-- The guess commits its lock before the owner comes, and the lock has run out by then. -/
def guessFirst : List (LoginEvent Bool) :=
  lockRace.drop 8 ++ List.replicate 9 (.statement true lockExpired)

theorem loginLock_guessFirst :
    exists p, rowRead "ann@example.com" (after LoginState.step
        (start Sodium.plain ownerAndGuess onePerson) guessFirst) true = some p ∧
      p.lockedUntil = some 1800002000 ∧
      Unlocked Sodium.plain ownerAndGuess true lockExpired p := by
  have hlock := loginLock Sodium.plain ownerAndGuess onePerson
    (guessFirst ++ [.statement true lockExpired])
    (by unfold ClockOrdered; decide) guessFirst [] true lockExpired rfl
    ⟨by decide, .attempted
      { LoginAttemptResult.initial with success := true, personId := 1 },
      by decide, rfl⟩
  rcases hlock with ⟨p, hp, _, hunlocked⟩
  refine ⟨p, hp, ?_, hunlocked ⟨by decide, ?_⟩⟩
  · have hrow := congrArg (fun row => row.map Person.lockedUntil) hp
    exact Option.some.inj (hrow.symm.trans (by decide))
  intro early e late hevents hstarted hpublishes
  rcases List.append_eq_append_iff.mp hevents with ⟨own, _, hown⟩ | ⟨_, hguess, _⟩
  · have hmem : e ∈ List.replicate 9 (LoginEvent.statement true lockExpired) := by
      rw [hown]
      simp
    rw [List.eq_of_mem_replicate hmem] at hpublishes
    exact hpublishes
  · rcases hstarted with ⟨env', hmem⟩
    have hfirst : .statement true env' ∈ lockRace.drop 8 := by
      rw [hguess]
      exact List.mem_append_left _ hmem
    simp [lockRace] at hfirst

end FailingRun

end Auth
end ServerComponents
