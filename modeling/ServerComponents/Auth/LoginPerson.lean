import ServerComponents.Auth.People

/-!
# The login attempt and its lockout

`LoginPerson` of the person helper.  Its two updates are separate definitions, so
that the lockout arithmetic can be read and reasoned about on one row.
-/

namespace ServerComponents
namespace Auth

open Relational Statements

structure LoginAttemptResult where
  success : Bool
  justLocked : Bool
  personId : Int
  failedLoginAttempts : Int
  lockedUntil : Int
  deriving Repr, DecidableEq

namespace LoginAttemptResult

def initial : LoginAttemptResult where
  success := false
  justLocked := false
  personId := -1
  failedLoginAttempts := 0
  lockedUntil := 0

end LoginAttemptResult

def kFallbackLockoutAfterFailures : Int := 10
def kFallbackLockoutDurationMicros : Int := 1800 * 1000000

def clearedRow (p : Person) : Person :=
  { p with failedLoginAttempts := 0, lockedUntil := none }

def failedRow (env : Env) (threshold lockoutDurationMicros : Int) (p : Person) :
    Except Exn Person := do
  let attempts ← bigint (p.failedLoginAttempts + 1)
  if threshold ≤ attempts then do
    let lockedUntil ← bigint (env.now + lockoutDurationMicros)
    pure { p with failedLoginAttempts := attempts, lockedUntil := some lockedUntil }
  else
    pure { p with failedLoginAttempts := attempts }

def successResult (personId : Nat) (row : Option Person) : LoginAttemptResult :=
  { LoginAttemptResult.initial with
    success := true
    personId := personId
    failedLoginAttempts := (row.map Person.failedLoginAttempts).getD 0
    lockedUntil := (row.map (fun p => p.lockedUntil.getD 0)).getD 0 }

def failureResult (threshold : Int) (row : Option Person) : LoginAttemptResult :=
  { LoginAttemptResult.initial with
    justLocked :=
      decide ((row.map Person.failedLoginAttempts).getD 0 = threshold) &&
        decide (0 < (row.map (fun p => p.lockedUntil.getD 0)).getD 0)
    failedLoginAttempts := (row.map Person.failedLoginAttempts).getD 0
    lockedUntil := (row.map (fun p => p.lockedUntil.getD 0)).getD 0 }

section LoginPerson

variable [Citext] {threshold duration : Int}

omit [Citext] in
theorem failedRow_ok {env : Env} {p row : Person}
    (h : failedRow env threshold duration p = .ok row) :
    (p.failedLoginAttempts + 1 < threshold ∧
      row = { p with failedLoginAttempts := p.failedLoginAttempts + 1 }) ∨
    (threshold ≤ p.failedLoginAttempts + 1 ∧
      row = { p with
        failedLoginAttempts := p.failedLoginAttempts + 1
        lockedUntil := some (env.now + duration) }) := by
  unfold failedRow at h
  cases hattempts : bigint (p.failedLoginAttempts + 1) with
  | error err =>
      rw [hattempts] at h
      cases h
  | ok attempts =>
      have hvalue := (bigint_ok hattempts).1
      simp only [hattempts, bind, Except.bind] at h
      split at h
      · rename_i hthreshold
        cases hlock : bigint (env.now + duration) with
        | error err =>
            rw [hlock] at h
            cases h
        | ok lockedUntil =>
            rw [hlock] at h
            cases h
            right
            rw [← hvalue, (bigint_ok hlock).1]
            exact ⟨hthreshold, rfl⟩
      · rename_i hthreshold
        cases h
        left
        rw [← hvalue]
        exact ⟨by omega, rfl⟩

omit [Citext] in
theorem failedRow_fits {env : Env} {p row : Person}
    (h : failedRow env threshold duration p = .ok row) :
    IsInt64 (p.failedLoginAttempts + 1) ∧
      (threshold ≤ p.failedLoginAttempts + 1 -> IsInt64 (env.now + duration)) := by
  unfold failedRow at h
  cases hattempts : bigint (p.failedLoginAttempts + 1) with
  | error err =>
      rw [hattempts] at h
      cases h
  | ok attempts =>
      rcases bigint_ok hattempts with ⟨hvalue, hfits⟩
      refine ⟨hfits, ?_⟩
      intro hthreshold
      rw [← hvalue] at hthreshold
      simp only [hattempts, bind, Except.bind, hthreshold, if_true] at h
      cases hlock : bigint (env.now + duration) with
      | error err =>
          rw [hlock] at h
          cases h
      | ok lockedUntil => exact (bigint_ok hlock).2

omit [Citext] in
theorem failedRow_of_fits {env : Env} {p : Person} (hattempts : IsInt64 (p.failedLoginAttempts + 1))
    (hlock : threshold ≤ p.failedLoginAttempts + 1 -> IsInt64 (env.now + duration)) :
    exists row, failedRow env threshold duration p = .ok row := by
  by_cases hthreshold : threshold ≤ p.failedLoginAttempts + 1
  · exact ⟨_, by
      simp [failedRow, bigint, hattempts, hlock hthreshold, hthreshold, bind,
        Except.bind, pure, Except.pure]; rfl⟩
  · exact ⟨_, by
      simp [failedRow, bigint, hattempts, hthreshold, bind, Except.bind, pure,
        Except.pure]; rfl⟩

omit [Citext] in
theorem failedRow_keeps {env : Env} {p row : Person}
    (h : failedRow env threshold duration p = .ok row) :
    row.id = p.id ∧ row.email = p.email ∧ row.passwordHash = p.passwordHash ∧
      row.emailVerifiedAt = p.emailVerifiedAt := by
  rcases failedRow_ok h with ⟨_, hrow⟩ | ⟨_, hrow⟩ <;> rw [hrow] <;>
    exact ⟨rfl, rfl, rfl, rfl⟩

variable (sodium : Sodium) (secrets : SecretsHelperPtr)

def finishLogin (p : Person) (credentialsValid : Bool) : Sql LoginAttemptResult := do
  let threshold ← lookupInt64Secret secrets
    Secrets.kAuthAccountLockoutAfterFailures kFallbackLockoutAfterFailures
  let lockoutDurationMicros ← lookupInt64Secret secrets
    Secrets.kAuthAccountLockoutDurationInMicros kFallbackLockoutDurationMicros
  if credentialsValid then do
    let row ← Prog.exec (People.updatePersonReturning p.id (fun _ r => .ok (clearedRow r)))
    pure (successResult p.id row)
  else do
    let row ← Prog.exec (People.updatePersonReturning p.id
      (fun env r => failedRow env threshold lockoutDurationMicros r))
    pure (failureResult threshold row)

def loginPerson (email password : String) : Sql LoginAttemptResult := do
  let person ← People.lookupPersonByEmail email
  match person with
  | none => pure LoginAttemptResult.initial
  | some p =>
      if isVerified person then
        finishLogin secrets p (sodium.verifyPassword password p.passwordHash)
      else
        pure LoginAttemptResult.initial

/-!
# What one attempt does
-/

def lockoutSettings (db : AuthDb) : Except Exn (Int × Int) := do
  let threshold ← int64Secret secrets db
    Secrets.kAuthAccountLockoutAfterFailures kFallbackLockoutAfterFailures
  let duration ← int64Secret secrets db
    Secrets.kAuthAccountLockoutDurationInMicros kFallbackLockoutDurationMicros
  pure (threshold, duration)

def checkedPerson (db : AuthDb) (email : String) : Option Person :=
  match People.personByEmail db email with
  | none => none
  | some p => if isVerified (some p) then some p else none

theorem checkedPerson_some {db : AuthDb} {email : String} {p : Person}
    (h : checkedPerson db email = some p) :
    People.personByEmail db email = some p ∧ isVerified (some p) = true := by
  unfold checkedPerson at h
  split at h
  · cases h
  · split at h
    · cases h
      exact ⟨by assumption, by assumption⟩
    · cases h

inductive AttemptEffect (db : AuthDb) (env : Env) (email password : String) :
    Except Exn LoginAttemptResult -> AuthDb -> Prop
  | notChecked (hnone : checkedPerson db email = none) :
      AttemptEffect db env email password (.ok LoginAttemptResult.initial) db
  | aborted (err : Exn)
      (hcommits : forall p threshold duration row, checkedPerson db email = some p ->
        sodium.verifyPassword password p.passwordHash = false ->
        lockoutSettings secrets db = .ok (threshold, duration) ->
        failedRow env threshold duration p ≠ .ok row) :
      AttemptEffect db env email password (.error err) db
  | succeeded {db' : AuthDb} {p : Person}
      (hchecked : checkedPerson db email = some p)
      (hverify : sodium.verifyPassword password p.passwordHash = true)
      (hreplaced : People.RowReplaced db db' p (clearedRow p)) :
      AttemptEffect db env email password
        (.ok (successResult p.id (some (clearedRow p)))) db'
  | failed {db' : AuthDb} {p row : Person} {threshold duration : Int}
      (hchecked : checkedPerson db email = some p)
      (hverify : sodium.verifyPassword password p.passwordHash = false)
      (hsettings : lockoutSettings secrets db = .ok (threshold, duration))
      (hrow : failedRow env threshold duration p = .ok row)
      (hreplaced : People.RowReplaced db db' p row) :
      AttemptEffect db env email password
        (.ok (failureResult threshold (some row))) db'

theorem wp_loginPerson (env : Env) (db : AuthDb) (email password : String) :
    Prog.wp env (loginPerson sodium secrets email password)
      (AttemptEffect sodium secrets db env email password) db := by
  simp only [loginPerson, People.lookupPersonByEmail, Prog.bind_eq, Prog.wp_bind,
    Prog.wp_ask]
  cases hfind : People.personByEmail db email with
  | none => exact AttemptEffect.notChecked (by simp [checkedPerson, hfind])
  | some p =>
      dsimp only
      split
      · rename_i hverified
        have hchecked : checkedPerson db email = some p := by
          simp [checkedPerson, hfind, hverified]
        have hmem := (People.personByEmail_some hfind).1
        simp only [finishLogin, Prog.bind_eq, Prog.wp_bind, wp_lookupInt64Secret]
        cases hthreshold : int64Secret secrets db
            Secrets.kAuthAccountLockoutAfterFailures kFallbackLockoutAfterFailures with
        | error err =>
            apply AttemptEffect.aborted
            intro p' threshold duration row _ _ hsettings
            simp [lockoutSettings, hthreshold, bind, Except.bind] at hsettings
        | ok threshold =>
            cases hduration : int64Secret secrets db
                Secrets.kAuthAccountLockoutDurationInMicros
                kFallbackLockoutDurationMicros with
            | error err =>
                apply AttemptEffect.aborted
                intro p' threshold' duration row _ _ hsettings
                simp [lockoutSettings, hthreshold, hduration, bind,
                  Except.bind] at hsettings
            | ok duration =>
                have hsettings : lockoutSettings secrets db =
                    .ok (threshold, duration) := by
                  simp [lockoutSettings, hthreshold, hduration, bind, Except.bind,
                    pure, Except.pure]
                have hfound : People.personById db p.id = some p :=
                  People.personById_of_mem hmem
                cases hverify : sodium.verifyPassword password p.passwordHash with
                | true =>
                    simp only [if_true, Prog.wp_bind, Prog.wp_exec]
                    rcases People.updatePersonReturning_cases p.id
                        (fun _ r => .ok (clearedRow r)) env db
                        (by intro r row h; cases h; exact ⟨rfl, rfl⟩) with
                      ⟨hnone, _⟩ | ⟨r, err, _, hchange, _⟩ |
                        ⟨r, row, db', hr, hchange, hreplaced, hwrite⟩
                    · rw [hfound] at hnone
                      cases hnone
                    · cases hchange
                    · rw [hfound] at hr
                      cases hr
                      cases hchange
                      rw [hwrite]
                      exact AttemptEffect.succeeded hchecked hverify hreplaced
                | false =>
                    simp only [Bool.false_eq_true, if_false, Prog.wp_bind,
                      Prog.wp_exec]
                    rcases People.updatePersonReturning_cases p.id
                        (fun env r => failedRow env threshold duration r) env db
                        (fun r row h =>
                          ⟨(failedRow_keeps h).1, (failedRow_keeps h).2.1⟩) with
                      ⟨hnone, _⟩ | ⟨r, err, hr, hchange, hwrite⟩ |
                        ⟨r, row, db', hr, hchange, hreplaced, hwrite⟩
                    · rw [hfound] at hnone
                      cases hnone
                    · rw [hfound] at hr
                      cases hr
                      rw [hwrite]
                      apply AttemptEffect.aborted
                      intro p' threshold' duration' row hp' _ hsettings' hrow
                      rw [hchecked] at hp'
                      cases hp'
                      rw [hsettings] at hsettings'
                      cases hsettings'
                      rw [hchange] at hrow
                      cases hrow
                    · rw [hfound] at hr
                      cases hr
                      rw [hwrite]
                      exact AttemptEffect.failed hchecked hverify hsettings hchange
                        hreplaced
      · rename_i hverified
        exact AttemptEffect.notChecked (by simp [checkedPerson, hfind, hverified])

theorem AttemptEffect.loginAttempts_eq {sodium : Sodium} {secrets : SecretsHelperPtr}
    {db db' : AuthDb} {env : Env} {email password : String}
    {outcome : Except Exn LoginAttemptResult}
    (h : AttemptEffect sodium secrets db env email password outcome db') :
    db'.loginAttempts = db.loginAttempts := by
  cases h with
  | notChecked hnone => rfl
  | aborted err hcommits => rfl
  | succeeded hchecked hverify hreplaced => rw [hreplaced.rest_eq]
  | failed hchecked hverify hsettings hrow hreplaced => rw [hreplaced.rest_eq]

end LoginPerson

end Auth
end ServerComponents
