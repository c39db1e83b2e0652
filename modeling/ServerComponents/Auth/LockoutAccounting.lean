import ServerComponents.Auth.LoginPerson
import ServerComponents.Statements.Run

/-!
# Lockout accounting

A run is a list of atomic transactions on one account: login attempts, each with
its own clock and settings, and clearings of the lockout.
-/

namespace ServerComponents
namespace Auth

open Relational Statements

section Lockout

variable [Citext] {account : String}

/-- One transaction; an attempt may spell the account's email its own way. -/
inductive LockoutCall (account : String) where
  | attempt (env : Env) (secrets : SecretsHelperPtr) (email password : String)
      (same : sameEmail email account = true)
  | clear (env : Env) (personId : Nat)

namespace LockoutCall

variable (sodium : Sodium)

def env : LockoutCall account -> Env
  | attempt env _ _ _ _ => env
  | clear env _ => env

def outcome (db : AuthDb) : LockoutCall account ->
    Option (Except Exn LoginAttemptResult) × AuthDb
  | attempt env secrets email password _ =>
      let (result, db') := Prog.transact env (loginPerson sodium secrets email password) db
      (some result, db')
  | clear env personId =>
      (none, (Prog.transact env (People.clearLoginLockout personId) db).2)

def perform (db : AuthDb) (call : LockoutCall account) : AuthDb :=
  (call.outcome sodium db).2

/-- `locked_until` is later than the clock. -/
def Locked (p : Person) (now : Int) : Prop :=
  exists l, p.lockedUntil = some l ∧ now < l

instance (p : Person) (now : Int) : Decidable (Locked p now) :=
  match h : p.lockedUntil with
  | none => isFalse (by simp [Locked, h])
  | some l => decidable_of_iff (now < l) (by simp [Locked, h])

/-!
## The law
-/

def fails (db : AuthDb) : LockoutCall account -> Bool
  | attempt env secrets email password _ =>
      match checkedPerson db email,
          (Prog.transact env (loginPerson sodium secrets email password) db).1 with
      | some p, .ok _ => ! sodium.verifyPassword password p.passwordHash
      | _, _ => false
  | clear _ _ => false

def resets (db : AuthDb) : LockoutCall account -> Bool
  | attempt env secrets email password _ =>
      match (Prog.transact env (loginPerson sodium secrets email password) db).1 with
      | .ok r => r.success
      | .error _ => false
  | clear _ personId =>
      match People.personByEmail db account with
      | some p => p.id == personId
      | none => false

/-- The failed attempts since the last reset, counted on from a start. -/
def failuresSince (db : AuthDb) (count : Int) : List (LockoutCall account) -> Int
  | [] => count
  | call :: calls =>
      failuresSince (perform sodium db call)
        (if resets sodium db call then 0
          else if fails sodium db call then count + 1
          else count) calls

def ReportsJustLocked (db : AuthDb) (call : LockoutCall account) : Prop :=
  exists r, (call.outcome sodium db).1 = some (.ok r) ∧ r.justLocked = true

def BecomesLocked (db : AuthDb) (call : LockoutCall account) : Prop :=
  exists p p', People.personByEmail db account = some p ∧
    People.personByEmail (perform sodium db call) account = some p' ∧
    Not (Locked p call.env.now) ∧ Locked p' call.env.now

def PushesLock (db : AuthDb) (call : LockoutCall account) : Prop :=
  exists p p' l l', People.personByEmail db account = some p ∧
    People.personByEmail (perform sodium db call) account = some p' ∧
    Locked p call.env.now ∧ p.lockedUntil = some l ∧ p'.lockedUntil = some l' ∧
    l < l'

/-- In every reached state the column counts the failures since the last reset. -/
def CountsFailures (db : AuthDb) (calls : List (LockoutCall account)) : Prop :=
  forall reached rest p p', calls = reached ++ rest ->
    People.personByEmail db account = some p ->
    People.personByEmail (after (perform sodium) db reached) account = some p' ->
    p'.failedLoginAttempts =
      failuresSince sodium db p.failedLoginAttempts reached

/-- The three parts of the accounting, for every call and every reached state. -/
structure LockoutLaw (db : AuthDb) (calls : List (LockoutCall account)) : Prop where
  counted : CountsFailures sodium db calls
  reported : Along (perform sodium) (fun db' call =>
    ReportsJustLocked sodium db' call <-> BecomesLocked sodium db' call) db calls
  notPushed : Along (perform sodium) (fun db' call =>
    Not (PushesLock sodium db' call)) db calls

/-!
## The regimes of the failure update

The count after the attempt is below the threshold, at it, or past it.
-/

/-- Where the report and the lock agree, with the row before the attempt. -/
def LockoutRegime (p : Person) (now threshold duration : Int) : Prop :=
  p.failedLoginAttempts + 1 < threshold ∨
  (p.failedLoginAttempts + 1 = threshold ∧
    (now + duration ≤ 0 ∨ (Not (Locked p now) ∧ 0 < duration))) ∨
  (threshold < p.failedLoginAttempts + 1 ∧
    ((exists l, p.lockedUntil = some l ∧ now < l ∧ now + duration ≤ l) ∨
      (Not (Locked p now) ∧ duration ≤ 0)))

/-- The condition on a call: a wrong password meets a row in a good regime, or
one of its two sums is no `bigint` and the transaction aborts. -/
def KeepsAccounting (db : AuthDb) : LockoutCall account -> Prop
  | attempt env secrets email password _ =>
      forall p threshold duration, checkedPerson db email = some p ->
        sodium.verifyPassword password p.passwordHash = false ->
        lockoutSettings secrets db = .ok (threshold, duration) ->
        IsInt64 (p.failedLoginAttempts + 1) ->
        (threshold ≤ p.failedLoginAttempts + 1 -> IsInt64 (env.now + duration)) ->
        LockoutRegime p env.now threshold duration
  | clear _ _ => True

/-!
## One call
-/

section OneCall

variable {sodium : Sodium} {db : AuthDb}

theorem attempt_effect (sodium : Sodium) (db : AuthDb) (env : Env) (secrets : SecretsHelperPtr)
    (email password : String) :
    AttemptEffect sodium secrets db env email password
      (Prog.transact env (loginPerson sodium secrets email password) db).1
      (Prog.transact env (loginPerson sodium secrets email password) db).2 := by
  apply Prog.transact_of_wp (wp_loginPerson sodium secrets env db email password)
  intro err db' heffect
  cases heffect with
  | aborted _ hcommits => exact AttemptEffect.aborted err hcommits

theorem personByEmail_replaced {db' : AuthDb} {p row : Person}
    (hp : People.personByEmail db account = some p)
    (hreplaced : People.RowReplaced db db' p row) :
    People.personByEmail db' account = some row := by
  rw [hreplaced.personByEmail_eq, hp]
  simp

inductive CallEffect (sodium : Sodium) (db : AuthDb) (p : Person) (call : LockoutCall account) :
    Person -> Prop
  | unchanged (hresets : resets sodium db call = false)
      (hfails : fails sodium db call = false)
      (hsilent : Not (ReportsJustLocked sodium db call))
      (hkeeps : KeepsAccounting sodium db call) : CallEffect sodium db p call p
  | cleared {row : Person} (hresets : resets sodium db call = true)
      (hsilent : Not (ReportsJustLocked sodium db call))
      (hkeeps : KeepsAccounting sodium db call)
      (hcount : row.failedLoginAttempts = 0) (hlock : row.lockedUntil = none) :
      CallEffect sodium db p call row
  | counted {row : Person} {threshold duration : Int}
      (hresets : resets sodium db call = false)
      (hfails : fails sodium db call = true)
      (hreports : ReportsJustLocked sodium db call <->
        (row.failedLoginAttempts = threshold ∧ 0 < row.lockedUntil.getD 0))
      (hkeeps : KeepsAccounting sodium db call <->
        LockoutRegime p call.env.now threshold duration)
      (hrow : failedRow call.env threshold duration p = .ok row) :
      CallEffect sodium db p call row

theorem call_effect (sodium : Sodium) {p : Person} (hp : People.personByEmail db account = some p)
    (call : LockoutCall account) :
    exists row, People.personByEmail (perform sodium db call) account = some row ∧
      CallEffect sodium db p call row := by
  cases call with
  | attempt env secrets email password same =>
      have heffect := attempt_effect sodium db env secrets email password
      have hperform : perform sodium db (attempt env secrets email password same) =
          (Prog.transact env (loginPerson sodium secrets email password) db).2 := rfl
      have hemail := People.personByEmail_congr same
      rw [hperform]
      generalize htransact :
        Prog.transact env (loginPerson sodium secrets email password) db = pair
        at heffect
      rcases pair with ⟨result, db'⟩
      cases heffect with
      | notChecked hnone =>
          refine ⟨p, hp, CallEffect.unchanged ?_ ?_ ?_ ?_⟩
          · simp [resets, htransact, LoginAttemptResult.initial]
          · simp [fails, hnone]
          · simp [ReportsJustLocked, outcome, htransact, LoginAttemptResult.initial]
          · intro p' threshold duration hchecked
            rw [hnone] at hchecked
            cases hchecked
      | aborted err hcommits =>
          refine ⟨p, hp, CallEffect.unchanged ?_ ?_ ?_ ?_⟩
          · simp [resets, htransact]
          · simp [fails, htransact]
          · simp [ReportsJustLocked, outcome, htransact]
          · intro p' threshold duration hchecked hverify hsettings hattempts hlock
            rcases failedRow_of_fits hattempts hlock with ⟨row, hrow⟩
            exact absurd hrow
              (hcommits p' threshold duration row hchecked hverify hsettings)
      | succeeded hchecked hverify hreplaced =>
          rename_i p'
          have hfound := (checkedPerson_some hchecked).1
          rw [hemail, hp] at hfound
          cases hfound
          refine ⟨clearedRow p, personByEmail_replaced hp hreplaced,
            CallEffect.cleared ?_ ?_ ?_ rfl rfl⟩
          · simp [resets, htransact, successResult]
          · simp [ReportsJustLocked, outcome, htransact, successResult,
              LoginAttemptResult.initial]
          · intro p' threshold duration hchecked' hverify'
            rw [hchecked] at hchecked'
            cases hchecked'
            rw [hverify] at hverify'
            cases hverify'
      | failed hchecked hverify hsettings hrow hreplaced =>
          rename_i p' row threshold duration
          have hfound := (checkedPerson_some hchecked).1
          rw [hemail, hp] at hfound
          cases hfound
          refine ⟨row, personByEmail_replaced hp hreplaced,
            CallEffect.counted ?_ ?_ ?_ ?_ hrow⟩
          · simp [resets, htransact, failureResult, LoginAttemptResult.initial]
          · simp [fails, htransact, hchecked, hverify]
          · simp [ReportsJustLocked, outcome, htransact, failureResult]
          · constructor
            · intro hkeeps
              have hfits := failedRow_fits hrow
              exact hkeeps p threshold duration hchecked hverify hsettings
                hfits.1 hfits.2
            · intro hregime p' threshold' duration' hchecked' _ hsettings' _ _
              rw [hchecked] at hchecked'
              cases hchecked'
              rw [hsettings] at hsettings'
              cases hsettings'
              exact hregime
  | clear env personId =>
      have hsilent : Not (ReportsJustLocked sodium db
          (@clear _ account env personId)) := by
        simp [ReportsJustLocked, outcome]
      have hcleared : exists row,
          People.personByEmail (perform sodium db
            (@clear _ account env personId)) account = some row ∧
          ((p.id = personId ∧ row.failedLoginAttempts = 0 ∧ row.lockedUntil = none) ∨
            (p.id ≠ personId ∧ row = p)) := by
        have hwp : Prog.wp env (People.clearLoginLockout personId)
            (fun result db' => result = .ok () ∧ exists row,
              People.personByEmail db' account = some row ∧
              ((p.id = personId ∧ row.failedLoginAttempts = 0 ∧
                  row.lockedUntil = none) ∨
                (p.id ≠ personId ∧ row = p))) db := by
          apply People.wp_clearLoginLockout
          · intro hnone
            refine ⟨rfl, p, hp, Or.inr ⟨?_, rfl⟩⟩
            intro hid
            have hfound := People.personById_of_mem (People.personByEmail_some hp).1
            rw [hid, hnone] at hfound
            cases hfound
          · intro p0 db' hfound hreplaced
            have hid0 := (People.personById_some hfound).2
            rw [hreplaced.personByEmail_eq, hp, Option.map_some, hid0]
            by_cases hid : p.id = personId
            · exact ⟨rfl, _, rfl, Or.inl ⟨hid, by simp [hid], by simp [hid]⟩⟩
            · exact ⟨rfl, _, rfl, Or.inr ⟨hid, by simp [hid]⟩⟩
        exact (Prog.transact_of_wp hwp (fun _ _ h => absurd h.1 (by simp))).2
      rcases hcleared with ⟨row, hrow, ⟨hid, hcount, hlock⟩ | ⟨hid, hsame⟩⟩
      · refine ⟨row, hrow, CallEffect.cleared ?_ hsilent trivial hcount hlock⟩
        simp [resets, hp, hid]
      · rw [hsame] at hrow
        refine ⟨p, hrow, CallEffect.unchanged ?_ rfl hsilent trivial⟩
        simp [resets, hp, hid]

omit [Citext] in
/-- The regime is exactly where the failure update reports the locks that it
sets and pushes no lock further out. -/
theorem lockoutRegime_iff {env : Env} {threshold duration : Int} {p row : Person}
    (hrow : failedRow env threshold duration p = .ok row) :
    LockoutRegime p env.now threshold duration <->
      (((row.failedLoginAttempts = threshold ∧ 0 < row.lockedUntil.getD 0) <->
          (Not (Locked p env.now) ∧ Locked row env.now)) ∧
        forall l l', Locked p env.now -> p.lockedUntil = some l ->
          row.lockedUntil = some l' -> l' ≤ l) := by
  have hnow : (0 : Int) ≤ env.now := Int.natCast_nonneg env.now
  rcases failedRow_ok hrow with ⟨hbelow, hrow'⟩ | ⟨hreached, hrow'⟩
  · rw [hrow']
    cases hlock : p.lockedUntil with
    | none =>
        simp [LockoutRegime, Locked, hlock]
        omega
    | some l =>
        simp [LockoutRegime, Locked, hlock]
        omega
  · rw [hrow']
    cases hlock : p.lockedUntil with
    | none =>
        simp [LockoutRegime, Locked, hlock]
        omega
    | some l =>
        simp [LockoutRegime, Locked, hlock]
        omega

theorem call_counts {p row : Person} {call : LockoutCall account}
    (heffect : CallEffect sodium db p call row) :
    row.failedLoginAttempts =
      if resets sodium db call then 0
      else if fails sodium db call then p.failedLoginAttempts + 1
      else p.failedLoginAttempts := by
  cases heffect with
  | unchanged hresets hfails _ _ => simp [hresets, hfails]
  | cleared hresets _ _ hcount _ => simp [hresets, hcount]
  | counted hresets hfails _ _ hrow =>
      rcases failedRow_ok hrow with ⟨_, hrow'⟩ | ⟨_, hrow'⟩ <;>
        simp [hresets, hfails, hrow']

theorem silent_of_no_row (sodium : Sodium)
    (hnone : People.personByEmail db account = none)
    (call : LockoutCall account) :
    Not (ReportsJustLocked sodium db call) ∧ KeepsAccounting sodium db call := by
  cases call with
  | attempt env secrets email password same =>
      have hunchecked : checkedPerson db email = none := by
        simp [checkedPerson, People.personByEmail_congr same, hnone]
      have heffect := attempt_effect sodium db env secrets email password
      constructor
      · generalize htransact :
          Prog.transact env (loginPerson sodium secrets email password) db = pair
          at heffect
        rcases pair with ⟨result, db'⟩
        cases heffect with
        | notChecked _ =>
            simp [ReportsJustLocked, outcome, htransact, LoginAttemptResult.initial]
        | aborted err _ => simp [ReportsJustLocked, outcome, htransact]
        | succeeded hchecked _ _ =>
            rw [hunchecked] at hchecked
            cases hchecked
        | failed hchecked _ _ _ _ =>
            rw [hunchecked] at hchecked
            cases hchecked
      · intro p threshold duration hchecked
        rw [hunchecked] at hchecked
        cases hchecked
  | clear env personId =>
      exact ⟨by simp [ReportsJustLocked, outcome], trivial⟩

theorem becomesLocked_iff {p row : Person} {call : LockoutCall account}
    (hfind : People.personByEmail db account = some p)
    (hafter : People.personByEmail (perform sodium db call) account = some row) :
    BecomesLocked sodium db call <->
      Not (Locked p call.env.now) ∧ Locked row call.env.now := by
  simp [BecomesLocked, hfind, hafter]

theorem pushesLock_iff {p row : Person} {call : LockoutCall account}
    (hfind : People.personByEmail db account = some p)
    (hafter : People.personByEmail (perform sodium db call) account = some row) :
    PushesLock sodium db call <->
      exists l l', Locked p call.env.now ∧ p.lockedUntil = some l ∧
        row.lockedUntil = some l' ∧ l < l' := by
  simp [PushesLock, hfind, hafter]

theorem call_lawful_iff (call : LockoutCall account) :
    ((ReportsJustLocked sodium db call <-> BecomesLocked sodium db call) ∧
      Not (PushesLock sodium db call)) <-> KeepsAccounting sodium db call := by
  cases hfind : People.personByEmail db account with
  | none =>
      rcases silent_of_no_row sodium hfind call with ⟨hsilent, hkeeps⟩
      simp [hsilent, hkeeps, BecomesLocked, PushesLock, hfind]
  | some p =>
      rcases call_effect sodium hfind call with ⟨row, hafter, heffect⟩
      rw [becomesLocked_iff hfind hafter, pushesLock_iff hfind hafter]
      cases heffect with
      | unchanged _ _ hsilent hkeeps =>
          simp only [hsilent, hkeeps, false_iff, iff_true]
          constructor
          · intro h
            exact h.1 h.2
          · intro h
            rcases h with ⟨l, l', _, hl, hl', hlt⟩
            rw [hl] at hl'
            cases hl'
            exact absurd hlt (Int.lt_irrefl l)
      | cleared _ hsilent hkeeps _ hlock =>
          simp [hsilent, hkeeps, Locked, hlock]
      | counted _ _ hreports hkeeps hrow =>
          rw [hkeeps, lockoutRegime_iff hrow, hreports]
          apply and_congr_right'
          constructor
          · intro hnot l l' hlocked hl hl'
            by_contra hlt
            exact hnot ⟨l, l', hlocked, hl, hl', by omega⟩
          · intro hle h
            rcases h with ⟨l, l', hlocked, hl, hl', hlt⟩
            have := hle l l' hlocked hl hl'
            omega

end OneCall

theorem after_counts (sodium : Sodium) {db : AuthDb} {p p' : Person}
    {calls : List (LockoutCall account)}
    (hp : People.personByEmail db account = some p)
    (hp' : People.personByEmail (after (perform sodium) db calls) account = some p') :
    p'.failedLoginAttempts =
      failuresSince sodium db p.failedLoginAttempts calls := by
  induction calls generalizing db p with
  | nil =>
      rw [after_nil, hp] at hp'
      cases hp'
      rfl
  | cons call calls ih =>
      rcases call_effect sodium hp call with ⟨row, hrow, heffect⟩
      rw [ih hrow hp', failuresSince, call_counts heffect]

theorem countsFailures (sodium : Sodium) (db : AuthDb)
    (calls : List (LockoutCall account)) : CountsFailures sodium db calls :=
  fun _ _ _ _ _ hp hp' => after_counts sodium hp hp'

/--
The failure count is exact in every run; the lock reports are exact and no lock
is pushed out in precisely the runs whose calls all meet the condition.
-/
theorem lockoutAccounting (sodium : Sodium) (db : AuthDb)
    (calls : List (LockoutCall account)) :
    CountsFailures sodium db calls ∧
      (LockoutLaw sodium db calls <->
        Along (perform sodium) (KeepsAccounting sodium) db calls) := by
  refine ⟨countsFailures sodium db calls, ?_⟩
  constructor
  · intro hlaw pre call post hcalls
    exact (call_lawful_iff call).mp
      ⟨hlaw.reported pre call post hcalls, hlaw.notPushed pre call post hcalls⟩
  · intro hkeeps
    constructor
    · exact countsFailures sodium db calls
    · intro pre call post hcalls
      exact ((call_lawful_iff call).mpr (hkeeps pre call post hcalls)).1
    · intro pre call post hcalls
      exact ((call_lawful_iff call).mpr (hkeeps pre call post hcalls)).2

end LockoutCall

end Lockout

/-!
## Locks that are set again

The threshold is one failure.  The second wrong password comes while the account
is locked, and the third after the lock has run out.
-/

section FailingRun

open LockoutCall

attribute [local instance] Citext.plain

/-- A login of the account at a clock, with one failure allowed and a lock of
half an hour. -/
def loginAt (now : Nat) (now_lt : now < 9223372036854775808) (password : String) :
    LockoutCall "ann@example.com" :=
  .attempt { now := now, uuid := "", now_lt := now_lt }
    (some (SecretsHelper.ofSettings
      [(Secrets.kAuthAccountLockoutAfterFailures, "1"),
        (Secrets.kAuthAccountLockoutDurationInMicros, "1800000000")]))
    "ann@example.com" password (by decide)

def wrongPasswords : List (LockoutCall "ann@example.com") :=
  [loginAt 1000 (by decide) "guess", loginAt 2000 (by decide) "guess",
    loginAt 9000000000 (by decide) "guess"]

/-- The second attempt pushes the lock out, and the third locks the account again
without a report. -/
theorem lockoutLaw_fails :
    Not (LockoutLaw Sodium.plain onePerson wrongPasswords) := by
  intro hlaw
  have hsilent : Not (ReportsJustLocked Sodium.plain
      (after (perform Sodium.plain) onePerson (wrongPasswords.take 2))
      (loginAt 9000000000 (by decide) "guess")) := by
    intro h
    rcases h with ⟨r, hr, hjust⟩
    have hthird : (outcome Sodium.plain
        (after (perform Sodium.plain) onePerson (wrongPasswords.take 2))
        (loginAt 9000000000 (by decide) "guess")).1 =
        some (.ok { LoginAttemptResult.initial with
          failedLoginAttempts := 3, lockedUntil := 10800000000 }) := by
      decide
    rw [hthird] at hr
    cases hr
    cases hjust
  have hlocks : BecomesLocked Sodium.plain
      (after (perform Sodium.plain) onePerson (wrongPasswords.take 2))
      (loginAt 9000000000 (by decide) "guess") :=
    ⟨{ id := 1, email := "ann@example.com", firstName := "Ann"
       lastName := "Lee", passwordHash := "pw"
       emailVerifiedAt := some 1, mustChangePassword := false, updatedAt := 0
       failedLoginAttempts := 2, lockedUntil := some 1800002000 },
      { id := 1, email := "ann@example.com", firstName := "Ann"
        lastName := "Lee", passwordHash := "pw"
        emailVerifiedAt := some 1, mustChangePassword := false, updatedAt := 0
        failedLoginAttempts := 3, lockedUntil := some 10800000000 },
      by decide, by decide, by decide, by decide⟩
  exact hsilent ((hlaw.reported (wrongPasswords.take 2) _ [] rfl).mpr hlocks)

end FailingRun

end Auth
end ServerComponents
