import ServerComponents.Auth.LoginGate
import ServerComponents.Auth.LoginPerson

/-!
# The login request

The gate followed by the login attempt, as the login endpoint runs them in one
transaction, and what that program may do statement by statement.
-/

namespace ServerComponents
namespace Auth

open Relational Statements

section LoginRequest

variable [Citext]

structure LoginRequest (account : String) where
  secrets : SecretsHelperPtr
  email : String
  password : String
  ip : String
  same : sameEmail email account = true

inductive LoginOutcome where
  | refused (gate : LoginGateResult)
  | attempted (result : LoginAttemptResult)
  deriving Repr, DecidableEq

def LoginOutcome.success : LoginOutcome -> Bool
  | refused _ => false
  | attempted result => result.success

def loginRequest (sodium : Sodium) {account : String} (r : LoginRequest account) :
    Sql LoginOutcome := do
  let gate ← LoginGate.checkBeforeLogin r.secrets r.email r.ip
  if gate = .allow then do
    let result ← loginPerson sodium r.secrets r.email r.password
    pure (.attempted result)
  else
    pure (.refused gate)

/-!
# What a request may do
-/

section Request

variable (sodium : Sodium) {account : String}

def accountKey (account : String) (db : AuthDb) : Option (Nat × String) :=
  (People.personByEmail db account).map (fun p => (p.id, p.passwordHash))

/-- The only write of a request rewrites the account's row and ends the request. -/
def LoginWrites (r : LoginRequest account) (_ : Env) (db db' : AuthDb)
    (rest : Sql LoginOutcome) : Prop :=
  exists p row result, rest = .done (.attempted result) ∧
    People.personByEmail db account = some p ∧
    People.RowReplaced db db' p row ∧ row.passwordHash = p.passwordHash ∧
    ((result.success = true ∧
        sodium.verifyPassword r.password p.passwordHash = true ∧
        row.lockedUntil = none) ∨
      (result.success = false ∧
        sodium.verifyPassword r.password p.passwordHash = false))

theorem update_of_key {key : Nat × String} {change : Env -> Person -> Except Exn Person}
    {env : Env} {db db' : AuthDb} {reply : Option Person}
    (hkeep : forall p row, change env p = .ok row ->
      row.id = p.id ∧ row.email = p.email)
    (hkey : accountKey account db = some key)
    (hwrite : People.updatePersonReturning key.1 change env db = .ok (reply, db')) :
    exists p row, reply = some row ∧ change env p = .ok row ∧
      People.personByEmail db account = some p ∧ p.passwordHash = key.2 ∧
      People.RowReplaced db db' p row := by
  rcases Option.map_eq_some_iff.mp hkey with ⟨p, hp, hpkey⟩
  have hfound : People.personById db key.1 = some p := by
    rw [← hpkey]
    exact People.personById_of_mem (People.personByEmail_some hp).1
  rcases People.updatePersonReturning_cases key.1 change env db hkeep with
    ⟨hnone, _⟩ | ⟨_, err, _, _, herror⟩ |
      ⟨p', row, version, hp', hchange, hreplaced, hresult⟩
  · rw [hfound] at hnone
    cases hnone
  · rw [herror] at hwrite
    cases hwrite
  · rw [hfound] at hp'
    cases hp'
    rw [hresult] at hwrite
    cases hwrite
    exact ⟨p, row, rfl, hchange, hp, by rw [← hpkey], hreplaced⟩

theorem respects_finishLogin (r : LoginRequest account) (p : Person) :
    Prog.Respects (fun _ db => accountKey account db = some (p.id, p.passwordHash))
      (fun o => o.success = false) (LoginWrites sodium r)
      ((finishLogin r.secrets p
        (sodium.verifyPassword r.password p.passwordHash)).bind
          (fun result => .done (.attempted result))) := by
  unfold finishLogin
  simp only [Prog.bind_eq, Prog.bind_assoc]
  apply Prog.respects_bind
  apply (LoginGate.readOnly_lookupInt64Secret r.secrets _ _).respects
  intro threshold
  apply Prog.respects_bind
  apply (LoginGate.readOnly_lookupInt64Secret r.secrets _ _).respects
  intro duration
  cases hverify : sodium.verifyPassword r.password p.passwordHash with
  | true =>
      simp only [if_true, Prog.bind_assoc]
      apply Prog.respects_exec_bind
      intro env db reply db' hkey hwrite
      rcases update_of_key (by intro q row h; cases h; exact ⟨rfl, rfl⟩)
        hkey hwrite with ⟨q, row, hreply, hchange, hq, hhash, hreplaced⟩
      cases hchange
      have hgood : sodium.verifyPassword r.password q.passwordHash = true := by
        rw [hhash]
        exact hverify
      rw [hreply]
      exact ⟨q, _, _, rfl, hq, hreplaced, rfl, Or.inl ⟨rfl, hgood, rfl⟩⟩
  | false =>
      simp only [Bool.false_eq_true, if_false, Prog.bind_assoc]
      apply Prog.respects_exec_bind
      intro env db reply db' hkey hwrite
      rcases update_of_key
        (fun q row h => ⟨(failedRow_keeps h).1, (failedRow_keeps h).2.1⟩)
        hkey hwrite with ⟨q, row, hreply, hchange, hq, hhash, hreplaced⟩
      have hbad : sodium.verifyPassword r.password q.passwordHash = false := by
        rw [hhash]
        exact hverify
      rw [hreply]
      exact ⟨q, row, _, rfl, hq, hreplaced, (failedRow_keeps hchange).2.2.1,
        Or.inr ⟨rfl, hbad⟩⟩

theorem respects_loginPerson (r : LoginRequest account) (key : Option (Nat × String)) :
    Prog.Respects (fun _ db => accountKey account db = key)
      (fun o => o.success = false) (LoginWrites sodium r)
      ((loginPerson sodium r.secrets r.email r.password).bind
        (fun result => .done (.attempted result))) := by
  simp only [loginPerson, People.lookupPersonByEmail, Prog.bind_eq, Prog.bind_assoc]
  apply Prog.respects_bind
  apply Prog.respects_ask
  intro env db person hkey hread
  have hperson : person = People.personByEmail db account := by
    cases hread
    exact People.personByEmail_congr r.same db
  cases person with
  | none => exact rfl
  | some p =>
      have hpkey : key = some (p.id, p.passwordHash) := by
        rw [← hkey, accountKey, ← hperson]
        rfl
      dsimp only
      split
      · rw [hpkey]
        exact respects_finishLogin sodium r p
      · exact rfl

theorem respects_loginRequest (r : LoginRequest account)
    (key : Option (Nat × String)) :
    Prog.Respects (fun _ db => accountKey account db = key)
      (fun o => o.success = false) (LoginWrites sodium r)
      (loginRequest sodium r) := by
  apply Prog.respects_bind
  apply (LoginGate.readOnly_checkBeforeLogin r.secrets r.email r.ip).respects
  intro gate
  split
  · exact respects_loginPerson sodium r key
  · exact rfl

def afterLockRead (r : LoginRequest account) (lockedUntil : Int) :
    Sql LoginOutcome :=
  ((LoginGate.lockInForce lockedUntil).bind (fun locked =>
    if locked then .done .accountLocked
    else LoginGate.checkLoginCounts r.secrets r.email r.ip)).bind (fun gate =>
      if gate = .allow then
        (loginPerson sodium r.secrets r.email r.password).bind
          (fun result => .done (.attempted result))
      else .done (.refused gate))

theorem loginRequest_eq {r : LoginRequest account} (hemail : r.email ≠ "") :
    exists next : Except Exn Int -> Sql LoginOutcome,
      loginRequest sodium r =
        Prog.query (fun _ db => .ok (LoginGate.maxLockedUntil db r.email)) next ∧
      forall lockedUntil, next (.ok lockedUntil) = afterLockRead sodium r lockedUntil := by
  unfold loginRequest LoginGate.checkBeforeLogin
  rw [if_neg hemail]
  exact ⟨_, rfl, fun _ => rfl⟩

/-- A request that cannot succeed at any clock up to the given time. -/
def Harmless (time : Int) (p : Sql LoginOutcome) : Prop :=
  Prog.Respects (fun env _ => (env.now : Int) ≤ time) (fun o => o.success = false)
    (fun _ _ _ _ => False) p

theorem harmless_afterLockRead {r : LoginRequest account} {time lockedUntil : Int}
    (htime : 0 ≤ time) (hlocked : time < lockedUntil) :
    Harmless time (afterLockRead sodium r lockedUntil) := by
  apply Prog.respects_bind
  apply Prog.respects_bind
  unfold LoginGate.lockInForce
  rw [if_pos (by omega)]
  apply Prog.respects_bind
  apply Prog.respects_ask
  intro env db now hnow hread
  have hlate : decide (now < lockedUntil) = true := by
    cases hread
    exact decide_eq_true (by omega)
  simp [hlate, LoginOutcome.success]

end Request

end LoginRequest

end Auth
end ServerComponents
